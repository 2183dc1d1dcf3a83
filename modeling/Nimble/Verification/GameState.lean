import Nimble.Verification.SessionEvents

/-! # Where an adopted game state comes from

What an adopted game state owes to the responses and the chunks before it. -/

namespace Nimble

variable {L : Libraries}

/-! ## The announcement of a download -/

theorem downloadFields_of_accepted {client : NimbleClient L} {datagram : Datagram L}
    {response : GameStateFields}
    (h : (SessionEvent.feed client datagram).accepted? = some response) :
    (nimbleClientFeed client datagram).2.joinStateId = response.stateId ∧
      (nimbleClientFeed client datagram).2.joinStateChannel = response.channelId := by
  obtain ⟨x, hx, hresponse⟩ := Option.bind_eq_some_iff.mp h
  have hfields := x.downloadFields_outcome
  rw [← nimbleClientFeed_of_dispatch hx] at hfields
  by_cases hstarts : x.StartsDownload
  · rw [if_pos hstarts] at hresponse hfields
    rw [← Option.some.inj hresponse]
    exact ⟨congrArg DownloadFields.joinStateId hfields,
      congrArg DownloadFields.joinStateChannel hfields⟩
  · rw [if_neg hstarts] at hresponse
    cases hresponse

/-- Without an accepted game state response a feed keeps the announced state, and its channel
unless a join response clears that. -/
theorem downloadFields_of_not_accepted {client : NimbleClient L} {datagram : Datagram L}
    (h : (SessionEvent.feed client datagram).accepted? = none) :
    (nimbleClientFeed client datagram).2.joinStateId = client.joinStateId ∧
      (¬(SessionEvent.feed client datagram).Joins →
        (nimbleClientFeed client datagram).2.joinStateChannel = client.joinStateChannel) ∧
      ((SessionEvent.feed client datagram).Joins →
        (nimbleClientFeed client datagram).2.joinStateChannel = 0) := by
  cases hx : dispatch? client datagram with
  | none =>
      have hfields := headerKeeps_downloadFields.of_dispatch_eq_none hx
      refine ⟨congrArg DownloadFields.joinStateId hfields,
        fun _ => congrArg DownloadFields.joinStateChannel hfields, ?_⟩
      rintro ⟨x, hx', _⟩
      rw [hx] at hx'
      cases hx'
  | some x =>
      have hstarts : ¬x.StartsDownload := by
        intro hstarts
        simp only [SessionEvent.accepted?, hx, Option.bind_some, if_pos hstarts] at h
        cases h
      have hjoins : (SessionEvent.feed client datagram).Joins ↔ x.Joins := by
        simp [SessionEvent.Joins, SessionEvent.Feeds, hx]
      have hclient := headerKeeps_downloadFields.of_dispatch hx
      have hid : x.client.joinStateId = client.joinStateId :=
        congrArg DownloadFields.joinStateId hclient
      have hchannel : x.client.joinStateChannel = client.joinStateChannel :=
        congrArg DownloadFields.joinStateChannel hclient
      have hfields := x.downloadFields_outcome
      rw [← nimbleClientFeed_of_dispatch hx, if_neg hstarts] at hfields
      rw [hjoins, ← hid, ← hchannel]
      by_cases hj : x.Joins
      · rw [if_pos hj] at hfields
        exact ⟨congrArg DownloadFields.joinStateId hfields, fun hn => absurd hj hn,
          fun _ => congrArg DownloadFields.joinStateChannel hfields⟩
      rw [if_neg hj] at hfields
      have hkeeps : (nimbleClientFeed client datagram).2.joinStateId = x.client.joinStateId ∧
          (nimbleClientFeed client datagram).2.joinStateChannel = x.client.joinStateChannel := by
        split at hfields
        · exact ⟨congrArg DownloadFields.joinStateId hfields,
            congrArg DownloadFields.joinStateChannel hfields⟩
        · exact ⟨congrArg DownloadFields.joinStateId hfields,
            congrArg DownloadFields.joinStateChannel hfields⟩
      exact ⟨hkeeps.1, fun _ => hkeeps.2, fun hx => absurd hx hj⟩

/-- The blob stream changes by the chunks that contribute to it, and by nothing else. -/
theorem blobStreamIn_of_not_contributes {client : NimbleClient L} {datagram : Datagram L}
    (h : ¬(SessionEvent.feed client datagram).Contributes) :
    (nimbleClientFeed client datagram).2.blobStreamIn = client.blobStreamIn := by
  cases hx : dispatch? client datagram with
  | none =>
      exact congrArg DownloadFields.blobStreamIn (headerKeeps_downloadFields.of_dispatch_eq_none hx)
  | some x =>
      have hblob : x.client.blobStreamIn = client.blobStreamIn :=
        congrArg DownloadFields.blobStreamIn (headerKeeps_downloadFields.of_dispatch hx)
      have hfields := congrArg DownloadFields.blobStreamIn x.downloadFields_outcome
      rw [← nimbleClientFeed_of_dispatch hx] at hfields
      refine Eq.trans (hfields.trans ?_) hblob
      split
      · rfl
      split
      · rfl
      split
      · exact not_not.mp fun hne => h ⟨x, hx, ‹_›, hne⟩
      · rfl

theorem Leads.of_not_contributes {a b : DownloadFields L} {events : List (SessionEvent L)}
    (h : Leads a events b) (hnone : ∀ e ∈ events, ¬e.Contributes) :
    b.blobStreamIn = a.blobStreamIn := by
  induction h with
  | nil fields => rfl
  | restart _ ih => exact ih fun e he => hnone e (List.mem_cons_of_mem _ he)
  | feed _ ih =>
      exact (ih fun e he => hnone e (List.mem_cons_of_mem _ he)).trans
        (blobStreamIn_of_not_contributes (hnone _ List.mem_cons_self))

/-- What events without an accepted game state response lead to. -/
theorem Leads.of_not_accepted {a b : DownloadFields L} {events : List (SessionEvent L)}
    (h : Leads a events b) (hnone : ∀ e ∈ events, e.accepted? = none) :
    b.joinStateId = a.joinStateId ∧
      ((∀ e ∈ events, ¬e.Joins) → b.joinStateChannel = a.joinStateChannel) ∧
      ((∃ e ∈ events, e.Joins) → b.joinStateChannel = 0) := by
  induction h with
  | nil fields => exact ⟨rfl, fun _ => rfl, by simp⟩
  | restart _ ih =>
      obtain ⟨hid, hkeeps, hclears⟩ := ih fun e he => hnone e (List.mem_cons_of_mem _ he)
      refine ⟨hid, fun hj => hkeeps fun e he => hj e (List.mem_cons_of_mem _ he), ?_⟩
      rintro ⟨e, he, hjoins⟩
      rcases List.mem_cons.mp he with rfl | he
      · exact hjoins.elim
      · exact hclears ⟨e, he, hjoins⟩
  | @feed client datagram last events _ ih =>
      obtain ⟨hid, hkeeps, hclears⟩ := ih fun e he => hnone e (List.mem_cons_of_mem _ he)
      obtain ⟨hfeedId, hfeedKeeps, hfeedClears⟩ :=
        downloadFields_of_not_accepted (hnone _ List.mem_cons_self)
      refine ⟨hid.trans hfeedId, fun hj => ?_, fun hj => ?_⟩
      · exact (hkeeps fun e he => hj e (List.mem_cons_of_mem _ he)).trans
          (hfeedKeeps (hj _ List.mem_cons_self))
      · by_cases hlater : ∃ e ∈ events, e.Joins
        · exact hclears hlater
        · obtain ⟨e, he, hjoins⟩ := hj
          rcases List.mem_cons.mp he with rfl | he
          · exact (hkeeps fun e he hje => hlater ⟨e, he, hje⟩).trans (hfeedClears hjoins)
          · exact absurd ⟨e, he, hjoins⟩ hlater

/-- Behind an accepted response a download goes by what the response announced. -/
theorem Leads.of_accepted {start last : DownloadFields L}
    {before after : List (SessionEvent L)} {event : SessionEvent L} {response : GameStateFields}
    (h : Leads start (before ++ event :: after) last) (hresponse : event.accepted? = some response) :
    ∃ fields : DownloadFields L, fields.joinStateId = response.stateId ∧
      fields.joinStateChannel = response.channelId ∧ Leads fields after last := by
  obtain ⟨_, _, hafter⟩ := h.split
  cases hafter with
  | restart _ => cases hresponse
  | feed htail =>
      obtain ⟨hid, hchannel⟩ := downloadFields_of_accepted hresponse
      exact ⟨_, hid, hchannel, htail⟩

theorem Leads.to_feed {fields last : DownloadFields L} {before after : List (SessionEvent L)}
    {client : NimbleClient L} {datagram : Datagram L}
    (h : Leads fields (before ++ .feed client datagram :: after) last) :
    Leads fields before client.downloadFields := by
  obtain ⟨_, hbefore, hafter⟩ := h.split
  cases hafter with
  | feed _ => exact hbefore

/-! ## Adoption -/

/-- The client starts the game at the state of this id: the blob becomes the game state, and the
three step buffers restart. -/
structure StartsAt (before after : NimbleClient L) (stepId : StepId) : Prop where
  joinedStepId : after.joinedGameState.stepId = stepId
  octets : after.joinedGameState.gameState.map GameStateBlock.octets =
    some ((L.blob after.blobStreamIn).take (L.blobOctetCount after.blobStreamIn))
  authoritativePendingStepsFromServer : after.authoritativePendingStepsFromServer =
    L.nbsPendingStepsReset before.authoritativePendingStepsFromServer stepId
  authoritativeStepsFromServer : after.authoritativeStepsFromServer =
    L.nbsStepsReInit before.authoritativeStepsFromServer stepId
  outSteps : after.outSteps = L.nbsStepsReInit before.outSteps stepId

theorem StartsAt.of_protocolState {before other after : NimbleClient L} {stepId : StepId}
    (h : StartsAt before after stepId) (heq : before.protocolState = other.protocolState) :
    StartsAt other after stepId := by
  have hpending : before.authoritativePendingStepsFromServer =
      other.authoritativePendingStepsFromServer :=
    congrArg ProtocolState.authoritativePendingStepsFromServer heq
  have hsteps : before.authoritativeStepsFromServer = other.authoritativeStepsFromServer :=
    congrArg ProtocolState.authoritativeStepsFromServer heq
  have hout : before.outSteps = other.outSteps := congrArg ProtocolState.outSteps heq
  exact ⟨h.joinedStepId, h.octets, hpending ▸ h.authoritativePendingStepsFromServer,
    hsteps ▸ h.authoritativeStepsFromServer, hout ▸ h.outSteps⟩

theorem startsAt_adoptBlob (self : NimbleClient L) :
    StartsAt self self.adoptBlob self.joinStateId :=
  ⟨rfl, rfl, rfl, rfl, rfl⟩

/-- Every adoption starts the game at the state id the client holds. -/
theorem startsAt_of_adopts {client : NimbleClient L} {datagram : Datagram L}
    (h : (SessionEvent.feed client datagram).Adopts) :
    StartsAt client (nimbleClientFeed client datagram).2 client.joinStateId := by
  obtain ⟨x, hx, hadopts⟩ := h
  have hprotocol := protocolState_of_dispatch hx
  have hid : x.client.joinStateId = client.joinStateId :=
    congrArg ProtocolState.joinStateId hprotocol
  rw [nimbleClientFeed_of_dispatch hx, x.outcome_of_adoptsBlob hadopts, ← hid]
  exact (startsAt_adoptBlob _).of_protocolState ((protocolState_takePart _ _).trans hprotocol)

/-- The response that announces what is downloaded after `past`: the last one that was accepted,
with no restart since. -/
def IsAnnouncement (past before later : List (SessionEvent L)) (response : GameStateFields) :
    Prop :=
  ∃ event : SessionEvent L, past = before ++ event :: later ∧ event.accepted? = some response ∧
    ∀ e ∈ later, e ≠ .restart ∧ e.accepted? = none

/-- The game state that a feed adopts is the announced one: it starts at the state id of the last
accepted response, and every chunk in its blob came after that response and on its channel. -/
def AdoptsAnnounced (past : List (SessionEvent L)) (client : NimbleClient L)
    (datagram : Datagram L) : Prop :=
  ∃ before later response, IsAnnouncement past before later response ∧
    StartsAt client (nimbleClientFeed client datagram).2 response.stateId ∧
    (∀ e ∈ before, ¬e.Contributes) ∧
    ∀ e ∈ later ++ [.feed client datagram], e.Contributes →
      e.channel? = some response.channelId

/-- A game state response was accepted since the client last started over, no chunk had come
before it, and none came behind a join response after it, unless its channel is 0. -/
def Undisturbed (past : List (SessionEvent L)) (client : NimbleClient L)
    (datagram : Datagram L) : Prop :=
  ∃ before later response, IsAnnouncement past before later response ∧
    (∀ e ∈ before, ¬e.Contributes) ∧
    ∀ between e rest, later ++ [.feed client datagram] = between ++ e :: rest → e.Contributes →
      response.channelId = 0 ∨ ∀ j ∈ between, ¬j.Joins

theorem accepted?_of_adopts {client : NimbleClient L} {datagram : Datagram L}
    (h : (SessionEvent.feed client datagram).Adopts) :
    (SessionEvent.feed client datagram).accepted? = none := by
  obtain ⟨x, hx, hadopts⟩ := h
  have hstarts : ¬x.StartsDownload := by
    intro hstarts
    have hcommand := hstarts.1.symm.trans hadopts.1.1
    cases hcommand
  simp only [SessionEvent.accepted?, hx, Option.bind_some, if_neg hstarts]

/-- A chunk that contributes is on the channel of the client that takes it. -/
theorem channel?_of_contributes {client : NimbleClient L} {datagram : Datagram L}
    (h : (SessionEvent.feed client datagram).Contributes) :
    (SessionEvent.feed client datagram).channel? = some client.joinStateChannel := by
  obtain ⟨x, hx, htakes, _⟩ := h
  have hchannel : x.client.joinStateChannel = client.joinStateChannel :=
    congrArg ProtocolState.joinStateChannel (protocolState_of_dispatch hx)
  simp only [SessionEvent.channel?, hx, Option.map_some]
  rw [htakes.2, hchannel]

/-- The channel of a chunk that comes behind an announcement. -/
theorem channel?_of_announced {fields last : DownloadFields L}
    {between rest : List (SessionEvent L)} {event : SessionEvent L}
    (h : Leads fields (between ++ event :: rest) last)
    (hnone : ∀ e ∈ between, e.accepted? = none) (hcontributes : event.Contributes) :
    event.channel? = some fields.joinStateChannel ↔
      fields.joinStateChannel = 0 ∨ ∀ j ∈ between, ¬j.Joins := by
  cases event with
  | restart => exact hcontributes.elim
  | feed client datagram =>
      obtain ⟨_, hkeeps, hclears⟩ := h.to_feed.of_not_accepted hnone
      rw [channel?_of_contributes hcontributes, Option.some_inj]
      constructor
      · intro hchannel
        by_cases hjoins : ∃ j ∈ between, j.Joins
        · exact Or.inl (hchannel.symm.trans (hclears hjoins))
        · exact Or.inr fun j hj hjoin => hjoins ⟨j, hj, hjoin⟩
      · rintro (hzero | hno)
        · by_cases hjoins : ∃ j ∈ between, j.Joins
          · exact (hclears hjoins).trans hzero.symm
          · exact hkeeps fun j hj hjoin => hjoins ⟨j, hj, hjoin⟩
        · exact hkeeps hno

/-- What an announcement leads to: the fields it has set, without another one since. -/
theorem IsAnnouncement.leads {start last : DownloadFields L}
    {past before later future : List (SessionEvent L)} {client : NimbleClient L}
    {datagram : Datagram L} {response : GameStateFields}
    (hannounced : IsAnnouncement past before later response)
    (h : Leads start (past ++ .feed client datagram :: future) last)
    (hadopts : (SessionEvent.feed client datagram).Adopts) :
    ∃ fields : DownloadFields L, fields.joinStateId = response.stateId ∧
      fields.joinStateChannel = response.channelId ∧
      Leads fields (later ++ [.feed client datagram] ++ future) last ∧
      ∀ e ∈ later ++ [.feed client datagram], e.accepted? = none := by
  obtain ⟨event, rfl, hresponse, hlater⟩ := hannounced
  rw [List.append_assoc] at h
  obtain ⟨fields, hid, hchannel, hleads⟩ := Leads.of_accepted h hresponse
  refine ⟨fields, hid, hchannel, ?_, fun e he => ?_⟩
  · rw [List.append_assoc]
    exact hleads
  · rcases List.mem_append.mp he with he | he
    · exact (hlater e he).2
    · rw [List.mem_singleton.mp he]
      exact accepted?_of_adopts hadopts

theorem adoptsAnnounced_iff {start last : DownloadFields L} {past future : List (SessionEvent L)}
    {client : NimbleClient L} {datagram : Datagram L}
    (h : Leads start (past ++ .feed client datagram :: future) last)
    (hadopts : (SessionEvent.feed client datagram).Adopts) :
    AdoptsAnnounced past client datagram ↔ Undisturbed past client datagram := by
  -- the channel of each chunk behind the announcement, by where the join responses are
  have hchannel? : ∀ {before later response}, IsAnnouncement past before later response →
      ∀ {between e rest}, later ++ [.feed client datagram] = between ++ e :: rest →
        e.Contributes → (e.channel? = some response.channelId ↔
          response.channelId = 0 ∨ ∀ j ∈ between, ¬j.Joins) := by
    intro before later response hannounced between e rest heq hcontributes
    obtain ⟨fields, _, hchannel, hleads, hnone⟩ := hannounced.leads h hadopts
    rw [heq, List.append_assoc] at hleads
    rw [← hchannel]
    exact channel?_of_announced hleads
      (fun j hj => hnone j (heq ▸ List.mem_append_left _ hj)) hcontributes
  constructor
  · rintro ⟨before, later, response, hannounced, _, hbefore, hchannels⟩
    refine ⟨before, later, response, hannounced, hbefore, fun between e rest heq he => ?_⟩
    have hmem : e ∈ later ++ [.feed client datagram] := by
      rw [heq]
      exact List.mem_append_right _ List.mem_cons_self
    exact (hchannel? hannounced heq he).mp (hchannels e hmem he)
  · rintro ⟨before, later, response, hannounced, hbefore, hjoins⟩
    obtain ⟨fields, hid, _, hleads, hnone⟩ := hannounced.leads h hadopts
    rw [← List.append_cons] at hleads
    obtain ⟨hclient, _, _⟩ := hleads.to_feed.of_not_accepted
      fun e he => hnone e (List.mem_append_left _ he)
    refine ⟨before, later, response, hannounced, ?_, hbefore, fun e hmem he => ?_⟩
    · rw [← hid, ← hclient]
      exact startsAt_of_adopts hadopts
    · obtain ⟨between, rest, heq⟩ := List.append_of_mem hmem
      exact (hchannel? hannounced heq he).mpr (hjoins between e rest heq he)

/-! ## Blob routines -/

theorem blobStreamSend_mem_sendMessageUsingStream (self : NimbleClient L)
    (stream : FldOutStream) :
    .blobStreamSend ∈ (sendMessageUsingStream self stream).events ↔
      self.state = .joiningDownloadingState := by
  rw [sendMessageUsingStream]
  cases hstate : self.state with
  | joiningDownloadingState =>
      refine iff_of_true ?_ rfl
      rw [sendBlobStreamCommands]
      dsimp only
      split <;> exact List.mem_cons_self
  | synced =>
      refine iff_of_false ?_ (by decide)
      rw [updateSyncedSubState]
      cases self.joinParticipantPhase <;> exact List.not_mem_nil
  | _ => exact iff_of_false List.not_mem_nil (by decide)

theorem blobStreamSend_mem_sendMessageDatagram (self : NimbleClient L) (input : OutgoingInput) :
    .blobStreamSend ∈ (sendMessageDatagram self input).events ↔
      self.state = .joiningDownloadingState := by
  have hmessage : .blobStreamSend ∈ (outgoingMessage self input).events ↔
      self.state = .joiningDownloadingState := blobStreamSend_mem_sendMessageUsingStream _ _
  rw [sendMessageDatagram_eq, ← hmessage]
  dsimp only
  split
  · simp
  · split <;> simp

theorem blobStreamSend_not_mem_nimbleClientSendStepsToServer (self : NimbleClient L)
    (input : OutgoingInput) :
    .blobStreamSend ∉ (nimbleClientSendStepsToServer self input).events := by
  rw [nimbleClientSendStepsToServer]
  dsimp only
  split <;> simp

theorem blobStreamSend_mem_nimbleClientOutgoing (self : NimbleClient L) (input : OutgoingInput) :
    .blobStreamSend ∈ (nimbleClientOutgoing self input).events ↔
      self.state = .joiningDownloadingState := by
  have hmessage := blobStreamSend_mem_sendMessageDatagram self input
  rw [events_nimbleClientOutgoing, handleState]
  cases hstate : self.state with
  | requestingConnect => rw [hstate] at hmessage; exact hmessage
  | joiningRequestingState => rw [hstate] at hmessage; exact hmessage
  | joiningDownloadingState => rw [hstate] at hmessage; exact hmessage
  | synced =>
      have hsteps := blobStreamSend_not_mem_nimbleClientSendStepsToServer self input
      have hsame := (sendsTo_nimbleClientSendStepsToServer self input).protocolState_eq
      have hsynced : (nimbleClientSendStepsToServer self input).client.state = .synced :=
        (congrArg ProtocolState.state hsame).trans hstate
      have hmore := blobStreamSend_mem_sendMessageDatagram
        (nimbleClientSendStepsToServer self input).client input
      rw [hsynced] at hmore
      refine iff_of_false ?_ (by decide)
      dsimp only
      split
      · exact hsteps
      · intro hmem
        rcases List.mem_append.mp hmem with hmem | hmem
        · exact hsteps hmem
        · cases hmore.mp hmem
  | _ => exact iff_of_false List.not_mem_nil (by decide)

theorem blobStreamSend_mem_performOperation (self : NimbleClientRealize L)
    (operation : Operation L) :
    .blobStreamSend ∈ (performOperation self operation).2.events ↔
      ∃ call ∈ outgoingCall? self operation, call.1.state = .joiningDownloadingState := by
  simp only [events_performOperation, mem_callEvents, blobStreamSend_mem_nimbleClientOutgoing]

/-- A blob routine runs on the way of a call. The client initializes its blob stream nowhere, so
never for the channel it downloads on. -/
def RunsBlobRoutine (self : NimbleClientRealize L) (operation : Operation L) : Prop :=
  (∃ f ∈ operationFeeds self operation, (SessionEvent.feed f.1 f.2).Feeds Dispatch.TakesPart) ∨
    .blobStreamSend ∈ (performOperation self operation).2.events

/-- The call is made on no part of a download: no datagram is a part on the channel of the
client, and what is sent is not sent from a downloading client. -/
def NoDownload (self : NimbleClientRealize L) (operation : Operation L) : Prop :=
  (∀ f ∈ operationFeeds self operation, ∀ x, dispatch? f.1 f.2 = some x → ¬x.TakesPart) ∧
    ∀ call ∈ outgoingCall? self operation, call.1.state ≠ .joiningDownloadingState

theorem not_runsBlobRoutine_iff (self : NimbleClientRealize L) (operation : Operation L) :
    ¬RunsBlobRoutine self operation ↔ NoDownload self operation := by
  unfold RunsBlobRoutine NoDownload
  rw [not_or, blobStreamSend_mem_performOperation]
  refine and_congr ?_ (by simp)
  constructor
  · exact fun h f hf x hx htakes => h ⟨f, hf, x, hx, htakes⟩
  · rintro h ⟨f, hf, x, hx, htakes⟩
    exact h f hf x hx htakes

/-- A feed among the events of a run is one of the feeds of its calls. -/
theorem mem_operationFeeds_of_mem_runEvents {start : NimbleClientRealize L}
    {operations : List (Operation L)} {client : NimbleClient L} {datagram : Datagram L}
    (h : .feed client datagram ∈ runEvents start operations) :
    ∃ v ∈ (realizer L).visits start operations, (client, datagram) ∈ operationFeeds v.1 v.2 := by
  obtain ⟨v, hv, hevent⟩ := List.mem_flatMap.mp h
  refine ⟨v, hv, ?_⟩
  have hfeed : .feed client datagram ∈
      (operationFeeds v.1 v.2).map (fun f => SessionEvent.feed f.1 f.2) := by
    unfold sessionEvents at hevent
    split at hevent
    case h_6 => exact hevent
    all_goals simp at hevent
  obtain ⟨f, hf, heq⟩ := List.mem_map.mp hfeed
  cases heq
  exact hf

/-! ## The result -/

/-- The feeds of a run that adopt a game state, with the events before them, have this
property. -/
def ForAdoptions (start : NimbleClientRealize L) (operations : List (Operation L))
    (p : List (SessionEvent L) → NimbleClient L → Datagram L → Prop) : Prop :=
  ∀ past client datagram future,
    runEvents start operations = past ++ .feed client datagram :: future →
      (SessionEvent.feed client datagram).Adopts → p past client datagram

theorem forAdoptions_of_noDownload {start : NimbleClientRealize L}
    {operations : List (Operation L)}
    (h : ∀ v ∈ (realizer L).visits start operations, NoDownload v.1 v.2)
    (p : List (SessionEvent L) → NimbleClient L → Datagram L → Prop) :
    ForAdoptions start operations p := by
  intro past client datagram future heq hadopts
  obtain ⟨x, hx, hadopts⟩ := hadopts
  have hmem : .feed client datagram ∈ runEvents start operations := by
    rw [heq]
    exact List.mem_append_right _ List.mem_cons_self
  obtain ⟨v, hv, hfeed⟩ := mem_operationFeeds_of_mem_runEvents hmem
  exact absurd hadopts.1 ((h v hv).1 _ hfeed x hx)

/-- In every run, an adoption starts the game at the state id the client holds, and the blob it
adopts has grown by the contributing chunks of the whole run. The game state is the announced
one exactly when the download was undisturbed. Since no blob stream is ever initialized, a run
meets all that is asked of a download exactly when nothing is downloaded in it. -/
theorem adopted_state (memory : NimbleClientRealize L) (settings : NimbleClientRealizeSettings L)
    (now : MonotonicTimeMs) (operations : List (Operation L)) :
    let start := nimbleClientRealizeInit memory settings now
    let run := (realizer L).visits start operations
    ForAdoptions start operations (fun past client datagram =>
      StartsAt client (nimbleClientFeed client datagram).2 client.joinStateId ∧
        ((∀ e ∈ past, ¬e.Contributes) → client.blobStreamIn = memory.client.blobStreamIn)) ∧
    ForAdoptions start operations (fun past client datagram =>
      (AdoptsAnnounced past client datagram ↔ Undisturbed past client datagram)) ∧
    (ForAdoptions start operations AdoptsAnnounced ∧ (∀ v ∈ run, ¬RunsBlobRoutine v.1 v.2) ↔
      ∀ v ∈ run, NoDownload v.1 v.2) := by
  intro start run
  have hleads := leads_run start operations
  have hstart : start.client.blobStreamIn = memory.client.blobStreamIn :=
    congrArg DownloadFields.blobStreamIn
      ((downloadFields_nimbleClientReset _ now).trans rfl : start.client.downloadFields =
        memory.client.downloadFields)
  refine ⟨?_, ?_, ?_⟩
  · intro past client datagram future heq hadopts
    rw [heq] at hleads
    refine ⟨startsAt_of_adopts hadopts, fun hnone => ?_⟩
    exact (hleads.to_feed.of_not_contributes hnone).trans hstart
  · intro past client datagram future heq hadopts
    rw [heq] at hleads
    exact adoptsAnnounced_iff hleads hadopts
  · simp only [not_runsBlobRoutine_iff]
    exact ⟨fun h => h.2, fun h => ⟨forAdoptions_of_noDownload h _, h⟩⟩

/-! ## A run on fixed inputs -/

namespace Small

/-- Two game states are announced one after the other, and one chunk of each arrives. -/
def mixedSession : List (Operation smallLibraries) :=
  (syncSession 10 5).take 5 ++
    [.realizeUpdate (updateWith [blobPart 3 5 0 0xaa]),
      .realizeUpdate (updateWith [gameStateResponse 4 20 6]),
      .realizeUpdate (updateWith [blobPart 5 6 1 0xbb])]

end Small

open Nimble.Small

/-- The chunk that came on channel 5 for state 10 becomes part of the game state that is adopted
as state 20, which was announced on channel 6. -/
theorem adopted_state_counterexample :
    let downloading := ((realizer smallLibraries).run (freshRealizer 2) (mixedSession.take 6)).client
    let synced := ((realizer smallLibraries).run (freshRealizer 2) mixedSession).client
    (downloading.state = .joiningDownloadingState ∧ downloading.joinStateId = 10 ∧
      downloading.joinStateChannel = 5 ∧ downloading.blobStreamIn.chunks = [(0, 0xaa)]) ∧
    synced.state = .synced ∧ synced.joinStateChannel = 6 ∧ synced.joinedGameState.stepId = 20 ∧
      synced.joinedGameState.gameState.map GameStateBlock.octets = some [0xaa, 0xbb] := by
  decide +kernel

end Nimble
