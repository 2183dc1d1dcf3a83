import Nimble.Verification.GameState
import Nimble.Verification.Participants
import Nimble.Verification.Sessions

/-! # Answers to the requests of a client

What becomes of an answer that the client is waiting for, and of an answer to a join request
that a later one has replaced. -/

namespace Nimble

variable {L : Libraries}

/-! ## The channel a client holds -/

/-- The channel after an event, when it was `held` before: an accepted game state response names
it and an accepted join response clears it. -/
def SessionEvent.channelAfter (held : NimbleSerializeBlobStreamChannelId) :
    SessionEvent L → NimbleSerializeBlobStreamChannelId
  | .restart => held
  | .feed client datagram =>
    match dispatch? client datagram with
    | none => held
    | some x =>
      if x.StartsDownload then (gameStateFields x.inStream x.locals).channelId
      else if x.Joins then 0
      else held

/-- The channel after a list of events. No restart is of any account. -/
def heldChannel (held : NimbleSerializeBlobStreamChannelId) (past : List (SessionEvent L)) :
    NimbleSerializeBlobStreamChannelId :=
  past.foldl SessionEvent.channelAfter held

theorem joinStateChannel_nimbleClientFeed (client : NimbleClient L) (datagram : Datagram L) :
    (nimbleClientFeed client datagram).2.joinStateChannel =
      (SessionEvent.feed client datagram).channelAfter client.joinStateChannel := by
  cases hx : dispatch? client datagram with
  | none =>
      have hfields := headerKeeps_downloadFields.of_dispatch_eq_none hx
      simp only [SessionEvent.channelAfter, hx]
      exact congrArg DownloadFields.joinStateChannel hfields
  | some x =>
      have hclient : x.client.joinStateChannel = client.joinStateChannel :=
        congrArg DownloadFields.joinStateChannel (headerKeeps_downloadFields.of_dispatch hx)
      have hfields := congrArg DownloadFields.joinStateChannel x.downloadFields_outcome
      rw [← nimbleClientFeed_of_dispatch hx] at hfields
      simp only [SessionEvent.channelAfter, hx]
      refine hfields.trans ?_
      split
      · rfl
      split
      · rfl
      split <;> exact hclient

theorem Leads.joinStateChannel_eq {a b : DownloadFields L} {events : List (SessionEvent L)}
    (h : Leads a events b) : b.joinStateChannel = heldChannel a.joinStateChannel events := by
  induction h with
  | nil fields => rfl
  | restart _ ih => exact ih
  | @feed client datagram last events _ ih =>
      have hfed : (nimbleClientFeed client datagram).2.downloadFields.joinStateChannel =
          (SessionEvent.feed client datagram).channelAfter client.joinStateChannel :=
        joinStateChannel_nimbleClientFeed client datagram
      rw [ih, hfed]
      rfl

/-! ## Answers that are waited for -/

/-- The three fields of a dispatched game state response can all be read. -/
structure Dispatch.CarriesGameState (x : Dispatch L) (fields : GameStateFields) : Prop where
  clientRequestId : (L.fldInStreamReadUInt8 x.inStream).value = some fields.clientRequestId
  stateId : (L.nimbleSerializeInStateId (L.fldInStreamReadUInt8 x.inStream).stream).value =
    some fields.stateId
  channelId : (L.nimbleSerializeInBlobStreamChannelId (L.nimbleSerializeInStateId
    (L.fldInStreamReadUInt8 x.inStream).stream).stream).value = some fields.channelId
  code : (L.nimbleSerializeInBlobStreamChannelId (L.nimbleSerializeInStateId
    (L.fldInStreamReadUInt8 x.inStream).stream).stream).code = fields.code
  decodes : 0 ≤ fields.code

theorem Dispatch.CarriesGameState.gameStateFields_eq {x : Dispatch L} {fields : GameStateFields}
    (h : x.CarriesGameState fields) : gameStateFields x.inStream x.locals = fields := by
  simp only [gameStateFields, h.clientRequestId, h.stateId, h.channelId, h.code,
    Option.getD_some]

/-- A well-formed answer to the request that the client is repeating. -/
def Dispatch.Awaited (x : Dispatch L) : Prop :=
  match x.command with
  | some .connectResponse =>
    0 ≤ (connectFields x.inStream x.locals).1 ∧ x.client.state = .requestingConnect
  | some .gameStateResponse =>
    x.CarriesGameState (gameStateFields x.inStream x.locals) ∧
      x.client.state = .joiningRequestingState ∧
      (gameStateFields x.inStream x.locals).clientRequestId =
        x.client.downloadStateClientRequestId
  | some .joinGameResponse =>
    0 ≤ (joinFields x.inStream x.locals).1 ∧ x.client.state = .synced ∧
      x.client.joinParticipantPhase = .joiningParticipant
  | _ => False

/-- The answer ends the request: the client moves on to where it leads. -/
def Dispatch.Accepted (x : Dispatch L) (after : NimbleClient L) : Prop :=
  match x.command with
  | some .connectResponse => after.state = .connected
  | some .gameStateResponse =>
    after.state = .joiningDownloadingState ∧
      after.joinStateId = (gameStateFields x.inStream x.locals).stateId ∧
      after.joinStateChannel = (gameStateFields x.inStream x.locals).channelId
  | some .joinGameResponse => after.joinParticipantPhase = .joinedParticipant
  | _ => False

/-- The channel of a game state response is another one than `held`. -/
def Dispatch.NamesOtherChannel (x : Dispatch L) (held : NimbleSerializeBlobStreamChannelId) :
    Prop :=
  x.command = some .gameStateResponse →
    (gameStateFields x.inStream x.locals).channelId ≠ held

theorem accepted_gameStateResponse {x : Dispatch L} (h : x.command = some .gameStateResponse)
    (hcarries : x.CarriesGameState (gameStateFields x.inStream x.locals))
    (hstate : x.client.state = .joiningRequestingState)
    (hid : (gameStateFields x.inStream x.locals).clientRequestId =
      x.client.downloadStateClientRequestId) :
    (x.outcome.2.state = .joiningDownloadingState ∧
        x.outcome.2.joinStateId = (gameStateFields x.inStream x.locals).stateId ∧
        x.outcome.2.joinStateChannel = (gameStateFields x.inStream x.locals).channelId) ↔
      (gameStateFields x.inStream x.locals).channelId ≠ x.client.joinStateChannel := by
  rw [Dispatch.outcome_gameStateResponse h, nimbleClientOnDownloadGameStateResponse_eq]
  by_cases hchannel : (gameStateFields x.inStream x.locals).channelId = x.client.joinStateChannel
  · have hrefused : ¬x.client.AcceptsGameState (gameStateFields x.inStream x.locals) :=
      fun haccepts => haccepts.2.2 hchannel
    rw [if_neg hrefused]
    refine iff_of_false (fun haccepted => ?_) (not_not.mpr hchannel)
    rw [hstate] at haccepted
    cases haccepted.1
  · rw [if_pos ⟨hcarries.decodes, hid, hchannel⟩]
    exact iff_of_true ⟨rfl, rfl, rfl⟩ hchannel

theorem Dispatch.accepted_outcome_iff {x : Dispatch L} (h : x.Awaited) :
    x.Accepted x.outcome.2 ↔ x.NamesOtherChannel x.client.joinStateChannel := by
  unfold Awaited at h
  rw [Accepted, NamesOtherChannel]
  split at h
  case h_1 hcommand =>
    simp only [hcommand]
    rw [outcome_connectResponse hcommand, nimbleClientOnConnectResponse_snd, if_pos h]
    simp
  case h_2 hcommand =>
    simpa only [hcommand, forall_const] using
      accepted_gameStateResponse hcommand h.1 h.2.1 h.2.2
  case h_3 hcommand =>
    simp only [hcommand]
    rw [outcome_joinGameResponse hcommand, nimbleClientOnJoinGameResponse_snd,
      if_pos ⟨h.1, h.2.2⟩]
    simp [NimbleClient.join]
  case h_4 => exact h.elim

/-- In every run, an answer the client waits for is accepted exactly when it is not a game state
response on the channel that the client holds: the one of the last download it accepted, in this
session or an earlier one, 0 behind a join, or what its memory held at first. -/
theorem awaited_answer (memory : NimbleClientRealize L)
    (settings : NimbleClientRealizeSettings L) (now : MonotonicTimeMs)
    (operations : List (Operation L)) {past future : List (SessionEvent L)}
    {client : NimbleClient L} {datagram : Datagram L} {x : Dispatch L}
    (hrun : runEvents (nimbleClientRealizeInit memory settings now) operations =
      past ++ .feed client datagram :: future)
    (hdispatch : dispatch? client datagram = some x) (hawaited : x.Awaited) :
    x.Accepted (nimbleClientFeed client datagram).2 ↔
      x.NamesOtherChannel (heldChannel memory.client.joinStateChannel past) := by
  have hleads := leads_run (nimbleClientRealizeInit memory settings now) operations
  rw [hrun] at hleads
  have hstart : (nimbleClientRealizeInit memory settings now).client.joinStateChannel =
      memory.client.joinStateChannel :=
    congrArg DownloadFields.joinStateChannel (downloadFields_nimbleClientReset _ now)
  have hclient : x.client.joinStateChannel = client.joinStateChannel :=
    congrArg DownloadFields.joinStateChannel (headerKeeps_downloadFields.of_dispatch hdispatch)
  have hheld : client.joinStateChannel =
      heldChannel (nimbleClientRealizeInit memory settings now).client.joinStateChannel past :=
    hleads.to_feed.joinStateChannel_eq
  rw [nimbleClientFeed_of_dispatch hdispatch, Dispatch.accepted_outcome_iff hawaited, hclient,
    hheld, hstart]

theorem runEvents_append (start : NimbleClientRealize L) (before after : List (Operation L)) :
    runEvents start (before ++ after) =
      runEvents start before ++ runEvents ((realizer L).run start before) after := by
  simp [runEvents, Machine.visits_append]

namespace Small

/-- A realizer whose client has sent its download request. -/
def askedRealizer : NimbleClientRealize smallLibraries :=
  (realizer smallLibraries).run (freshRealizer 1) askedSession

/-- Its client in the first feed of an update. -/
def askedClient : NimbleClient smallLibraries :=
  (beginUpdate askedRealizer.client 0).countPacketIn

end Small

open Nimble.Small

/-- The first download on a channel other than 0 starts. -/
theorem awaited_answer_channel5 :
    (nimbleClientFeed askedClient (gameStateResponse 2 10 5)).2.state =
      .joiningDownloadingState := by
  have hrun : ∃ future, runEvents (freshRealizer 1)
      (askedSession ++ [.update (updateWith [gameStateResponse 2 10 5])]) =
        runEvents (freshRealizer 1) askedSession ++
          .feed askedClient (gameStateResponse 2 10 5) :: future :=
    ⟨_, by rw [runEvents_append]; rfl⟩
  obtain ⟨future, hrun⟩ := hrun
  have hheld : heldChannel (realizeMemory ⟨1, []⟩).client.joinStateChannel
      (runEvents (freshRealizer 1) askedSession) = 0 := by decide +kernel
  have hsome : (dispatch? askedClient (gameStateResponse 2 10 5)).isSome = true := by
    decide +kernel
  obtain ⟨x, hx⟩ := Option.isSome_iff_exists.mp hsome
  have hfields : (dispatch? askedClient (gameStateResponse 2 10 5)).all (fun x =>
      x.command = some .gameStateResponse ∧ x.client.state = .joiningRequestingState ∧
        x.client.downloadStateClientRequestId = 1 ∧
        (readUInt8 x.inStream).value = some 1 ∧
        (readUInt32 (readUInt8 x.inStream).stream).value = some 10 ∧
        (readUInt16 (readUInt32 (readUInt8 x.inStream).stream).stream).value = some 5 ∧
        (readUInt16 (readUInt32 (readUInt8 x.inStream).stream).stream).code = 0) = true := by
    decide +kernel
  rw [hx] at hfields
  obtain ⟨hcommand, hstate, hrequest, hid, hstateId, hchannel, hcode⟩ :=
    of_decide_eq_true hfields
  have hcarries : x.CarriesGameState ⟨0, 1, 10, 5⟩ :=
    ⟨hid, hstateId, congrArg (Option.map UInt16.toNat) hchannel, hcode, Int.le_refl 0⟩
  have heq := hcarries.gameStateFields_eq
  have haccepted := (awaited_answer (realizeMemory ⟨1, []⟩) settings 0 _ hrun hx (by
    rw [Dispatch.Awaited]
    simp only [hcommand, heq, hrequest]
    exact ⟨hcarries, hstate, trivial⟩)).mpr (by
      intro _
      rw [hheld, heq]
      decide)
  unfold Dispatch.Accepted at haccepted
  simp only [hcommand] at haccepted
  exact haccepted.1

/-- A server that chooses channel 0, which zeroed memory holds, or the channel of an earlier
session again, leaves the client repeating a request that has been answered. -/
theorem awaited_answer_counterexample :
    let reset := (realizer smallLibraries).run (freshRealizer 1)
      (syncSession 10 5 ++ [.realizeReset 0, .realizeInit settings 0] ++ askedSession)
    (Reachable askedRealizer ∧ Reachable reset) ∧
      (askedRealizer.client.state = .joiningRequestingState ∧
        askedRealizer.client.downloadStateClientRequestId = 1 ∧
        (nimbleClientFeed askedRealizer.client (gameStateResponse 2 10 0)).1 = 0 ∧
        (nimbleClientFeed askedRealizer.client (gameStateResponse 2 10 0)).2.state =
          .joiningRequestingState) ∧
      reset.client.state = .joiningRequestingState ∧
        reset.client.downloadStateClientRequestId = 1 ∧
        (nimbleClientFeed reset.client (gameStateResponse 2 20 5)).1 = 0 ∧
        (nimbleClientFeed reset.client (gameStateResponse 2 20 5)).2.state =
          .joiningRequestingState :=
  ⟨⟨⟨_, _, _, _, rfl⟩, ⟨_, _, _, _, rfl⟩⟩, by decide +kernel⟩

/-! ## Answers to join requests -/

/-- What a client adopts from the answer to a join request. -/
structure JoinOutcome (L : Libraries) where
  joinParticipantPhase : NimbleJoiningState
  localParticipantLookup : Vector NimbleClientParticipantEntry nimbleClientMaxLocalUsersCount
  localParticipantCount : Nat
  partyAndSessionSecret : L.NimbleSerializePartyAndSessionSecret

def ProtocolState.joinOutcome (self : ProtocolState L) : JoinOutcome L where
  joinParticipantPhase := self.joinParticipantPhase
  localParticipantLookup := self.localParticipantLookup
  localParticipantCount := self.localParticipantCount
  partyAndSessionSecret := self.partyAndSessionSecret

/-- The outcome that a join response gives: its participants from the first entry of the table on,
as far as there are entries, and its secret. -/
structure JoinOutcome.IsGivenBy (self : JoinOutcome L)
    (response : NimbleSerializeJoinGameResponse L.NimbleSerializePartyAndSessionSecret) : Prop where
  joinParticipantPhase : self.joinParticipantPhase = .joinedParticipant
  localParticipantLookup : ∀ i (hi : i < nimbleClientMaxLocalUsersCount) participant,
    response.participants[i]? = some participant →
      self.localParticipantLookup[i] = participantEntry participant
  localParticipantCount : self.localParticipantCount = response.participants.length
  partyAndSessionSecret : self.partyAndSessionSecret = response.partyAndSessionSecret

/-- An answer to a join request brings an outcome: that of the join response, or that there are
no slots left and nothing else is new. -/
def Dispatch.Brings (x : Dispatch L) (outcome : JoinOutcome L) : Prop :=
  match x.command with
  | some .joinGameResponse => outcome.IsGivenBy (joinFields x.inStream x.locals).2
  | some .joinGameOutOfParticipantSlotsResponse =>
    outcome = { x.client.protocolState.joinOutcome with
      joinParticipantPhase := .outOfParticipantSlots }
  | _ => False

/-- An answer to a join request that can be decoded. -/
def Dispatch.DecodesJoinAnswer (x : Dispatch L) : Prop :=
  match x.command with
  | some .joinGameResponse => 0 ≤ (joinFields x.inStream x.locals).1
  | some .joinGameOutOfParticipantSlotsResponse =>
    0 ≤ (L.nimbleSerializeInNonce x.inStream).code
  | _ => False

theorem isGivenBy_join (self : NimbleClient L)
    (response : NimbleSerializeJoinGameResponse L.NimbleSerializePartyAndSessionSecret) :
    (self.join response).protocolState.joinOutcome.IsGivenBy response := by
  refine ⟨rfl, fun i hi participant hparticipant => ?_, rfl, rfl⟩
  change (writeParticipants self.localParticipantLookup 0 response.participants)[i] = _
  rw [getElem_writeParticipants _ _ _ hi, if_pos (Nat.zero_le i), Nat.sub_zero, hparticipant]
  rfl

/-- A join response, or the response that there are no slots left. -/
def Dispatch.AnswersJoin (x : Dispatch L) : Prop :=
  x.command = some .joinGameResponse ∨
    x.command = some .joinGameOutOfParticipantSlotsResponse

/-- A handler that is not done with an answer brings its outcome. -/
theorem Dispatch.brings_outcome {x : Dispatch L} (h : x.AnswersJoin) :
    x.outcome.2.protocolState.joinOutcome = x.client.protocolState.joinOutcome ∨
      x.Brings x.outcome.2.protocolState.joinOutcome := by
  rcases h with h | h
  · rw [outcome_joinGameResponse h, nimbleClientOnJoinGameResponse_snd]
    split
    · simp only [Brings, h]
      exact Or.inr (isGivenBy_join _ _)
    · exact Or.inl rfl
  · rw [outcome_joinGameOutOfParticipantSlotsResponse h,
      nimbleClientOnJoinGameParticipantOutOfSpaceResponse_snd]
    split
    · simp only [Brings, h]
      exact Or.inr rfl
    · exact Or.inl rfl

/-- A client that waits to join takes every answer that can be decoded. -/
theorem Dispatch.brings_of_joining {x : Dispatch L} (h : x.DecodesJoinAnswer)
    (hphase : x.client.joinParticipantPhase = .joiningParticipant) :
    x.Brings x.outcome.2.protocolState.joinOutcome := by
  unfold DecodesJoinAnswer at h
  split at h
  case h_1 hcommand =>
    rw [outcome_joinGameResponse hcommand, nimbleClientOnJoinGameResponse_snd, if_pos ⟨h, hphase⟩]
    simp only [Brings, hcommand]
    exact isGivenBy_join _ _
  case h_2 hcommand =>
    rw [outcome_joinGameOutOfParticipantSlotsResponse hcommand,
      nimbleClientOnJoinGameParticipantOutOfSpaceResponse_snd, if_pos h]
    simp only [Brings, hcommand]
    rfl
  case h_3 => exact h.elim

/-- Only the answers to join requests change what the client has adopted from one. -/
theorem Dispatch.joinOutcome_of_not_answersJoin {x : Dispatch L} (h : ¬x.AnswersJoin) :
    x.outcome.2.protocolState.joinOutcome = x.client.protocolState.joinOutcome := by
  have heffect := x.effect
  generalize x.outcome.2 = client at heffect ⊢
  cases heffect with
  | join hx => exact absurd (Or.inl hx.1) h
  | outOfSlots hx => exact absurd (Or.inr hx) h
  | _ => rfl

section

-- the nonce of the request that a join response answers, which the client is not told
variable (joinNonce : Dispatch L → NimbleSerializeNonce)

/-- An answer to the join request with this nonce. -/
def Dispatch.AnswersJoinRequest (x : Dispatch L) (nonce : NimbleSerializeNonce) : Prop :=
  match x.command with
  | some .joinGameResponse => joinNonce x = nonce
  | some .joinGameOutOfParticipantSlotsResponse =>
    (L.nimbleSerializeInNonce x.inStream).value = some nonce
  | _ => False

/-- The client lets nothing but answers to the join request with this nonce decide how joining
has come out. While it waits to join it takes each of them, and what it adopts is what the answer
says. -/
structure Dispatch.FollowsJoinRequest (x : Dispatch L) (nonce : NimbleSerializeNonce) : Prop where
  adopts : x.outcome.2.protocolState.joinOutcome ≠ x.client.protocolState.joinOutcome →
    x.AnswersJoinRequest joinNonce nonce ∧ x.Brings x.outcome.2.protocolState.joinOutcome
  takes : x.DecodesJoinAnswer → x.AnswersJoinRequest joinNonce nonce →
    x.client.joinParticipantPhase = .joiningParticipant →
      x.Brings x.outcome.2.protocolState.joinOutcome
  other : x.AnswersJoin → ¬x.AnswersJoinRequest joinNonce nonce → x.outcome.2 = x.client
  joined : x.command = some .joinGameOutOfParticipantSlotsResponse →
    x.client.joinParticipantPhase = .joinedParticipant →
      x.outcome.2.joinParticipantPhase = .joinedParticipant

/-- An answer to a join request comes in its time, or its handler drops it. -/
def Dispatch.JoinAnswerFits (x : Dispatch L) (nonce : NimbleSerializeNonce) : Prop :=
  match x.command with
  | some .joinGameResponse =>
    (joinFields x.inStream x.locals).1 < 0 ∨
      x.client.joinParticipantPhase ≠ .joiningParticipant ∨ joinNonce x = nonce
  | some .joinGameOutOfParticipantSlotsResponse =>
    (L.nimbleSerializeInNonce x.inStream).code < 0 ∨
      x.client.joinParticipantPhase = .outOfParticipantSlots ∨
      x.client.joinParticipantPhase ≠ .joinedParticipant ∧
        (L.nimbleSerializeInNonce x.inStream).value = some nonce
  | _ => True

theorem outcome_joinGameResponse_eq_iff {x : Dispatch L}
    (h : x.command = some .joinGameResponse) :
    x.outcome.2 = x.client ↔ (joinFields x.inStream x.locals).1 < 0 ∨
      x.client.joinParticipantPhase ≠ .joiningParticipant := by
  constructor
  · intro heq
    exact (sessionFields_joinGameResponse h).mp (by rw [heq])
  · intro hrefused
    rw [Dispatch.outcome_joinGameResponse h, nimbleClientOnJoinGameResponse_snd]
    refine if_neg fun hjoins => ?_
    rcases hrefused with hcode | hphase
    · exact absurd hjoins.1 (Int.not_le.mpr hcode)
    · exact hphase hjoins.2

theorem outcome_outOfParticipantSlots_eq_iff {x : Dispatch L}
    (h : x.command = some .joinGameOutOfParticipantSlotsResponse) :
    x.outcome.2 = x.client ↔ (L.nimbleSerializeInNonce x.inStream).code < 0 ∨
      x.client.joinParticipantPhase = .outOfParticipantSlots := by
  constructor
  · intro heq
    exact (sessionFields_outOfParticipantSlots h).mp (by rw [heq])
  · intro hrefused
    rw [Dispatch.outcome_joinGameOutOfParticipantSlotsResponse h,
      nimbleClientOnJoinGameParticipantOutOfSpaceResponse_snd]
    split
    · rename_i hcode
      rw [← hrefused.resolve_left (Int.not_lt.mpr hcode)]
    · rfl

theorem followsJoinRequest_joinGameResponse_iff {x : Dispatch L}
    (h : x.command = some .joinGameResponse) (nonce : NimbleSerializeNonce) :
    x.FollowsJoinRequest joinNonce nonce ↔ x.JoinAnswerFits joinNonce nonce := by
  have hanswers : x.AnswersJoinRequest joinNonce nonce ↔ joinNonce x = nonce := by
    simp only [Dispatch.AnswersJoinRequest, h]
  have hfits : x.JoinAnswerFits joinNonce nonce ↔
      x.outcome.2 = x.client ∨ joinNonce x = nonce := by
    rw [outcome_joinGameResponse_eq_iff h, or_assoc]
    simp only [Dispatch.JoinAnswerFits, h]
  rw [hfits]
  constructor
  · intro hfollows
    by_cases hnonce : joinNonce x = nonce
    · exact Or.inr hnonce
    · exact Or.inl (hfollows.other (Or.inl h) fun hx => hnonce (hanswers.mp hx))
  · intro hor
    refine ⟨fun hne => ⟨?_, (x.brings_outcome (Or.inl h)).resolve_left hne⟩,
      fun hdecodes _ => x.brings_of_joining hdecodes,
      fun _ hx => hor.resolve_right fun hn => hx (hanswers.mpr hn), ?_⟩
    · rcases hor with heq | hnonce
      · exact absurd (by rw [heq]) hne
      · exact hanswers.mpr hnonce
    · intro hcommand
      rw [h] at hcommand
      cases hcommand

theorem followsJoinRequest_outOfParticipantSlots_iff {x : Dispatch L}
    (h : x.command = some .joinGameOutOfParticipantSlotsResponse)
    (nonce : NimbleSerializeNonce) :
    x.FollowsJoinRequest joinNonce nonce ↔ x.JoinAnswerFits joinNonce nonce := by
  have hanswers : x.AnswersJoinRequest joinNonce nonce ↔
      (L.nimbleSerializeInNonce x.inStream).value = some nonce := by
    simp only [Dispatch.AnswersJoinRequest, h]
  have hfits : x.JoinAnswerFits joinNonce nonce ↔ x.outcome.2 = x.client ∨
      x.client.joinParticipantPhase ≠ .joinedParticipant ∧
        (L.nimbleSerializeInNonce x.inStream).value = some nonce := by
    rw [outcome_outOfParticipantSlots_eq_iff h, or_assoc]
    simp only [Dispatch.JoinAnswerFits, h]
  rw [hfits]
  constructor
  · intro hfollows
    by_cases heq : x.outcome.2 = x.client
    · exact Or.inl heq
    refine Or.inr ⟨fun hjoined => ?_, not_not.mp fun hn =>
      heq (hfollows.other (Or.inr h) fun hx => hn (hanswers.mp hx))⟩
    -- a joined client that does not drop the response is out of slots afterwards
    have hafter := hfollows.joined h hjoined
    rw [outcome_outOfParticipantSlots_eq_iff h, not_or, Int.not_lt] at heq
    rw [Dispatch.outcome_joinGameOutOfParticipantSlotsResponse h,
      nimbleClientOnJoinGameParticipantOutOfSpaceResponse_snd, if_pos heq.1] at hafter
    cases hafter
  · intro hor
    refine ⟨fun hne => ⟨?_, (x.brings_outcome (Or.inr h)).resolve_left hne⟩,
      fun hdecodes _ => x.brings_of_joining hdecodes,
      fun _ hx => hor.resolve_right fun hn => hx (hanswers.mpr hn.2), fun _ hjoined => ?_⟩
    · rcases hor with heq | hnonce
      · exact absurd (by rw [heq]) hne
      · exact hanswers.mpr hnonce.2
    · rcases hor with heq | hnonce
      · rw [heq, hjoined]
      · exact absurd hjoined hnonce.1

/-- The handlers let a request be answered by its own answers exactly when all answers fit. -/
theorem Dispatch.followsJoinRequest_iff (x : Dispatch L) (nonce : NimbleSerializeNonce) :
    x.FollowsJoinRequest joinNonce nonce ↔ x.JoinAnswerFits joinNonce nonce := by
  by_cases hjoin : x.command = some .joinGameResponse
  · exact followsJoinRequest_joinGameResponse_iff joinNonce hjoin nonce
  by_cases hslots : x.command = some .joinGameOutOfParticipantSlotsResponse
  · exact followsJoinRequest_outOfParticipantSlots_iff joinNonce hslots nonce
  have hnot : ¬x.AnswersJoin := fun h => h.elim hjoin hslots
  refine iff_of_true ⟨fun hne => absurd (joinOutcome_of_not_answersJoin hnot) hne,
    fun hdecodes _ => x.brings_of_joining hdecodes, fun h => absurd h hnot,
    fun h => absurd h hslots⟩ ?_
  rw [JoinAnswerFits]
  split
  · exact absurd ‹_› hjoin
  · exact absurd ‹_› hslots
  · trivial

end

/-- The nonce of the latest call of `nimbleClientRealizeJoinGame`; without one, the nonce of the
request the run started with. -/
def latestJoinNonce (start : NimbleClientRealize L) (operations : List (Operation L)) :
    NimbleSerializeNonce :=
  ((realizer L).visits start operations).foldl
    (fun nonce v => if v.2 matches .realizeJoinGame _ then v.1.joinGameRequestNonce else nonce)
    start.client.joinGameRequest.nonce

theorem joinGameRequest_nimbleClientReset (self : NimbleClient L) (now : MonotonicTimeMs) :
    (nimbleClientReset self now).joinGameRequest = self.joinGameRequest := by
  rw [nimbleClientReset]
  dsimp only
  obtain ⟨_, _, h⟩ := freeGameState_eq _
  rw [h]

theorem joinGameRequest_nimbleClientUpdate (self : NimbleClient L) (input : UpdateInput L) :
    (nimbleClientUpdate self input).client.joinGameRequest = self.joinGameRequest := by
  obtain ⟨_, h⟩ := localFields_nimbleClientUpdate self input
  exact congrArg LocalFields.joinGameRequest h

theorem joinGameRequest_updatedClient (self : NimbleClientRealize L) (operation : Operation L) :
    (updatedClient self operation).joinGameRequest = self.client.joinGameRequest := by
  rw [updatedClient]
  cases clientUpdate? self operation with
  | none => rfl
  | some input => exact joinGameRequest_nimbleClientUpdate self.client input

/-- The join request that a call makes. -/
def joinRequest? (self : NimbleClientRealize L) :
    Operation L → Option (NimbleSerializeJoinGameRequest L.JoinGameOptions)
  | .realizeJoinGame options => some ⟨self.joinGameRequestNonce, options⟩
  | _ => none

/-- Only a call of `nimbleClientRealizeJoinGame` makes a new join request. -/
theorem request_performOperation (self : NimbleClientRealize L) (operation : Operation L) :
    (performOperation self operation).1.client.joinGameRequest =
      (joinRequest? self operation).getD self.client.joinGameRequest := by
  cases operation with
  | realizeUpdate input =>
      obtain ⟨_, _, _, hclient⟩ := client_realizeUpdate self input
      rw [hclient]
      exact joinGameRequest_updatedClient self (.realizeUpdate input)
  | update input => exact joinGameRequest_nimbleClientUpdate self.client input
  | outgoing input =>
      obtain ⟨_, h⟩ := (sendsTo_nimbleClientOutgoing self.client input).localFields_eq
      exact congrArg LocalFields.joinGameRequest h
  | realizeInit settings now => exact joinGameRequest_nimbleClientReset _ now
  | realizeReInit settings now => exact joinGameRequest_nimbleClientReset _ now
  | realizeReset now => exact joinGameRequest_nimbleClientReset _ now
  | reset now => exact joinGameRequest_nimbleClientReset _ now
  | reInit transport now => exact joinGameRequest_nimbleClientReset _ now
  | _ => rfl

theorem joinGameRequest_performOperation (self : NimbleClientRealize L)
    (operation : Operation L) :
    (performOperation self operation).1.client.joinGameRequest.nonce =
      if operation matches .realizeJoinGame _ then self.joinGameRequestNonce
      else self.client.joinGameRequest.nonce := by
  rw [request_performOperation]
  cases operation with
  | _ => rfl

theorem joinGameRequest_run (start : NimbleClientRealize L) (operations : List (Operation L)) :
    ((realizer L).run start operations).client.joinGameRequest.nonce =
      latestJoinNonce start operations := by
  induction operations generalizing start with
  | nil => rfl
  | cons operation operations ih =>
      rw [Machine.run_cons, ih]
      unfold latestJoinNonce
      rw [Machine.visits_cons, List.foldl_cons]
      exact congrArg (List.foldl _ · _) (joinGameRequest_performOperation start operation)

/-- The join request of a client that is fed a datagram in a run. -/
theorem joinGameRequest_of_mem_operationFeeds (start : NimbleClientRealize L)
    (before : List (Operation L)) {operation : Operation L} {f : NimbleClient L × Datagram L}
    (hf : f ∈ operationFeeds ((realizer L).run start before) operation) {x : Dispatch L}
    (hx : dispatch? f.1 f.2 = some x) :
    x.client.joinGameRequest.nonce = latestJoinNonce start before := by
  rw [← joinGameRequest_run]
  exact congrArg (fun fields => fields.joinGameRequest.nonce)
    ((headerKeeps_localFields.of_dispatch hx).trans (localFields_of_mem_operationFeeds hf))

/-- In every run, the answers to the latest join request and no others decide how joining has come
out, with what they say, exactly when each answer that arrives fits the request of its time. -/
theorem join_outcome (joinNonce : Dispatch L → NimbleSerializeNonce)
    (start : NimbleClientRealize L) (operations : List (Operation L)) :
    (∀ before operation after, operations = before ++ operation :: after →
      ∀ f ∈ operationFeeds ((realizer L).run start before) operation,
        ∀ x, dispatch? f.1 f.2 = some x →
          x.FollowsJoinRequest joinNonce (latestJoinNonce start before)) ↔
      ∀ before operation after, operations = before ++ operation :: after →
        ∀ f ∈ operationFeeds ((realizer L).run start before) operation,
          ∀ x, dispatch? f.1 f.2 = some x →
            x.JoinAnswerFits joinNonce x.client.joinGameRequest.nonce := by
  constructor
  · intro h before operation after heq f hf x hx
    rw [joinGameRequest_of_mem_operationFeeds start before hf hx]
    exact (x.followsJoinRequest_iff joinNonce _).mp (h before operation after heq f hf x hx)
  · intro h before operation after heq f hf x hx
    rw [← joinGameRequest_of_mem_operationFeeds start before hf hx]
    exact (x.followsJoinRequest_iff joinNonce _).mpr (h before operation after heq f hf x hx)

namespace Small

/-- The response that there are no slots left for the join request with this nonce. -/
def outOfSlotsResponse (id nonce : UInt8) : Datagram smallLibraries :=
  packet id .joinGameOutOfParticipantSlotsResponse [nonce]

/-- A synced realizer that has asked to join a second time. -/
def rejoiningRealizer : NimbleClientRealize smallLibraries :=
  (performOperation syncedRealizer (.realizeJoinGame (0 : UInt8))).1

end Small

/-- The late answer to the first of two join requests ends the second one, and a client that has
joined is put out of the game by a repeated answer. -/
theorem join_outcome_counterexample :
    (Reachable rejoiningRealizer ∧ Reachable joinedRealizer) ∧
      (rejoiningRealizer.client.joinGameRequest.nonce = 1 ∧
        rejoiningRealizer.client.joinParticipantPhase = .joiningParticipant ∧
        (nimbleClientFeed rejoiningRealizer.client (outOfSlotsResponse 4 0)).2.joinParticipantPhase
          = .outOfParticipantSlots) ∧
      joinedRealizer.client.joinGameRequest.nonce = 0 ∧
        joinedRealizer.client.joinParticipantPhase = .joinedParticipant ∧
        (nimbleClientFeed joinedRealizer.client (outOfSlotsResponse 5 0)).2.joinParticipantPhase =
          .outOfParticipantSlots :=
  ⟨⟨Reachable.step reachable_syncedRealizer _, reachable_joinedRealizer⟩, by decide +kernel⟩

end Nimble
