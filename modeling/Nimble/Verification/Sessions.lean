import Nimble.Model.SmallLibraries
import Nimble.Verification.Update

/-! # Two sessions over one transport

The ids of requests are the same in every session, so a late response to an earlier session's
request is kept off only by what its handler checks besides them. -/

namespace Nimble

variable {L : Libraries}

/-! ## Request ids -/

/-- What every initialization writes in the setup, and every reset leaves there. -/
structure Setup.IsInitialized (setup : Setup L) : Prop where
  connectRequestId : setup.connectRequestId = 0
  downloadStateClientRequestId : setup.downloadStateClientRequestId = 1
  expectedTickDurationMs : setup.expectedTickDurationMs = 16
  useStats : setup.useStats = true

theorem isInitialized_nimbleClientReset {self : NimbleClient L}
    (hconnect : self.connectRequestId = 0) (htick : self.expectedTickDurationMs = 16)
    (now : MonotonicTimeMs) : (nimbleClientReset self now).setup.IsInitialized := by
  rw [setup_nimbleClientReset]
  exact ⟨hconnect, rfl, htick, rfl⟩

theorem isInitialized_nimbleClientRealizeInit (self : NimbleClientRealize L)
    (settings : NimbleClientRealizeSettings L) (now : MonotonicTimeMs) :
    (nimbleClientRealizeInit self settings now).client.setup.IsInitialized :=
  isInitialized_nimbleClientReset rfl rfl now

theorem isInitialized_performOperation {self : NimbleClientRealize L}
    (h : self.client.setup.IsInitialized) (operation : Operation L) :
    (performOperation self operation).1.client.setup.IsInitialized := by
  by_cases hrestarts : operation.Restarts
  · cases operation with
    | realizeInit settings now => exact isInitialized_nimbleClientRealizeInit self settings now
    | realizeReInit settings now =>
        exact @isInitialized_nimbleClientReset _ { self.client with transport := _ }
          h.connectRequestId h.expectedTickDurationMs now
    | realizeReset now =>
        exact isInitialized_nimbleClientReset h.connectRequestId h.expectedTickDurationMs now
    | reset now =>
        exact isInitialized_nimbleClientReset h.connectRequestId h.expectedTickDurationMs now
    | reInit transport now =>
        exact @isInitialized_nimbleClientReset _ { self.client with transport := _ }
          h.connectRequestId h.expectedTickDurationMs now
    | _ => exact hrestarts.elim
  · rw [setup_performOperation self hrestarts]
    exact h

theorem Reachable.isInitialized {self : NimbleClientRealize L} (h : Reachable self) :
    self.client.setup.IsInitialized :=
  @Reachable.invariant _ (fun r => r.client.setup.IsInitialized)
    isInitialized_nimbleClientRealizeInit
    (fun _ operation hself => isInitialized_performOperation hself operation) _ h

/-- What a session writes in its connect and download requests. -/
structure RequestIds where
  connectRequestId : UInt8
  downloadStateClientRequestId : UInt8

def NimbleClient.requestIds (self : NimbleClient L) : RequestIds :=
  ⟨self.connectRequestId, self.downloadStateClientRequestId⟩

/-- All sessions use the same ids. -/
theorem Reachable.requestIds_eq {self : NimbleClientRealize L} (h : Reachable self) :
    self.client.requestIds = ⟨0, 1⟩ := by
  have hids := h.isInitialized
  rw [NimbleClient.requestIds]
  rw [show self.client.connectRequestId = 0 from hids.connectRequestId,
    show self.client.downloadStateClientRequestId = 1 from hids.downloadStateClientRequestId]

/-! ## Late responses -/

/-- What a late response must not change. -/
structure SessionFields (L : Libraries) where
  state : NimbleClientState
  joinParticipantPhase : NimbleJoiningState
  joinStateChannel : NimbleSerializeBlobStreamChannelId
  joinStateId : StepId
  localParticipantLookup : Vector NimbleClientParticipantEntry nimbleClientMaxLocalUsersCount
  localParticipantCount : Nat
  outSteps : L.NbsSteps
  authoritativePendingStepsFromServer : L.NbsPendingSteps
  authoritativeStepsFromServer : L.NbsSteps

def ProtocolState.sessionFields (self : ProtocolState L) : SessionFields L where
  state := self.state
  joinParticipantPhase := self.joinParticipantPhase
  joinStateChannel := self.joinStateChannel
  joinStateId := self.joinStateId
  localParticipantLookup := self.localParticipantLookup
  localParticipantCount := self.localParticipantCount
  outSteps := self.outSteps
  authoritativePendingStepsFromServer := self.authoritativePendingStepsFromServer
  authoritativeStepsFromServer := self.authoritativeStepsFromServer

/-- A response to a request that `client` made: it echoes the request id or the nonce, where its
handler reads one. -/
def Dispatch.Answers (x : Dispatch L) (client : NimbleClient L) : Prop :=
  match x.command with
  | some .connectResponse => True
  | some .gameStateResponse =>
    (gameStateFields x.inStream x.locals).clientRequestId = client.downloadStateClientRequestId
  | some .joinGameResponse => True
  | some .joinGameOutOfParticipantSlotsResponse =>
    0 ≤ (L.nimbleSerializeInNonce x.inStream).code →
      (L.nimbleSerializeInNonce x.inStream).value = some client.joinGameRequest.nonce
  | _ => False

/-- The handler of a response drops it, whatever request it answers. -/
def Dispatch.Refused (x : Dispatch L) : Prop :=
  match x.command with
  | some .connectResponse =>
    (connectFields x.inStream x.locals).1 < 0 ∨ x.client.state ≠ .requestingConnect
  | some .gameStateResponse =>
    (gameStateFields x.inStream x.locals).code < 0 ∨
      (gameStateFields x.inStream x.locals).channelId = x.client.joinStateChannel
  | some .joinGameResponse =>
    (joinFields x.inStream x.locals).1 < 0 ∨ x.client.joinParticipantPhase ≠ .joiningParticipant
  | some .joinGameOutOfParticipantSlotsResponse =>
    (L.nimbleSerializeInNonce x.inStream).code < 0 ∨
      x.client.joinParticipantPhase = .outOfParticipantSlots
  | _ => True

theorem sessionFields_connectResponse {x : Dispatch L} (h : x.command = some .connectResponse) :
    x.outcome.2.protocolState.sessionFields = x.client.protocolState.sessionFields ↔
      (connectFields x.inStream x.locals).1 < 0 ∨ x.client.state ≠ .requestingConnect := by
  rw [Dispatch.outcome_connectResponse h, nimbleClientOnConnectResponse_snd]
  split
  · rename_i hconnects
    refine iff_of_false (fun heq => ?_) fun hrefused => ?_
    · have hstate : NimbleClientState.connected = x.client.state :=
        congrArg SessionFields.state heq
      rw [hconnects.2] at hstate
      cases hstate
    · rcases hrefused with hcode | hstate
      · exact absurd hconnects.1 (Int.not_le.mpr hcode)
      · exact hstate hconnects.2
  · rename_i hconnects
    refine iff_of_true rfl ?_
    rw [not_and_or, Int.not_le] at hconnects
    exact hconnects

/-- The request id cannot refuse a response, since all sessions use the same. -/
theorem sessionFields_gameStateResponse {x : Dispatch L} {earlier : NimbleClient L}
    (h : x.command = some .gameStateResponse)
    (hanswers : (gameStateFields x.inStream x.locals).clientRequestId =
      earlier.downloadStateClientRequestId)
    (hids : earlier.requestIds = x.client.requestIds) :
    x.outcome.2.protocolState.sessionFields = x.client.protocolState.sessionFields ↔
      (gameStateFields x.inStream x.locals).code < 0 ∨
        (gameStateFields x.inStream x.locals).channelId = x.client.joinStateChannel := by
  have hid : (gameStateFields x.inStream x.locals).clientRequestId =
      x.client.downloadStateClientRequestId :=
    hanswers.trans (congrArg RequestIds.downloadStateClientRequestId hids)
  rw [Dispatch.outcome_gameStateResponse h, nimbleClientOnDownloadGameStateResponse_eq]
  split
  · rename_i haccepts
    refine iff_of_false (fun heq => ?_) fun hrefused => ?_
    · exact haccepts.2.2 (congrArg SessionFields.joinStateChannel heq)
    · rcases hrefused with hcode | hchannel
      · exact absurd haccepts.1 (Int.not_le.mpr hcode)
      · exact haccepts.2.2 hchannel
  · rename_i haccepts
    refine iff_of_true rfl ?_
    by_contra hrefused
    rw [not_or, Int.not_lt] at hrefused
    exact haccepts ⟨hrefused.1, hid, hrefused.2⟩

theorem sessionFields_joinGameResponse {x : Dispatch L}
    (h : x.command = some .joinGameResponse) :
    x.outcome.2.protocolState.sessionFields = x.client.protocolState.sessionFields ↔
      (joinFields x.inStream x.locals).1 < 0 ∨
        x.client.joinParticipantPhase ≠ .joiningParticipant := by
  rw [Dispatch.outcome_joinGameResponse h, nimbleClientOnJoinGameResponse_snd]
  split
  · rename_i hjoins
    refine iff_of_false (fun heq => ?_) fun hrefused => ?_
    · have hphase : NimbleJoiningState.joinedParticipant = x.client.joinParticipantPhase :=
        congrArg SessionFields.joinParticipantPhase heq
      rw [hjoins.2] at hphase
      cases hphase
    · rcases hrefused with hcode | hphase
      · exact absurd hjoins.1 (Int.not_le.mpr hcode)
      · exact hphase hjoins.2
  · rename_i hjoins
    refine iff_of_true rfl ?_
    rw [not_and_or, Int.not_le] at hjoins
    exact hjoins

theorem sessionFields_outOfParticipantSlots {x : Dispatch L}
    (h : x.command = some .joinGameOutOfParticipantSlotsResponse) :
    x.outcome.2.protocolState.sessionFields = x.client.protocolState.sessionFields ↔
      (L.nimbleSerializeInNonce x.inStream).code < 0 ∨
        x.client.joinParticipantPhase = .outOfParticipantSlots := by
  rw [Dispatch.outcome_joinGameOutOfParticipantSlotsResponse h,
    nimbleClientOnJoinGameParticipantOutOfSpaceResponse_snd]
  split
  · rename_i hcode
    constructor
    · intro heq
      exact Or.inr (congrArg SessionFields.joinParticipantPhase heq).symm
    · intro hrefused
      rw [← hrefused.resolve_left (Int.not_lt.mpr hcode)]
  · rename_i hcode
    exact iff_of_true rfl (Or.inl (Int.not_le.mp hcode))

/-- A response to a request of any session leaves the session alone exactly when its handler
drops it for another reason than the request it answers. -/
theorem sessionFields_outcome {x : Dispatch L} {earlier : NimbleClient L}
    (hanswers : x.Answers earlier) (hids : earlier.requestIds = x.client.requestIds) :
    x.outcome.2.protocolState.sessionFields = x.client.protocolState.sessionFields ↔
      x.Refused := by
  unfold Dispatch.Answers at hanswers
  rw [Dispatch.Refused]
  split at hanswers
  case h_1 h => simpa only [h] using sessionFields_connectResponse h
  case h_2 h => simpa only [h] using sessionFields_gameStateResponse h hanswers hids
  case h_3 h => simpa only [h] using sessionFields_joinGameResponse h
  case h_4 h => simpa only [h] using sessionFields_outOfParticipantSlots h
  case h_5 => exact hanswers.elim

/-! ## Runs -/

theorem localFields_of_mem_operationFeeds {self : NimbleClientRealize L}
    {operation : Operation L} {f : NimbleClient L × Datagram L}
    (h : f ∈ operationFeeds self operation) : f.1.localFields = self.client.localFields := by
  unfold operationFeeds at h
  cases hupdate : clientUpdate? self operation with
  | none => simp [hupdate] at h
  | some input =>
      rw [hupdate] at h
      exact @feeds_invariant_of_guard _ (fun c => c.localFields = self.client.localFields)
        (fun _ _ => True) (fun _ hc => hc) (fun _ hc => hc)
        (fun c d hc _ => (localFields_nimbleClientFeed c d).trans hc) _ _
        (localFields_beginUpdate self.client input.now) (fun _ _ => trivial) f h

theorem setup_of_mem_operationFeeds {self : NimbleClientRealize L} {operation : Operation L}
    {f : NimbleClient L × Datagram L} (h : f ∈ operationFeeds self operation) :
    f.1.setup = self.client.setup :=
  congrArg LocalFields.setup (localFields_of_mem_operationFeeds h)

theorem setup_of_dispatch {self : NimbleClient L} {datagram : Datagram L} {x : Dispatch L}
    (h : dispatch? self datagram = some x) : x.client.setup = self.setup :=
  congrArg LocalFields.setup (headerKeeps_localFields.of_dispatch h)

theorem requestIds_of_setup {self other : NimbleClient L} (h : self.setup = other.setup) :
    self.requestIds = other.requestIds :=
  congrArg (fun setup : Setup L =>
    RequestIds.mk setup.connectRequestId setup.downloadStateClientRequestId) h

/-- The calls that start a new session over the transport of the old one. -/
def Operation.ResetsClient : Operation L → Prop
  | .reset _ => True
  | .realizeReset _ => True
  | _ => False

theorem Operation.ResetsClient.fresh {operation : Operation L} (h : operation.ResetsClient)
    (self : NimbleClientRealize L) :
    (performOperation self operation).1.client.transport = self.client.transport ∧
      (performOperation self operation).1.client.orderedDatagramIn =
        L.orderedDatagramInLogicInit := by
  have htransport := fun now =>
    congrArg Setup.transport (setup_nimbleClientReset self.client now)
  cases operation with
  | reset now => exact ⟨htransport now, rfl⟩
  | realizeReset now => exact ⟨htransport now, rfl⟩
  | _ => exact h.elim

/-- Among the feeds of a run, `late` picks responses to requests of clients in `earlier`. -/
def LateResponses (earlier run : List (NimbleClientRealize L × Operation L))
    (late : NimbleClient L → Datagram L → Prop) : Prop :=
  ∀ v ∈ run, ∀ f ∈ operationFeeds v.1 v.2, late f.1 f.2 → ∀ x, dispatch? f.1 f.2 = some x →
    ∃ e ∈ earlier, x.Answers e.1.client

/-- One late response. -/
theorem sessionFields_late {earlier run : List (NimbleClientRealize L × Operation L)}
    {late : NimbleClient L → Datagram L → Prop} (hlate : LateResponses earlier run late)
    (hids : ∀ e ∈ earlier, ∀ v ∈ run, e.1.client.requestIds = v.1.client.requestIds)
    {v : NimbleClientRealize L × Operation L} (hv : v ∈ run) {f : NimbleClient L × Datagram L}
    (hf : f ∈ operationFeeds v.1 v.2) (hl : late f.1 f.2) :
    (nimbleClientFeed f.1 f.2).2.protocolState.sessionFields = f.1.protocolState.sessionFields ↔
      ∀ x, dispatch? f.1 f.2 = some x → x.Refused := by
  cases hx : dispatch? f.1 f.2 with
  | none =>
      rw [protocolState_feed_of_dispatch_eq_none hx]
      exact iff_of_true rfl fun _ hx => (Option.some_ne_none _ hx.symm).elim
  | some x =>
      obtain ⟨e, he, hanswers⟩ := hlate v hv f hf hl x hx
      have hsetup := (setup_of_dispatch hx).trans (setup_of_mem_operationFeeds hf)
      have hsame := (hids e he v hv).trans (requestIds_of_setup hsetup).symm
      rw [nimbleClientFeed_of_dispatch hx, ← protocolState_of_dispatch hx,
        sessionFields_outcome hanswers hsame]
      constructor
      · rintro hrefused _ hy
        cases hy
        exact hrefused
      · exact fun h => h x rfl

/-- All sessions of a run use the same ids. -/
theorem requestIds_of_sessions {start fresh : NimbleClientRealize L} (hstart : Reachable start)
    (hfresh : Reachable fresh) {before after : List (Operation L)}
    {e v : NimbleClientRealize L × Operation L} (he : e ∈ (realizer L).visits start before)
    (hv : v ∈ (realizer L).visits fresh after) :
    e.1.client.requestIds = v.1.client.requestIds :=
  (reachable_of_mem_visits hstart he).requestIds_eq.trans
    (reachable_of_mem_visits hfresh hv).requestIds_eq.symm

/-- After a reset over the same transport no id tells the sessions apart: all request ids are the
same, and the ordered ids start over. Whatever late responses of the earlier session come in
between, they leave the new session alone exactly when each of them meets one of the other
reasons of its handler to drop it. -/
theorem session_isolation (memory : NimbleClientRealize L)
    (settings : NimbleClientRealizeSettings L) (now : MonotonicTimeMs)
    (before after : List (Operation L)) {reset : Operation L} (hreset : reset.ResetsClient)
    (late : NimbleClient L → Datagram L → Prop) :
    let start := nimbleClientRealizeInit memory settings now
    let old := (realizer L).run start before
    let fresh := ((realizer L).step old reset).1
    let earlier := (realizer L).visits start before
    let run := (realizer L).visits fresh after
    LateResponses earlier run late →
      fresh.client.transport = old.client.transport ∧
      fresh.client.orderedDatagramIn = L.orderedDatagramInLogicInit ∧
      (∀ e ∈ earlier, ∀ v ∈ run, e.1.client.requestIds = v.1.client.requestIds) ∧
      ((∀ v ∈ run, ∀ f ∈ operationFeeds v.1 v.2, late f.1 f.2 →
          (nimbleClientFeed f.1 f.2).2.protocolState.sessionFields =
            f.1.protocolState.sessionFields) ↔
        ∀ v ∈ run, ∀ f ∈ operationFeeds v.1 v.2, late f.1 f.2 →
          ∀ x, dispatch? f.1 f.2 = some x → x.Refused) := by
  intro start old fresh earlier run hlate
  have hstart : Reachable start := ⟨memory, settings, now, [], rfl⟩
  have hold : Reachable old := ⟨memory, settings, now, before, rfl⟩
  have hfresh : Reachable fresh := hold.step reset
  obtain ⟨htransport, hordered⟩ := hreset.fresh old
  have hids : ∀ e ∈ earlier, ∀ v ∈ run, e.1.client.requestIds = v.1.client.requestIds :=
    fun e he v hv => requestIds_of_sessions hstart hfresh he hv
  refine ⟨htransport, hordered, hids, ?_, ?_⟩
  · exact fun h v hv f hf hl => (sessionFields_late hlate hids hv hf hl).mp (h v hv f hf hl)
  · exact fun h v hv f hf hl => (sessionFields_late hlate hids hv hf hl).mpr (h v hv f hf hl)

/-! ## Runs on fixed inputs -/

namespace Small

/-- A session that has asked for the game state. -/
def askedSession : List (Operation smallLibraries) := (syncSession 10 5).take 4

/-- The next session over the same transport, once it has asked for a connection. -/
def nextSession : NimbleClientRealize smallLibraries :=
  (realizer smallLibraries).run (freshRealizer 1)
    (askedSession ++
      [.reset 0, .realizeUpdate (updateWith []), .realizeUpdate (updateWith [])])

/-- The first session reset. -/
def resetRealizer : NimbleClientRealize smallLibraries :=
  ((realizer smallLibraries).step
    ((realizer smallLibraries).run (freshRealizer 1) askedSession) (.reset 0)).1

/-- The client in the first feed of its next update. -/
def resetClient : NimbleClient smallLibraries :=
  (beginUpdate resetRealizer.client 0).countPacketIn

end Small

open Nimble.Small

/-- A late connect response does nothing to a client that has just been reset. -/
theorem session_isolation_idle :
    (nimbleClientFeed resetClient (connectResponse 1)).2.protocolState.sessionFields =
      resetClient.protocolState.sessionFields := by
  let after : List (Operation smallLibraries) := [.update (updateWith [connectResponse 1])]
  have hlate : ((realizer smallLibraries).visits resetRealizer after).all (fun v =>
      (operationFeeds v.1 v.2).all fun f => (dispatch? f.1 f.2).all fun x =>
        x.command = some .connectResponse ∧ x.client.state ≠ .requestingConnect) = true := by
    decide +kernel
  have hresponse : ∀ v ∈ (realizer smallLibraries).visits resetRealizer after,
      ∀ f ∈ operationFeeds v.1 v.2, ∀ x, dispatch? f.1 f.2 = some x →
        x.command = some .connectResponse ∧ x.client.state ≠ .requestingConnect := by
    intro v hv f hf x hx
    have hfeed := List.all_eq_true.mp (List.all_eq_true.mp hlate v hv) f hf
    rw [hx] at hfeed
    exact of_decide_eq_true hfeed
  have hisolated := @session_isolation _ (realizeMemory ⟨1, []⟩) settings 0 askedSession after
    (.reset 0) trivial (fun _ _ => True) (fun v hv f hf _ x hx => by
      refine ⟨_, List.mem_cons_self, ?_⟩
      rw [Dispatch.Answers]
      rw [(hresponse v hv f hf x hx).1]
      trivial)
  refine hisolated.2.2.2.mpr ?_ _ List.mem_cons_self (resetClient, connectResponse 1)
    List.mem_cons_self trivial
  intro v hv f hf _ x hx
  rw [Dispatch.Refused]
  rw [(hresponse v hv f hf x hx).1]
  exact Or.inr (hresponse v hv f hf x hx).2

/-- The answer to the download request of the first session takes the second one, which is still
waiting for its connection, to the download of a state it has not asked for. -/
theorem session_isolation_counterexample :
    Reachable nextSession ∧ nextSession.client.state = .requestingConnect ∧
      (dispatch? nextSession.client (gameStateResponse 2 10 5)).map (fun x =>
          (x.command, (gameStateFields x.inStream x.locals).clientRequestId)) =
        some (some .gameStateResponse,
          ((realizer smallLibraries).run (freshRealizer 1)
            askedSession).client.downloadStateClientRequestId) ∧
      (nimbleClientFeed nextSession.client (gameStateResponse 2 10 5)).2.state =
        .joiningDownloadingState ∧
      (nimbleClientFeed nextSession.client (gameStateResponse 2 10 5)).2.joinStateChannel = 5 :=
  ⟨⟨_, _, _, _, rfl⟩, by decide +kernel⟩

end Nimble
