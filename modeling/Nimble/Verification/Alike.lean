import Nimble.Verification.Alike.Messages

/-! # Clients that differ in nothing that shows

Two clients that differ only in values that nothing of a session reads again stay like that, and
answer every call alike. -/

namespace Nimble

variable {L : Libraries}

section

variable {a b : NimbleClient L}

/-! ## Updates -/

theorem alike_beginUpdate (h : Alike a b) (now : MonotonicTimeMs) :
    Alike (beginUpdate a now) (beginUpdate b now) := by
  obtain ⟨rest, rfl⟩ := h.eq_withRest
  obtain ⟨_, _, _, _, ha⟩ := beginUpdate_eq a now
  obtain ⟨_, _, _, _, hb⟩ := beginUpdate_eq (a.withRest rest) now
  rw [ha, hb]
  rfl

/-- A quality tick forgets the rating before it. -/
theorem qualityTick_withRating (self : NimbleClientConnectionQuality L) (rating : Nat) :
    qualityTick { self with qualityRating := rating } = qualityTick self := rfl

theorem alike_watched (h : Alike a b) : Alike (watched a) (watched b) := by
  have hstate := h.congr NimbleClient.state fun _ _ => rfl
  by_cases hsynced : a.state = .synced
  · rw [watched_of_synced hsynced, watched_of_synced (hstate.trans hsynced)]
    obtain ⟨rest, rfl⟩ := h.eq_withRest
    have hquality : qualityTick (a.withRest rest).quality = qualityTick a.quality :=
      qualityTick_withRating a.quality rest.qualityRating
    rw [hquality]
    exact related_ite Iff.rfl rfl rfl
  · rw [watched_of_ne hsynced, watched_of_ne fun hb => hsynced (hstate.symm.trans hb)]
    exact h

theorem alike_showStats_calcStats (h : Alike a b) (now : MonotonicTimeMs) :
    Alike (showStats (calcStats a now)) (showStats (calcStats b now)) := by
  obtain ⟨rest, rfl⟩ := h.eq_withRest
  rfl

/-- The same return value, the same queue and the same datagrams. -/
def AlikeUpdates (x y : UpdateOutcome L) : Prop :=
  y.result = x.result ∧ y.queue = x.queue ∧ sentOctets y.events = sentOctets x.events ∧
    Alike x.client y.client

theorem alike_decrementWaitTime (h : Alike a b) :
    Alike { a with waitTime := a.waitTime - 1 } { b with waitTime := b.waitTime - 1 } := by
  obtain ⟨rest, rfl⟩ := h.eq_withRest
  rfl

theorem alike_finishUpdate (h : Alike a b) (result : Int) (queue : List (Received L))
    (input : UpdateInput L) :
    AlikeUpdates (finishUpdate a result queue input) (finishUpdate b result queue input) := by
  have hwatched := alike_watched h
  obtain ⟨_, hevents, hclient⟩ :=
    alike_sendPackets (alike_showStats_calcStats hwatched input.now) input.outgoing
  have hwait : 0 < (watched a).waitTime ↔ 0 < (watched b).waitTime := by
    rw [hwatched.congr NimbleClient.waitTime fun _ _ => rfl]
  rw [finishUpdate_eq, finishUpdate_eq]
  exact related_ite hwait ⟨rfl, rfl, rfl, alike_decrementWaitTime hwatched⟩
    ⟨rfl, rfl, hevents, hclient⟩

theorem alike_nimbleClientUpdate (h : Alike a b) (input : UpdateInput L) :
    AlikeUpdates (nimbleClientUpdate a input) (nimbleClientUpdate b input) := by
  obtain ⟨hresult, hqueue, hclient⟩ :=
    alike_receiveLoop (alike_beginUpdate h input.now) 0 input.queue
  rw [nimbleClientUpdate_eq, nimbleClientUpdate_eq]
  dsimp only
  rw [hresult, hqueue]
  exact related_ite Iff.rfl ⟨rfl, rfl, rfl, hclient⟩ (alike_finishUpdate hclient _ _ input)

end

/-! ## Reset -/

/-- The fields that show and that no reset or initialization writes. -/
structure Leftovers (L : Libraries) where
  waitTime : Int
  joinParticipantPhase : NimbleJoiningState
  joinStateChannel : NimbleSerializeBlobStreamChannelId
  blobStreamInLogic : L.BlobStreamLogicIn
  blobStreamIn : L.BlobStreamIn
  joinStateId : StepId
  joinGameRequest : NimbleSerializeJoinGameRequest L.JoinGameOptions
  latencyMs : Nat

def NimbleClient.leftovers (self : NimbleClient L) : Leftovers L where
  waitTime := self.waitTime
  joinParticipantPhase := self.joinParticipantPhase
  joinStateChannel := self.joinStateChannel
  blobStreamInLogic := self.blobStreamInLogic
  blobStreamIn := self.blobStreamIn
  joinStateId := self.joinStateId
  joinGameRequest := self.joinGameRequest
  latencyMs := self.latencyMs

/-- The step buffers as a reset leaves them. -/
def NimbleClient.resetBuffers (self : NimbleClient L) : L.NbsSteps × L.NbsPendingSteps :=
  (L.nbsStepsReset self.outSteps,
    L.nbsPendingStepsReset self.authoritativePendingStepsFromServer 0)

/-- The setup as a reset leaves it. -/
def Setup.reset (self : Setup L) : Setup L :=
  { self with downloadStateClientRequestId := 1, useStats := true }

/-- What a reset makes of a client depends on its setup, the leftovers and the step buffers. -/
theorem alike_nimbleClientReset_of_leftovers {a b : NimbleClient L}
    (hsetup : b.setup.reset = a.setup.reset) (hleftovers : b.leftovers = a.leftovers)
    (hbuffers : b.resetBuffers = a.resetBuffers) (now now' : MonotonicTimeMs) :
    Alike (nimbleClientReset a now) (nimbleClientReset b now') := by
  unfold nimbleClientReset
  dsimp only
  obtain ⟨_, _, ha⟩ := freeGameState_eq _
  obtain ⟨_, _, hb⟩ := freeGameState_eq _
  rw [ha, hb]
  cases a
  cases b
  simp only [NimbleClient.setup, Setup.reset, Setup.mk.injEq, true_and] at hsetup
  simp only [NimbleClient.leftovers, Leftovers.mk.injEq] at hleftovers
  simp only [NimbleClient.resetBuffers, Prod.mk.injEq] at hbuffers
  obtain ⟨rfl, rfl, rfl, rfl, rfl, rfl, rfl, rfl⟩ := hsetup
  obtain ⟨rfl, rfl, rfl, rfl, rfl, rfl, rfl, rfl⟩ := hleftovers
  dsimp only
  rw [hbuffers.1, hbuffers.2]
  rfl

/-- The setup of a client initialized with these settings. -/
def NimbleClientRealizeSettings.setup (self : NimbleClientRealizeSettings L) : Setup L where
  transport := self.transport
  downloadStateClientRequestId := 1
  useStats := true
  memory := self.memory
  maximumSingleParticipantStepOctetCount := self.maximumSingleParticipantStepOctetCount
  maximumNumberOfParticipants := self.maximumNumberOfParticipants
  applicationVersion := self.applicationVersion
  connectRequestId := 0
  expectedTickDurationMs := 16
  wantsDebugStreams := self.wantsDebugStreams

/-- The octet count of a step of all participants. -/
def Setup.combinedStepOctetCount (self : Setup L) : Nat :=
  L.nbsStepsOutSerializeCalculateCombinedSize self.maximumNumberOfParticipants
    self.maximumSingleParticipantStepOctetCount

@[simp] theorem Setup.memory_reset (self : Setup L) : self.reset.memory = self.memory := rfl

@[simp] theorem Setup.combinedStepOctetCount_reset (self : Setup L) :
    self.reset.combinedStepOctetCount = self.combinedStepOctetCount := rfl

/-- A reset has already done what `nimbleClientConnectionQualityInit` does. -/
theorem initQuality_nimbleClientReset (self : NimbleClient L) (now : MonotonicTimeMs) :
    { nimbleClientReset self now with
      quality := nimbleClientConnectionQualityInit (nimbleClientReset self now).quality } =
    nimbleClientReset self now := rfl

/-- Initialization resets a client placed in the memory, of which it keeps the leftovers. -/
theorem nimbleClientInit_eq_reset (memory : NimbleClient L)
    (settings : NimbleClientRealizeSettings L) (now : MonotonicTimeMs) :
    ∃ placed, nimbleClientInit memory settings now = nimbleClientReset placed now ∧
      placed.leftovers = memory.leftovers ∧ placed.setup.reset = settings.setup ∧
      placed.outSteps = L.nbsStepsInit settings.memory settings.setup.combinedStepOctetCount ∧
      placed.authoritativePendingStepsFromServer = L.nbsPendingStepsInit 0 := by
  rw [nimbleClientInit, nimbleClientReInit]
  dsimp only
  rw [initQuality_nimbleClientReset]
  exact ⟨_, rfl, rfl, rfl, rfl, rfl⟩

/-- Of the memory that a client is placed in, only the leftovers show. -/
theorem alike_nimbleClientInit_of_leftovers {a b : NimbleClient L}
    (hleftovers : b.leftovers = a.leftovers) (settings : NimbleClientRealizeSettings L)
    (now now' : MonotonicTimeMs) :
    Alike (nimbleClientInit a settings now) (nimbleClientInit b settings now') := by
  obtain ⟨placed, ha, hkept, hsetup, hsteps, hpending⟩ := nimbleClientInit_eq_reset a settings now
  obtain ⟨placed', hb, hkept', hsetup', hsteps', hpending'⟩ :=
    nimbleClientInit_eq_reset b settings now'
  rw [ha, hb]
  refine alike_nimbleClientReset_of_leftovers (hsetup'.trans hsetup.symm) ?_ ?_ now now'
  · rw [hkept, hkept', hleftovers]
  · rw [NimbleClient.resetBuffers, hsteps', hpending', NimbleClient.resetBuffers, hsteps, hpending]

section

variable {a b : NimbleClient L}

theorem Alike.leftovers_eq (h : Alike a b) : b.leftovers = a.leftovers :=
  h.congr NimbleClient.leftovers fun _ _ => rfl

theorem alike_nimbleClientReset (h : Alike a b) (now : MonotonicTimeMs) :
    Alike (nimbleClientReset a now) (nimbleClientReset b now) :=
  alike_nimbleClientReset_of_leftovers (h.congr (fun c => c.setup.reset) fun _ _ => rfl)
    h.leftovers_eq (h.congr NimbleClient.resetBuffers fun _ _ => rfl) now now

theorem alike_nimbleClientReInit (h : Alike a b) (transport : L.DatagramTransport)
    (now : MonotonicTimeMs) :
    Alike (nimbleClientReInit a transport now) (nimbleClientReInit b transport now) := by
  obtain ⟨rest, rfl⟩ := h.eq_withRest
  exact alike_nimbleClientReset (alike_withRest { a with transport := transport } rest) now

end

/-! ## Calls -/

/-- Realizers at the same point of their work whose clients are alike. -/
structure AlikeRealizers (a b : NimbleClientRealize L) : Prop where
  client : Alike a.client b.client
  targetState : b.targetState = a.targetState
  state : b.state = a.state
  joinGameRequestNonce : b.joinGameRequestNonce = a.joinGameRequestNonce

/-- What shows of a realizer and its client. -/
structure View where
  realizeState : NimbleClientRealizeState
  state : NimbleClientState
  joinParticipantPhase : NimbleJoiningState
  participantId : UInt8 → Int × UInt8
  optimalStepIdToSend : Bool × StepId × Option Nat

def NimbleClientRealize.view (self : NimbleClientRealize L) : View where
  realizeState := self.state
  state := self.client.state
  joinParticipantPhase := self.client.joinParticipantPhase
  participantId := nimbleClientFindParticipantId self.client
  optimalStepIdToSend := nimbleClientOptimalStepIdToSend self.client

theorem AlikeRealizers.view_eq {a b : NimbleClientRealize L} (h : AlikeRealizers a b) :
    b.view = a.view := by
  have hclient := h.client.congr (fun client => (client.state, client.joinParticipantPhase,
    nimbleClientFindParticipantId client, nimbleClientOptimalStepIdToSend client)) fun _ _ => rfl
  simp only [Prod.mk.injEq] at hclient
  simp only [NimbleClientRealize.view, View.mk.injEq]
  exact ⟨h.state, hclient⟩

/-- What a call gives back: the return value of the update it makes and what that leaves in
the transport's queue, its own return value, the step it reads, and the datagrams it sends. -/
structure Answer (L : Libraries) where
  update : Option (Int × List (Received L))
  result : Option Int
  step : Option (StepId × List UInt8)
  sent : List (List UInt8)

def OperationOutcome.answer (self : OperationOutcome L) : Answer L where
  update := self.update.map fun update => (update.result, update.queue)
  result := self.result
  step := self.step
  sent := sentOctets self.events

/-- The calls as an observer sees them: what each gives back, and what shows afterwards. -/
def observer (L : Libraries) : Machine (NimbleClientRealize L) (Operation L) (Answer L × View) where
  step self operation :=
    ((performOperation self operation).1, (performOperation self operation).2.answer,
      (performOperation self operation).1.view)

/-- Two calls that give the same back and lead to realizers that are alike. -/
def AlikeCalls (x y : NimbleClientRealize L × OperationOutcome L) : Prop :=
  AlikeRealizers x.1 y.1 ∧ y.2.answer = x.2.answer

section

variable {a b : NimbleClientRealize L}

theorem AlikeRealizers.withClient (h : AlikeRealizers a b) {client other : NimbleClient L}
    (hclient : Alike client other) : AlikeRealizers (a.withClient client) (b.withClient other) :=
  ⟨hclient, h.targetState, h.state, h.joinGameRequestNonce⟩

theorem AlikeRealizers.withState (h : AlikeRealizers a b) (state : NimbleClientRealizeState) :
    AlikeRealizers { a with state := state } { b with state := state } :=
  ⟨h.client, h.targetState, rfl, h.joinGameRequestNonce⟩

theorem AlikeRealizers.eq_mk (h : AlikeRealizers a b) : ∃ rest settings,
    b = ⟨a.targetState, a.state, a.client.withRest rest, settings, a.joinGameRequestNonce⟩ := by
  obtain ⟨rest, hrest⟩ := h.client.eq_withRest
  refine ⟨rest, b.settings, ?_⟩
  rw [← h.targetState, ← h.state, ← h.joinGameRequestNonce, ← hrest]

theorem alike_moveTowardsTarget (h : AlikeRealizers a b) :
    AlikeRealizers (moveTowardsTarget a) (moveTowardsTarget b) := by
  obtain ⟨rest, settings, rfl⟩ := h.eq_mk
  obtain ⟨targetState, state, client, _, nonce⟩ := a
  cases targetState with
  | init => exact h
  | reInit => exact h
  | disconnected => exact h
  | cleared => exact related_ite Iff.rfl ⟨rfl, rfl, rfl, rfl⟩ h
  | synced =>
      have hstate : (client.withRest rest).state = client.state := rfl
      unfold moveTowardsTarget
      dsimp only
      rw [hstate]
      cases client.state with
      | idle => exact ⟨rfl, rfl, rfl, rfl⟩
      | connected => exact ⟨rfl, rfl, rfl, rfl⟩
      | synced => exact ⟨rfl, rfl, rfl, rfl⟩
      | _ => exact h

theorem alike_followTarget (h : AlikeRealizers a b) :
    AlikeRealizers (followTarget a) (followTarget b) := by
  have hreached : a.targetState = a.state ↔ b.targetState = b.state := by
    rw [h.targetState, h.state]
  exact related_ite hreached h (alike_moveTowardsTarget h)

theorem alike_nimbleClientRealizeUpdate (h : AlikeRealizers a b) (input : UpdateInput L) :
    AlikeCalls (performOperation a (.realizeUpdate input))
      (performOperation b (.realizeUpdate input)) := by
  have hstate := h.client.congr NimbleClient.state fun _ _ => rfl
  have hupdates : a.UpdatesClient ↔ b.UpdatesClient := by
    unfold NimbleClientRealize.UpdatesClient
    rw [h.targetState, h.state]
  simp only [performOperation]
  by_cases hdisconnected : a.client.state = .disconnected
  · rw [nimbleClientRealizeUpdate_of_disconnected hdisconnected,
      nimbleClientRealizeUpdate_of_disconnected (hstate.trans hdisconnected)]
    exact ⟨h.withState .disconnected, rfl⟩
  have hconnected : b.client.state ≠ .disconnected := fun hb => hdisconnected (hstate ▸ hb)
  by_cases hcalls : a.UpdatesClient
  · obtain ⟨hresult, hqueue, hsent, hclient⟩ := alike_nimbleClientUpdate h.client input
    rw [nimbleClientRealizeUpdate_of_updates ⟨hdisconnected, hcalls⟩,
      nimbleClientRealizeUpdate_of_updates ⟨hconnected, hupdates.mp hcalls⟩]
    refine ⟨alike_followTarget (h.withClient hclient), ?_⟩
    simp [OperationOutcome.answer, hresult, hqueue, hsent]
  · rw [nimbleClientRealizeUpdate_of_not_updates hdisconnected hcalls,
      nimbleClientRealizeUpdate_of_not_updates hconnected fun hb => hcalls (hupdates.mpr hb)]
    exact ⟨alike_followTarget h, rfl⟩

/-- Realizers that are alike answer every call alike, and stay alike. -/
theorem alike_performOperation (h : AlikeRealizers a b) (operation : Operation L) :
    AlikeCalls (performOperation a operation) (performOperation b operation) := by
  cases operation with
  | realizeInit settings now =>
      have hclient := alike_nimbleClientInit_of_leftovers h.client.leftovers_eq settings now now
      exact ⟨⟨hclient, rfl, rfl, h.joinGameRequestNonce⟩, rfl⟩
  | realizeReInit settings now =>
      have hclient := alike_nimbleClientReInit h.client settings.transport now
      exact ⟨⟨hclient, rfl, rfl, h.joinGameRequestNonce⟩, rfl⟩
  | realizeReset now =>
      exact ⟨⟨alike_nimbleClientReset h.client now, h.targetState, rfl, rfl⟩, rfl⟩
  | realizeJoinGame options =>
      obtain ⟨rest, settings, rfl⟩ := h.eq_mk
      exact ⟨⟨rfl, rfl, rfl, rfl⟩, rfl⟩
  | realizeQuitGame =>
      obtain ⟨rest, settings, rfl⟩ := h.eq_mk
      exact ⟨⟨rfl, rfl, rfl, rfl⟩, rfl⟩
  | realizeUpdate input => exact alike_nimbleClientRealizeUpdate h input
  | reset now => exact ⟨h.withClient (alike_nimbleClientReset h.client now), rfl⟩
  | reInit transport now =>
      exact ⟨h.withClient (alike_nimbleClientReInit h.client transport now), rfl⟩
  | disconnect =>
      obtain ⟨rest, settings, rfl⟩ := h.eq_mk
      exact ⟨⟨rfl, rfl, rfl, rfl⟩, rfl⟩
  | update input =>
      obtain ⟨hresult, hqueue, hsent, hclient⟩ := alike_nimbleClientUpdate h.client input
      refine ⟨h.withClient hclient, ?_⟩
      simp [performOperation, OperationOutcome.answer, hresult, hqueue, hsent]
  | outgoing input =>
      obtain ⟨hresult, hsent, hclient⟩ := alike_nimbleClientOutgoing h.client input
      refine ⟨h.withClient hclient, ?_⟩
      simp [performOperation, OperationOutcome.answer, hresult, hsent]
  | readStep maxTarget =>
      obtain ⟨rest, settings, rfl⟩ := h.eq_mk
      exact ⟨⟨rfl, rfl, rfl, rfl⟩, rfl⟩
  | writeStep stepId octets =>
      obtain ⟨rest, settings, rfl⟩ := h.eq_mk
      exact ⟨⟨rfl, rfl, rfl, rfl⟩, rfl⟩

/-- An observer cannot tell apart realizers that are alike, whatever calls follow. -/
theorem AlikeRealizers.outputs_eq (h : AlikeRealizers a b) (operations : List (Operation L)) :
    (observer L).outputs a operations = (observer L).outputs b operations := by
  have hstep : ∀ (s t : NimbleClientRealize L) (operation : Operation L), AlikeRealizers s t →
      AlikeRealizers ((observer L).step s operation).1 ((observer L).step t operation).1 ∧
        id ((observer L).step s operation).2 = id ((observer L).step t operation).2 := by
    intro s t operation hst
    obtain ⟨hafter, hanswer⟩ := alike_performOperation hst operation
    exact ⟨hafter, Prod.ext hanswer.symm hafter.view_eq.symm⟩
  have hmap := (observer L).outputs_eq_of_bisimulation hstep operations h
  rwa [List.map_id, List.map_id] at hmap

end

end Nimble
