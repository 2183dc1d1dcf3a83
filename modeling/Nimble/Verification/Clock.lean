import Nimble.Verification.Clock.Outgoing

/-! # Clock readings and statistics

Two clients that differ in what they have measured go through the same states, whatever the
clock says to each of them. -/

namespace Nimble

variable {L : Libraries}

/-! ## Updates -/

theorem same_beginUpdate {a b : NimbleClient L} (h : SameButClock a b)
    (now now' : MonotonicTimeMs) : SameButClock (beginUpdate a now) (beginUpdate b now') := by
  obtain ⟨clock, rfl⟩ := h.eq_withClock
  obtain ⟨_, _, _, _, ha⟩ := beginUpdate_eq a now
  obtain ⟨_, _, _, _, hb⟩ := beginUpdate_eq (a.withClock clock) now'
  rw [ha, hb]
  rfl

/-- The second quality is the first with these measurements. -/
def MeasuredAs (clock : ClockFields L) (p q : NimbleClientConnectionQuality L) : Prop :=
  q = p.withClock clock

/-- A quality tick judges by the counters; the latency is for the rating. -/
theorem qualityTick_withClock (self : NimbleClientConnectionQuality L) (clock : ClockFields L) :
    ∃ clock', MeasuredAs clock' (qualityTick self) (qualityTick (self.withClock clock)) := by
  let rating := evaluateRating (countTick (self.withClock clock))
  refine ⟨{ clock with
    lastLatencyMs := (evaluateLatency (countTick (self.withClock clock))).2.2
    qualityRating := rating
    ratingStat := L.statsIntAdd clock.ratingStat rating }, ?_⟩
  exact related_ite Iff.rfl rfl (related_ite Iff.rfl rfl rfl)

theorem same_watched {a b : NimbleClient L} (h : SameButClock a b) :
    SameButClock (watched a) (watched b) := by
  have hstate := h.congr NimbleClient.state fun _ _ => rfl
  by_cases hsynced : a.state = .synced
  · rw [watched_of_synced hsynced, watched_of_synced (hstate.trans hsynced)]
    obtain ⟨clock, rfl⟩ := h.eq_withClock
    obtain ⟨clock', htick⟩ := qualityTick_withClock a.quality clock
    have hquality : qualityTick (a.withClock clock).quality =
      (qualityTick a.quality).withClock clock' := htick
    rw [hquality]
    exact related_ite Iff.rfl rfl rfl
  · rw [watched_of_ne hsynced, watched_of_ne fun hb => hsynced (hstate.symm.trans hb)]
    exact h

theorem same_showStats_calcStats {a b : NimbleClient L} (h : SameButClock a b)
    (now now' : MonotonicTimeMs) :
    SameButClock (showStats (calcStats a now)) (showStats (calcStats b now')) := by
  obtain ⟨clock, rfl⟩ := h.eq_withClock
  rfl

theorem same_decrementWaitTime {a b : NimbleClient L} (h : SameButClock a b) :
    SameButClock { a with waitTime := a.waitTime - 1 } { b with waitTime := b.waitTime - 1 } := by
  obtain ⟨clock, rfl⟩ := h.eq_withClock
  rfl

section

variable (laws : InStreamLaws L) (outLaws : OutStreamLaws L) {a b : NimbleClient L}
  {input other : UpdateInput L}

/-- Updates that find twins in the queue, at times that may differ. -/
structure InStreamLaws.UpdateTwins (input other : UpdateInput L) : Prop where
  queue : List.Forall₂ laws.ReceivedTwins input.queue other.queue
  outgoing : SameSends input.outgoing other.outgoing

/-- The same return value, twins left in the queue, and datagrams that differ in their times. -/
structure InStreamLaws.SameUpdates (x y : UpdateOutcome L) : Prop where
  result : y.result = x.result
  queue : List.Forall₂ laws.ReceivedTwins x.queue y.queue
  sent : List.Forall₂ (@SameButTime L) (sentOctets x.events) (sentOctets y.events)
  client : SameButClock x.client y.client

include outLaws

variable {laws}

theorem same_finishUpdate (h : SameButClock a b) (hinput : laws.UpdateTwins input other)
    (result : Int) {queue queue' : List (Received L)}
    (hqueue : List.Forall₂ laws.ReceivedTwins queue queue') :
    laws.SameUpdates (finishUpdate a result queue input) (finishUpdate b result queue' other) := by
  have hwatched := same_watched h
  obtain ⟨_, hevents, hclient⟩ := same_sendPackets outLaws
    (same_showStats_calcStats hwatched input.now other.now) hinput.outgoing
  have hwait : 0 < (watched a).waitTime ↔ 0 < (watched b).waitTime := by
    rw [hwatched.congr NimbleClient.waitTime fun _ _ => rfl]
  rw [finishUpdate_eq, finishUpdate_eq]
  exact related_ite hwait ⟨rfl, hqueue, .nil, same_decrementWaitTime hwatched⟩
    ⟨rfl, hqueue, hevents, hclient⟩

theorem same_nimbleClientUpdate (h : SameButClock a b) (hinput : laws.UpdateTwins input other) :
    laws.SameUpdates (nimbleClientUpdate a input) (nimbleClientUpdate b other) := by
  obtain ⟨hresult, hqueue, hclient⟩ :=
    same_receiveLoop laws (same_beginUpdate h input.now other.now) 0 hinput.queue
  rw [nimbleClientUpdate_eq, nimbleClientUpdate_eq]
  dsimp only
  rw [hresult]
  exact related_ite Iff.rfl ⟨rfl, hqueue, .nil, hclient⟩
    (same_finishUpdate outLaws hclient hinput _ hqueue)

end

/-! ## Reset -/

/-- What is freed depends on the game state and the allocator. -/
theorem freeGameState_congr (self : NimbleClient L) : ∃ joinedGameState blobStreamAllocator,
    ∀ other : NimbleClient L, other.joinedGameState = self.joinedGameState →
      other.blobStreamAllocator = self.blobStreamAllocator → other.freeGameState =
        { other with
          joinedGameState := joinedGameState
          blobStreamAllocator := blobStreamAllocator } := by
  by_cases hsome : self.joinedGameState.gameState.isSome = true
  · let destroyed :=
      nimbleClientGameStateDestroy self.joinedGameState self.blobStreamAllocator
    refine ⟨destroyed.1, destroyed.2, fun other hjoined hallocator => ?_⟩
    rw [NimbleClient.freeGameState]
    rw [hjoined, hallocator, if_pos hsome]
  · refine ⟨self.joinedGameState, self.blobStreamAllocator, fun other hjoined hallocator => ?_⟩
    rw [NimbleClient.freeGameState]
    rw [hjoined, if_neg hsome, ← hjoined, ← hallocator]

section

variable {a b : NimbleClient L}

theorem same_nimbleClientReset (h : SameButClock a b) (now now' : MonotonicTimeMs) :
    SameButClock (nimbleClientReset a now) (nimbleClientReset b now') := by
  obtain ⟨clock, rfl⟩ := h.eq_withClock
  obtain ⟨_, _, hfree⟩ := freeGameState_congr a
  unfold nimbleClientReset
  dsimp only
  rw [hfree, hfree] <;> rfl

theorem same_nimbleClientReInit (h : SameButClock a b) (transport : L.DatagramTransport)
    (now now' : MonotonicTimeMs) :
    SameButClock (nimbleClientReInit a transport now) (nimbleClientReInit b transport now') := by
  obtain ⟨clock, rfl⟩ := h.eq_withClock
  refine same_nimbleClientReset ?_ now now'
  exact rfl

theorem same_nimbleClientInit (h : SameButClock a b) (settings : NimbleClientRealizeSettings L)
    (now now' : MonotonicTimeMs) :
    SameButClock (nimbleClientInit a settings now) (nimbleClientInit b settings now') := by
  obtain ⟨clock, rfl⟩ := h.eq_withClock
  unfold nimbleClientInit
  dsimp only
  rw [nimbleClientReInit, nimbleClientReInit, initQuality_nimbleClientReset,
    initQuality_nimbleClientReset]
  refine same_nimbleClientReset ?_ now now'
  exact rfl

end

/-! ## Calls -/

/-- Realizers whose clients differ in their measurements at most. -/
def SameRealizers (a b : NimbleClientRealize L) : Prop :=
  b = a.withClient (a.client.withClock b.client.clock)

/-- The same call on two realizers: what the clock says and what only it and statistics use may
differ. -/
inductive InStreamLaws.OperationTwins (laws : InStreamLaws L) :
    Operation L → Operation L → Prop
  | realizeInit (settings : NimbleClientRealizeSettings L) (now now' : MonotonicTimeMs) :
    OperationTwins laws (.realizeInit settings now) (.realizeInit settings now')
  | realizeReInit (settings : NimbleClientRealizeSettings L) (now now' : MonotonicTimeMs) :
    OperationTwins laws (.realizeReInit settings now) (.realizeReInit settings now')
  | realizeReset (now now' : MonotonicTimeMs) :
    OperationTwins laws (.realizeReset now) (.realizeReset now')
  | realizeJoinGame (options : L.JoinGameOptions) :
    OperationTwins laws (.realizeJoinGame options) (.realizeJoinGame options)
  | realizeQuitGame : OperationTwins laws .realizeQuitGame .realizeQuitGame
  | realizeUpdate {input other : UpdateInput L} (h : laws.UpdateTwins input other) :
    OperationTwins laws (.realizeUpdate input) (.realizeUpdate other)
  | reset (now now' : MonotonicTimeMs) : OperationTwins laws (.reset now) (.reset now')
  | reInit (transport : L.DatagramTransport) (now now' : MonotonicTimeMs) :
    OperationTwins laws (.reInit transport now) (.reInit transport now')
  | disconnect : OperationTwins laws .disconnect .disconnect
  | update {input other : UpdateInput L} (h : laws.UpdateTwins input other) :
    OperationTwins laws (.update input) (.update other)
  | outgoing {input other : OutgoingInput} (h : SameSends input other) :
    OperationTwins laws (.outgoing input) (.outgoing other)
  | readStep (maxTarget : Nat) : OperationTwins laws (.readStep maxTarget) (.readStep maxTarget)
  | writeStep (stepId : StepId) (octets : List UInt8) :
    OperationTwins laws (.writeStep stepId octets) (.writeStep stepId octets)

/-- The same answers: the return value of the update and twins in the queue behind it, the
return value of the call, the step read, and datagrams that differ in their times. -/
structure InStreamLaws.SameAnswers (laws : InStreamLaws L) (x y : Answer L) : Prop where
  update : Option.Rel (fun u v => v.1 = u.1 ∧ List.Forall₂ laws.ReceivedTwins u.2 v.2)
    x.update y.update
  result : y.result = x.result
  step : y.step = x.step
  sent : List.Forall₂ (@SameButTime L) x.sent y.sent

/-- Two calls with the same answers that lead to realizers that are the same but for what they
have measured. -/
def InStreamLaws.SameCalls (laws : InStreamLaws L)
    (x y : NimbleClientRealize L × OperationOutcome L) : Prop :=
  SameRealizers x.1 y.1 ∧ laws.SameAnswers x.2.answer y.2.answer

section

variable {a b : NimbleClientRealize L}

theorem SameRealizers.eq_mk (h : SameRealizers a b) :
    ∃ clock, b = a.withClient (a.client.withClock clock) :=
  ⟨_, h⟩

theorem SameRealizers.client (h : SameRealizers a b) : SameButClock a.client b.client :=
  congrArg NimbleClientRealize.client h

/-- Everything of the two realizers but their clients is the same. -/
theorem sameRealizers_mk {client other : NimbleClient L} (hclient : SameButClock client other)
    (targetState state : NimbleClientRealizeState) (settings : NimbleClientRealizeSettings L)
    (nonce : NimbleSerializeNonce) :
    SameRealizers ⟨targetState, state, client, settings, nonce⟩
      ⟨targetState, state, other, settings, nonce⟩ :=
  congrArg (fun client => (⟨targetState, state, client, settings, nonce⟩ :
    NimbleClientRealize L)) hclient

theorem SameRealizers.withClient (h : SameRealizers a b) {client other : NimbleClient L}
    (hclient : SameButClock client other) :
    SameRealizers (a.withClient client) (b.withClient other) := by
  obtain ⟨clock, rfl⟩ := h.eq_mk
  obtain ⟨clock', rfl⟩ := hclient.eq_withClock
  rfl

theorem same_moveTowardsTarget (h : SameRealizers a b) :
    SameRealizers (moveTowardsTarget a) (moveTowardsTarget b) := by
  obtain ⟨clock, rfl⟩ := h.eq_mk
  obtain ⟨targetState, state, client, settings, nonce⟩ := a
  cases targetState with
  | init => rfl
  | reInit => rfl
  | disconnected => rfl
  | cleared => exact related_ite Iff.rfl rfl rfl
  | synced =>
      have hstate : (client.withClock clock).state = client.state := rfl
      unfold moveTowardsTarget NimbleClientRealize.withClient
      dsimp only
      rw [hstate]
      cases client.state <;> rfl

theorem same_followTarget (h : SameRealizers a b) :
    SameRealizers (followTarget a) (followTarget b) := by
  have hreached : a.targetState = a.state ↔ b.targetState = b.state := by
    obtain ⟨clock, rfl⟩ := h.eq_mk
    exact Iff.rfl
  exact related_ite hreached h (same_moveTowardsTarget h)

variable {laws : InStreamLaws L} (outLaws : OutStreamLaws L)

/-- A call that sends nothing and does not update the client. -/
theorem sameAnswers_quiet (result : Option Int) (step : Option (StepId × List UInt8)) :
    laws.SameAnswers (OperationOutcome.answer ⟨none, [], result, step⟩)
      (OperationOutcome.answer ⟨none, [], result, step⟩) :=
  ⟨.none, rfl, rfl, .nil⟩

include outLaws

theorem same_realizeUpdate (h : SameRealizers a b) {input other : UpdateInput L}
    (hinput : laws.UpdateTwins input other) :
    laws.SameCalls (performOperation a (.realizeUpdate input))
      (performOperation b (.realizeUpdate other)) := by
  have hstate := h.client.congr NimbleClient.state fun _ _ => rfl
  have hrealize : b.targetState = a.targetState ∧ b.state = a.state := by
    obtain ⟨clock, rfl⟩ := h.eq_mk
    exact ⟨rfl, rfl⟩
  have hupdates : a.UpdatesClient ↔ b.UpdatesClient := by
    unfold NimbleClientRealize.UpdatesClient
    rw [hrealize.1, hrealize.2]
  simp only [performOperation]
  by_cases hdisconnected : a.client.state = .disconnected
  · rw [nimbleClientRealizeUpdate_of_disconnected hdisconnected,
      nimbleClientRealizeUpdate_of_disconnected (hstate.trans hdisconnected)]
    obtain ⟨clock, rfl⟩ := h.eq_mk
    exact ⟨rfl, sameAnswers_quiet none none⟩
  have hconnected : b.client.state ≠ .disconnected := fun hb => hdisconnected (hstate ▸ hb)
  by_cases hcalls : a.UpdatesClient
  · obtain ⟨hresult, hqueue, hsent, hclient⟩ := same_nimbleClientUpdate outLaws h.client hinput
    rw [nimbleClientRealizeUpdate_of_updates ⟨hdisconnected, hcalls⟩,
      nimbleClientRealizeUpdate_of_updates ⟨hconnected, hupdates.mp hcalls⟩]
    exact ⟨same_followTarget (h.withClient hclient), .some ⟨hresult, hqueue⟩, rfl, rfl, hsent⟩
  · rw [nimbleClientRealizeUpdate_of_not_updates hdisconnected hcalls,
      nimbleClientRealizeUpdate_of_not_updates hconnected fun hb => hcalls (hupdates.mpr hb)]
    exact ⟨same_followTarget h, sameAnswers_quiet none none⟩

/-- The same call has the same answer and the same effect on both realizers. -/
theorem same_performOperation (h : SameRealizers a b) {operation other : Operation L}
    (htwins : laws.OperationTwins operation other) :
    laws.SameCalls (performOperation a operation) (performOperation b other) := by
  cases htwins with
  | realizeInit settings now now' =>
      have hclient := same_nimbleClientInit h.client settings now now'
      obtain ⟨clock, rfl⟩ := h.eq_mk
      exact ⟨sameRealizers_mk hclient _ _ _ _, sameAnswers_quiet none none⟩
  | realizeReInit settings now now' =>
      have hclient := same_nimbleClientReInit h.client settings.transport now now'
      obtain ⟨clock, rfl⟩ := h.eq_mk
      exact ⟨sameRealizers_mk hclient _ _ _ _, sameAnswers_quiet none none⟩
  | realizeReset now now' =>
      have hclient := same_nimbleClientReset h.client now now'
      obtain ⟨clock, rfl⟩ := h.eq_mk
      exact ⟨sameRealizers_mk hclient _ _ _ _, sameAnswers_quiet none none⟩
  | realizeJoinGame options =>
      obtain ⟨clock, rfl⟩ := h.eq_mk
      exact ⟨rfl, sameAnswers_quiet none none⟩
  | realizeQuitGame =>
      obtain ⟨clock, rfl⟩ := h.eq_mk
      exact ⟨rfl, sameAnswers_quiet none none⟩
  | realizeUpdate hinput => exact same_realizeUpdate outLaws h hinput
  | reset now now' =>
      exact ⟨h.withClient (same_nimbleClientReset h.client now now'), sameAnswers_quiet none none⟩
  | reInit transport now now' =>
      exact ⟨h.withClient (same_nimbleClientReInit h.client transport now now'),
        sameAnswers_quiet none none⟩
  | disconnect =>
      obtain ⟨clock, rfl⟩ := h.eq_mk
      exact ⟨rfl, sameAnswers_quiet none none⟩
  | update hinput =>
      obtain ⟨hresult, hqueue, hsent, hclient⟩ := same_nimbleClientUpdate outLaws h.client hinput
      exact ⟨h.withClient hclient, .some ⟨hresult, hqueue⟩, congrArg some hresult, rfl, hsent⟩
  | outgoing hinput =>
      obtain ⟨hresult, hsent, hclient⟩ := same_nimbleClientOutgoing outLaws h.client hinput
      exact ⟨h.withClient hclient, .none, congrArg some hresult, rfl, hsent⟩
  | readStep maxTarget =>
      obtain ⟨clock, rfl⟩ := h.eq_mk
      exact ⟨rfl, sameAnswers_quiet _ _⟩
  | writeStep stepId octets =>
      obtain ⟨clock, rfl⟩ := h.eq_mk
      exact ⟨rfl, sameAnswers_quiet _ _⟩

end

/-! ## Runs -/

/-- The course of a session, as far as the clock could steer it. -/
structure Course (L : Libraries) where
  state : NimbleClientState
  joinParticipantPhase : NimbleJoiningState
  waitTime : Int
  localParticipantLookup : Vector NimbleClientParticipantEntry nimbleClientMaxLocalUsersCount
  localParticipantCount : Nat
  outSteps : L.NbsSteps
  authoritativePendingStepsFromServer : L.NbsPendingSteps
  authoritativeStepsFromServer : L.NbsSteps
  consideringDisconnectCounter : Nat
  reason : NimbleConnectionQualityDisconnectReason

def NimbleClient.course (self : NimbleClient L) : Course L where
  state := self.state
  joinParticipantPhase := self.joinParticipantPhase
  waitTime := self.waitTime
  localParticipantLookup := self.localParticipantLookup
  localParticipantCount := self.localParticipantCount
  outSteps := self.outSteps
  authoritativePendingStepsFromServer := self.authoritativePendingStepsFromServer
  authoritativeStepsFromServer := self.authoritativeStepsFromServer
  consideringDisconnectCounter := self.quality.consideringDisconnectCounter
  reason := self.quality.reason

/-- The calls with what each gives back, and where it takes the client. -/
def navigator (L : Libraries) :
    Machine (NimbleClientRealize L) (Operation L) (Answer L × Course L) where
  step self operation :=
    ((performOperation self operation).1, (performOperation self operation).2.answer,
      (performOperation self operation).1.client.course)

/-- Clock readings, pong times and the server's buffer statistics steer nothing: runs that differ
in these alone take the same course, and the same datagrams are sent at other times. -/
theorem clock_never_steers (laws : InStreamLaws L) (outLaws : OutStreamLaws L)
    (self : NimbleClientRealize L) {operations others : List (Operation L)}
    (h : List.Forall₂ laws.OperationTwins operations others) :
    List.Forall₂ (fun x y => laws.SameAnswers x.1 y.1 ∧ y.2 = x.2)
      ((navigator L).outputs self operations) ((navigator L).outputs self others) := by
  have hstep : ∀ a b operation other, SameRealizers a b → laws.OperationTwins operation other →
      SameRealizers ((navigator L).step a operation).1 ((navigator L).step b other).1 ∧
        laws.SameAnswers ((navigator L).step a operation).2.1 ((navigator L).step b other).2.1 ∧
        ((navigator L).step b other).2.2 = ((navigator L).step a operation).2.2 := by
    intro a b operation other hab htwins
    obtain ⟨hafter, hanswers⟩ := same_performOperation outLaws hab htwins
    exact ⟨hafter, hanswers, hafter.client.congr NimbleClient.course fun _ _ => rfl⟩
  exact (@Machine.related_of_lockstep _ _ _ (navigator L) SameRealizers laws.OperationTwins
    (fun x y => laws.SameAnswers x.1 y.1 ∧ y.2 = x.2) hstep self self operations others rfl h).2

namespace Small

theorem smallOutStreamLaws : OutStreamLaws smallLibraries where
  time _ _ _ := rfl
  uint8 _ _ _ _ := rfl
  command _ _ _ _ := rfl
  connectRequest _ _ _ _ := rfl
  joinGameRequest _ _ _ _ := rfl
  pendingSteps _ _ _ _ _ := rfl
  steps _ _ _ _ := rfl
  chunk _ _ _ _ _ := rfl

/-- A game step response with step 10 that was sent at `time` and arrives at `now`, from a server
with this buffer count and buffer delta. -/
def measuredSteps (time count delta : UInt8) (now : MonotonicTimeMs) : Datagram smallLibraries :=
  ⟨[5, 0, time, 3, count, delta, 0, 0, 0, 9, 0, 0, 0, 10, 1, 42], zeroLocals, now⟩

theorem twins_measuredSteps :
    smallInStreamLaws.Twins (measuredSteps 0 0 0 0) (measuredSteps 200 9 251 1000) where
  length := rfl
  locals := rfl
  octets i hi := by
    have hvalue : (1 ≤ i ∧ i < 3) ∨ (4 ≤ i ∧ i < 5) ∨ (5 ≤ i ∧ i < 6) ∨
        (measuredSteps 200 9 251 1000).octets[i]? = (measuredSteps 0 0 0 0).octets[i]? := by
      by_cases hlt : i < 16
      · clear hi
        revert i
        decide
      · rw [List.getElem?_eq_none (Nat.not_lt.mp hlt), List.getElem?_eq_none (Nat.not_lt.mp hlt)]
        simp
    rcases hvalue with htime | hcount | hdelta | hsame
    · exact absurd (Or.inl htime) hi
    · exact absurd (Or.inr ⟨rfl, Or.inl hcount⟩) hi
    · exact absurd (Or.inr ⟨rfl, Or.inr hdelta⟩) hi
    · exact hsame

/-- An update that takes the response in, and the step read. -/
def measuredSession (response : Datagram smallLibraries) (now : MonotonicTimeMs) :
    List (Operation smallLibraries) :=
  [.update ⟨now, [.datagram response], ⟨now, 0, now, 0⟩⟩, .readStep 10]

end Small

open Nimble.Small

/-- The latencies come out different, and nothing else. -/
theorem clock_never_steers_steps :
    List.Forall₂ (fun x y => smallInStreamLaws.SameAnswers x.1 y.1 ∧ y.2 = x.2)
        ((navigator smallLibraries).outputs joinedRealizer
          (measuredSession (measuredSteps 0 0 0 0) 0))
        ((navigator smallLibraries).outputs joinedRealizer
          (measuredSession (measuredSteps 200 9 251 1000) 1000)) ∧
      ((realizer smallLibraries).run joinedRealizer
          (measuredSession (measuredSteps 200 9 251 1000) 1000)).client.latencyMs ≠
        ((realizer smallLibraries).run joinedRealizer
          (measuredSession (measuredSteps 0 0 0 0) 0)).client.latencyMs :=
  ⟨clock_never_steers smallInStreamLaws smallOutStreamLaws joinedRealizer
      (.cons (.update ⟨.cons (.datagram twins_measuredSteps) .nil, rfl, rfl⟩)
        (.cons (.readStep 10) .nil)),
    by decide +kernel⟩

end Nimble
