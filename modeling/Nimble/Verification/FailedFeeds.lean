import Nimble.Verification.Disconnect
import Nimble.Verification.StepIntake

/-! # Feeds that fail

A handler that gives up has done nothing yet, except the one of game step responses, which
discards predicted steps before it decodes the rest. -/

namespace Nimble

variable {L : Libraries}

/-- The protocol state together with the ticks left to wait. -/
def NimbleClient.guardedState (self : NimbleClient L) : ProtocolState L × Int :=
  (self.protocolState, self.waitTime)

theorem headerKeeps_guardedState : HeaderKeeps (@NimbleClient.guardedState L) :=
  headerKeeps_of fun _ _ _ _ _ _ => rfl

/-! ## Handlers that fail -/

/-- When the outcome is a failure, the guarded state is the one before it. -/
def FailsQuietly (before : NimbleClient L) (outcome : Int × NimbleClient L) : Prop :=
  outcome.1 < 0 → outcome.2.guardedState = before.guardedState

section

variable {before : NimbleClient L}

theorem FailsQuietly.ite {p : Prop} [Decidable p] {x y : Int × NimbleClient L}
    (hpos : FailsQuietly before x) (hneg : FailsQuietly before y) :
    FailsQuietly before (if p then x else y) := by
  split
  · exact hpos
  · exact hneg

/-- A handler that succeeds returns 0. -/
theorem FailsQuietly.success (after : NimbleClient L) : FailsQuietly before (0, after) :=
  fun h => absurd h (by simp)

theorem FailsQuietly.untouched (code : Int) : FailsQuietly before (code, before) :=
  fun _ => rfl

end

section

variable (self : NimbleClient L) (inStream : FldInStream) (locals : FeedLocals L)

theorem failsQuietly_nimbleClientOnConnectResponse :
    FailsQuietly self (nimbleClientOnConnectResponse self inStream locals) :=
  .ite (.untouched _) (.ite (.success _) (.success _))

theorem failsQuietly_nimbleClientOnJoinGameResponse :
    FailsQuietly self (nimbleClientOnJoinGameResponse self inStream locals) :=
  .ite (.untouched _) (.ite (.success _) (.success _))

theorem failsQuietly_nimbleClientOnDownloadGameStateResponse :
    FailsQuietly self (nimbleClientOnDownloadGameStateResponse self inStream locals) :=
  .ite (.untouched _) (.ite (.success _) (.ite (.success _) (.success _)))

theorem failsQuietly_nimbleClientOnJoinGameParticipantOutOfSpaceResponse :
    FailsQuietly self (nimbleClientOnJoinGameParticipantOutOfSpaceResponse self inStream) :=
  .ite (.untouched _) (.success _)

/-- A chunk that is refused may change the blob stream, which is not guarded. -/
theorem failsQuietly_nimbleClientOnDownloadGameStatePart :
    FailsQuietly self (nimbleClientOnDownloadGameStatePart self inStream locals) := by
  by_cases hchannel : partChannelId inStream locals = self.joinStateChannel
  · rw [nimbleClientOnDownloadGameStatePart_of_eq hchannel]
    exact .ite (fun _ => rfl) (.ite (.success _) (.success _))
  · rw [nimbleClientOnDownloadGameStatePart_of_ne hchannel]
    exact .success _

end

variable {contents : L.NbsSteps → List (StepId × List UInt8)}

/-- Steps that do not decode have had the acknowledged steps discarded in front of them. -/
theorem guardedState_nimbleClientOnGameStepResponse (hkeeps : FailedStepsKeepPending L)
    (hdiscards : DiscardsOlderSteps contents) {self : NimbleClient L} {inStream : FldInStream}
    {locals : FeedLocals L} (hfails : (serializeSteps self inStream locals).1 < 0) :
    (nimbleClientOnGameStepResponse self inStream locals).2.guardedState = self.guardedState ↔
      ∀ step ∈ contents self.outSteps, acknowledgedStepId self inStream locals + 1 ≤ step.1 := by
  have hpending : (serializeSteps self inStream locals).2 =
      self.authoritativePendingStepsFromServer := hkeeps _ _ hfails
  rw [nimbleClientOnGameStepResponse_eq, if_pos hfails, hpending, ← hdiscards]
  constructor
  · intro heq
    exact congrArg (fun guarded => guarded.1.outSteps) heq
  · intro hdiscard
    rw [NimbleClient.discardAcknowledged]
    rw [hdiscard]
    rfl

/-! ## Feeds that fail -/

theorem Dispatch.guardedState_outcome_iff (hfit : StepCountsFit L)
    (hkeeps : FailedStepsKeepPending L) (hdiscards : DiscardsOlderSteps contents)
    {x : Dispatch L} (hfails : x.outcome.1 < 0) :
    x.outcome.2.guardedState = x.client.guardedState ↔
      (x.command = some .gameStepResponse → x.AcknowledgesNothing contents) := by
  have hother : x.command ≠ some .gameStepResponse →
      x.command = some .gameStepResponse → x.AcknowledgesNothing contents :=
    fun hne heq => absurd heq hne
  rcases x.command_cases with h | h | h | h | h | h | h
  · refine iff_of_true ?_ (hother (by simp [h]))
    rw [outcome_connectResponse h] at hfails ⊢
    exact failsQuietly_nimbleClientOnConnectResponse _ _ _ hfails
  · refine iff_of_true ?_ (hother (by simp [h]))
    rw [outcome_serverOutBlobStream h] at hfails ⊢
    exact failsQuietly_nimbleClientOnDownloadGameStatePart _ _ _ hfails
  · rw [outcome_gameStepResponse h] at hfails ⊢
    have hcount : (serializeSteps x.client x.inStream x.locals).1 < 0 := by
      by_contra hcount
      have hcode : (nimbleClientOnGameStepResponse x.client x.inStream x.locals).1 =
          (serializeSteps x.client x.inStream x.locals).1 := by
        rw [nimbleClientOnGameStepResponse_eq, if_neg hcount]
      have hcast := intCast_of_mem (Int.le_trans (by decide) (Int.not_lt.mp hcount)) (hfit _ _)
      rw [hcode] at hfails
      exact hcount (hcast ▸ hfails)
    rw [guardedState_nimbleClientOnGameStepResponse hkeeps hdiscards hcount]
    exact ⟨fun hnothing _ => hnothing, fun hnothing => hnothing h⟩
  · refine iff_of_true ?_ (hother (by simp [h]))
    rw [outcome_joinGameResponse h] at hfails ⊢
    exact failsQuietly_nimbleClientOnJoinGameResponse _ _ _ hfails
  · refine iff_of_true ?_ (hother (by simp [h]))
    rw [outcome_gameStateResponse h] at hfails ⊢
    exact failsQuietly_nimbleClientOnDownloadGameStateResponse _ _ _ hfails
  · refine iff_of_true ?_ (hother (by simp [h]))
    rw [outcome_joinGameOutOfParticipantSlotsResponse h] at hfails ⊢
    exact failsQuietly_nimbleClientOnJoinGameParticipantOutOfSpaceResponse _ _ hfails
  · refine iff_of_true ?_ (hother fun hcmd => ?_)
    · rw [h.2]
    · have hunhandled := h.1 _ hcmd
      cases hunhandled

/-- A feed that fails changes no protocol state and no wait, exactly when it is not a game step
response that acknowledges steps still in the buffer: the ids of all its steps are above the
acknowledged one. -/
theorem failed_feed (contents : L.NbsSteps → List (StepId × List UInt8))
    (hdiscards : DiscardsOlderSteps contents) (hfit : StepCountsFit L)
    (hkeeps : FailedStepsKeepPending L) (self : NimbleClient L) (datagram : Datagram L)
    (hfails : (nimbleClientFeed self datagram).1 < 0) :
    (nimbleClientFeed self datagram).2.protocolState = self.protocolState ∧
        (nimbleClientFeed self datagram).2.waitTime = self.waitTime ↔
      ∀ x, dispatch? self datagram = some x → x.command = some .gameStepResponse →
        ∀ step ∈ contents self.outSteps,
          acknowledgedStepId x.client x.inStream x.locals + 1 ≤ step.1 := by
  have hguarded : (nimbleClientFeed self datagram).2.protocolState = self.protocolState ∧
        (nimbleClientFeed self datagram).2.waitTime = self.waitTime ↔
      (nimbleClientFeed self datagram).2.guardedState = self.guardedState :=
    (Prod.mk.injEq _ _ _ _).to_iff.symm
  rw [hguarded]
  cases hdispatch : dispatch? self datagram with
  | none => exact iff_of_true (headerKeeps_guardedState.of_dispatch_eq_none hdispatch) (by simp)
  | some x =>
      have hout : x.client.outSteps = self.outSteps :=
        congrArg ProtocolState.outSteps (protocolState_of_dispatch hdispatch)
      rw [nimbleClientFeed_of_dispatch hdispatch] at hfails ⊢
      rw [← headerKeeps_guardedState.of_dispatch hdispatch,
        Dispatch.guardedState_outcome_iff hfit hkeeps hdiscards hfails]
      simp only [Dispatch.AcknowledgesNothing, Option.some.injEq, forall_eq', hout]

/-! ## A truncated datagram -/

namespace Small

/-- A game step response that ends behind the id it acknowledges. -/
def truncatedSteps (id acknowledged : UInt8) : Datagram smallLibraries :=
  packet id .gameStepResponse [0, 0, 0, 0, 0, acknowledged]

/-- A joined realizer with one predicted step in its buffer. -/
def predictingRealizer : NimbleClientRealize smallLibraries :=
  (performOperation joinedRealizer (.writeStep 10 [7])).1

end Small

namespace Reordering

/-- A datagram counts its steps with an octet. -/
theorem length_stepsOf_lt {stream : FldInStream} {steps : List (StepId × List UInt8)}
    (h : stepsOf stream = some steps) : steps.length < 256 := by
  unfold stepsOf at h
  dsimp only at h
  split at h
  · rename_i count _ _ _
    split at h
    · obtain rfl := Option.some.inj h
      have := count.toNat_lt
      rw [List.length_mapIdx, List.length_take]
      omega
    · cases h
  · cases h

theorem stepCountsFit_reorderingLibraries : StepCountsFit reorderingLibraries := by
  intro stream pending
  change (EarlySteps.inSerialize stream pending).1 < 2 ^ 31
  rw [EarlySteps.inSerialize]
  cases hsteps : stepsOf stream with
  | none => exact Int.negSucc_lt_zero 3 |>.trans (by decide)
  | some steps =>
      have hlength := length_stepsOf_lt hsteps
      change (steps.length : Int) < 2 ^ 31
      omega

/-- A client that has adopted the game state 10 and predicted the step 10. -/
def predictingClient : NimbleClient reorderingLibraries :=
  ((realizer reorderingLibraries).run freshRealizer
    (downloadSession 10 ++ [.update lastPartInput, .writeStep 10 [7]])).client

end Reordering

open Reordering in
/-- A truncated response that acknowledges the step before the predicted one is refused without a
trace. -/
theorem failed_feed_truncatedSteps :
    (nimbleClientFeed predictingClient (datagram (Small.truncatedSteps 4 9))).2.protocolState =
        predictingClient.protocolState ∧
      (nimbleClientFeed predictingClient (datagram (Small.truncatedSteps 4 9))).2.waitTime =
        predictingClient.waitTime := by
  refine (failed_feed LabelledSteps.steps discardsOlderSteps_steps
    stepCountsFit_reorderingLibraries failedStepsKeepPending_reorderingLibraries predictingClient
    (datagram (Small.truncatedSteps 4 9)) (by decide +kernel)).mpr fun x hx _ => ?_
  have hall : (dispatch? predictingClient (datagram (Small.truncatedSteps 4 9))).all (fun x =>
      predictingClient.outSteps.steps.all fun step =>
        acknowledgedStepId x.client x.inStream x.locals + 1 ≤ step.1) = true := by
    decide +kernel
  rw [hx] at hall
  simpa using hall

open Nimble.Small

/-- The truncated response is refused, but the predicted step it acknowledges is gone. -/
theorem failed_feed_counterexample :
    Reachable predictingRealizer ∧
      (nimbleClientFeed predictingRealizer.client (truncatedSteps 5 10)).1 < 0 ∧
      predictingRealizer.client.outSteps.steps = [[7]] ∧
      (nimbleClientFeed predictingRealizer.client (truncatedSteps 5 10)).2.outSteps.steps = [] :=
  ⟨Reachable.step reachable_joinedRealizer _, by decide +kernel⟩

end Nimble
