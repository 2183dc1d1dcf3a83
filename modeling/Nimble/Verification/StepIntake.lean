import Nimble.Verification.AuthoritativeSteps

/-! # What a game step response changes

A game step response leaves the three step buffers as they are when it acknowledges nothing that
`outSteps` still holds, carries no step that the pending steps miss, and finds no step that waits
for its copy. -/

namespace Nimble

variable {L : Libraries}

/-! ## The libraries as documented -/

/-- Discarding changes a buffer exactly when it contains an older step. -/
def DiscardsOlderSteps (contents : L.NbsSteps → List (StepId × List UInt8)) : Prop :=
  ∀ steps stepId, L.nbsStepsDiscardUpTo steps stepId = steps ↔
    ∀ step ∈ contents steps, stepId ≤ step.1

/-- Steps that do not decode leave the pending steps as they were. -/
def FailedStepsKeepPending (L : Libraries) : Prop :=
  ∀ inStream pending, (L.nbsPendingStepsInSerialize inStream pending).1 < 0 →
    (L.nbsPendingStepsInSerialize inStream pending).2 = pending

/-- The pending steps have a place for this step, which is still empty. -/
def StepOrder.IsMissing (order : StepOrder L) (window : Nat) (pending : L.NbsPendingSteps)
    (stepId : StepId) : Prop :=
  (stepId - expectedStepIdFromServer pending).toNat < window ∧ order.held pending stepId = none

/-- The step that is expected next is there, and the steps from the server have room for it. -/
def StepOrder.IsReady (order : StepOrder L) (pending : L.NbsPendingSteps) (steps : L.NbsSteps) :
    Prop :=
  ∃ payload, order.held pending (expectedStepIdFromServer pending) = some payload ∧
    0 ≤ (L.nbsStepsWrite steps (expectedStepIdFromServer pending) payload).1

/-- The nimble-steps library as documented, for what makes a difference to the buffers: an older
step when steps are discarded, a missing one when steps are taken in, and one that is ready when
steps are copied. -/
structure StepOrder.IntakeLaws (order : StepOrder L) (window : Nat) : Prop where
  discardUpTo : DiscardsOlderSteps order.contents
  refuse : FailedStepsKeepPending L
  inSerialize : ∀ stream pending, 0 ≤ (L.nbsPendingStepsInSerialize stream pending).1 →
    ((L.nbsPendingStepsInSerialize stream pending).2 = pending ↔
      ∀ stepId payload, order.Carries stream stepId payload →
        ¬order.IsMissing window pending stepId)
  copy_of_isReady : ∀ steps pending, order.IsReady pending steps →
    (L.nbsPendingStepsCopy steps pending).2.1 ≠ steps
  copy_of_not_isReady : ∀ steps pending, ¬order.IsReady pending steps →
    (L.nbsPendingStepsCopy steps pending).2 = (steps, pending)

/-! ## Responses that change nothing -/

/-- A dispatched game step response acknowledges nothing that is still held. -/
def Dispatch.AcknowledgesNothing (contents : L.NbsSteps → List (StepId × List UInt8))
    (x : Dispatch L) : Prop :=
  ∀ step ∈ contents x.client.outSteps,
    acknowledgedStepId x.client x.inStream x.locals + 1 ≤ step.1

/-- A dispatched game step response can be decoded to its end. -/
def Dispatch.DecodesSteps (x : Dispatch L) : Prop :=
  0 ≤ (serializeSteps x.client x.inStream x.locals).1

/-- A dispatched game step response carries no step that is missing, and none is ready. -/
def Dispatch.BringsNoStep (order : StepOrder L) (window : Nat) (x : Dispatch L) : Prop :=
  (∀ stepId payload, order.Carries (@behindAcknowledged L x.inStream) stepId payload →
    ¬order.IsMissing window x.client.authoritativePendingStepsFromServer stepId) ∧
  ¬order.IsReady x.client.authoritativePendingStepsFromServer x.client.authoritativeStepsFromServer

section

variable {order : StepOrder L} {window : Nat}

/-- A copy that leaves the steps as they are has left the pending steps as they are, too. -/
theorem StepOrder.IntakeLaws.copy_eq_iff (hlaws : order.IntakeLaws window) {steps : L.NbsSteps}
    {pending other : L.NbsPendingSteps} :
    (L.nbsPendingStepsCopy steps other).2 = (steps, pending) ↔
      other = pending ∧ ¬order.IsReady pending steps := by
  constructor
  · intro hcopy
    have hready : ¬order.IsReady other steps := fun hready =>
      hlaws.copy_of_isReady steps other hready (congrArg Prod.fst hcopy)
    have hsame : other = pending :=
      congrArg Prod.snd ((hlaws.copy_of_not_isReady steps other hready).symm.trans hcopy)
    exact ⟨hsame, hsame ▸ hready⟩
  · rintro ⟨rfl, hready⟩
    exact hlaws.copy_of_not_isReady steps other hready

/-- A game step response leaves the authoritative buffers as they are exactly when it does not
decode or brings no step. -/
theorem StepOrder.IntakeLaws.authoritativeBuffersAfter_eq_iff (hlaws : order.IntakeLaws window)
    (x : Dispatch L) :
    authoritativeBuffersAfter x.client x.inStream x.locals =
        (x.client.authoritativeStepsFromServer, x.client.authoritativePendingStepsFromServer) ↔
      (x.DecodesSteps → x.BringsNoStep order window) := by
  rw [authoritativeBuffersAfter]
  by_cases hfails : (serializeSteps x.client x.inStream x.locals).1 < 0
  · have hpending : (serializeSteps x.client x.inStream x.locals).2 =
        x.client.authoritativePendingStepsFromServer := hlaws.refuse _ _ hfails
    rw [if_pos hfails, hpending]
    exact iff_of_true rfl fun hdecodes => absurd hfails (Int.not_lt.mpr hdecodes)
  · have hdecodes : x.DecodesSteps := Int.not_lt.mp hfails
    have hserialized : (serializeSteps x.client x.inStream x.locals).2 =
          x.client.authoritativePendingStepsFromServer ↔ _ :=
      hlaws.inSerialize (@behindAcknowledged L x.inStream) _ hdecodes
    rw [if_neg hfails, hlaws.copy_eq_iff, hserialized, forall_prop_of_true hdecodes]
    rfl

/-- And all three buffers, exactly when it acknowledges nothing besides. -/
theorem StepOrder.IntakeLaws.buffers_eq_iff (hlaws : order.IntakeLaws window) (x : Dispatch L) :
    L.nbsStepsDiscardUpTo x.client.outSteps
          (acknowledgedStepId x.client x.inStream x.locals + 1) = x.client.outSteps ∧
        authoritativeBuffersAfter x.client x.inStream x.locals =
          (x.client.authoritativeStepsFromServer, x.client.authoritativePendingStepsFromServer) ↔
      x.AcknowledgesNothing order.contents ∧ (x.DecodesSteps → x.BringsNoStep order window) := by
  rw [hlaws.discardUpTo, hlaws.authoritativeBuffersAfter_eq_iff]
  rfl

end

/-! ## Step buffers that reorder -/

namespace Reordering

theorem discardsOlderSteps_steps : @DiscardsOlderSteps reorderingLibraries LabelledSteps.steps := by
  intro steps stepId
  change steps.discardUpTo stepId = steps ↔ _
  rw [LabelledSteps.discardUpTo]
  constructor
  · intro hsame
    have hfilter : steps.steps.filter (stepId ≤ ·.1) = steps.steps :=
      congrArg LabelledSteps.steps hsame
    simpa [List.filter_eq_self] using hfilter
  · intro hall
    have hfilter : steps.steps.filter (stepId ≤ ·.1) = steps.steps :=
      List.filter_eq_self.mpr fun step hstep => decide_eq_true (hall step hstep)
    rw [hfilter]

theorem failedStepsKeepPending_reorderingLibraries :
    FailedStepsKeepPending reorderingLibraries := by
  intro inStream pending hfails
  change (EarlySteps.inSerialize inStream pending).1 < 0 at hfails
  change (EarlySteps.inSerialize inStream pending).2 = pending
  rw [EarlySteps.inSerialize] at hfails ⊢
  cases hsteps : stepsOf inStream with
  | none => rfl
  | some steps =>
      rw [hsteps] at hfails
      exact absurd hfails (Int.not_lt.mpr (Int.natCast_nonneg _))

/-- What is held stays held. -/
theorem EarlySteps.isSome_held_hold {p : EarlySteps} {i : StepId} (h : (p.held i).isSome)
    (step : StepId × List UInt8) : ((p.hold step).held i).isSome := by
  rw [hold]
  split
  · change (Function.update p.held step.1 (some step.2) i).isSome
    by_cases hi : i = step.1
    · rw [hi, Function.update_self]
      rfl
    · rwa [Function.update_of_ne hi]
  · exact h

theorem EarlySteps.isSome_held_foldl {p : EarlySteps} {i : StepId} (h : (p.held i).isSome)
    (received : List (StepId × List UInt8)) : ((received.foldl hold p).held i).isSome := by
  induction received generalizing p with
  | nil => exact h
  | cons step received ih => exact ih (isSome_held_hold h step)

/-- A step that has a place is held after it has been received. -/
theorem EarlySteps.isSome_held_of_mem {p : EarlySteps} {received : List (StepId × List UInt8)}
    {step : StepId × List UInt8} (hmem : step ∈ received)
    (hplace : (step.1 - p.expectedId).toNat < window) :
    ((received.foldl hold p).held step.1).isSome := by
  induction received generalizing p with
  | nil => cases hmem
  | cons head received ih =>
      rw [List.foldl_cons]
      rcases List.mem_cons.mp hmem with rfl | hmem
      · apply isSome_held_foldl
        by_cases hnone : p.held step.1 = none
        · rw [hold, if_pos ⟨hplace, hnone⟩]
          change (Function.update p.held step.1 (some step.2) step.1).isSome
          rw [Function.update_self]
          rfl
        · exact isSome_held_hold (Option.isSome_iff_ne_none.mpr hnone) step
      · exact ih hmem (by rwa [expectedId_hold])

theorem EarlySteps.foldl_hold_eq_iff (p : EarlySteps) (received : List (StepId × List UInt8)) :
    received.foldl hold p = p ↔
      ∀ step ∈ received, ¬((step.1 - p.expectedId).toNat < window ∧ p.held step.1 = none) := by
  constructor
  · rintro hsame step hmem ⟨hplace, hnone⟩
    have hheld := isSome_held_of_mem hmem hplace
    rw [hsame, hnone] at hheld
    cases hheld
  · intro hnone
    induction received with
    | nil => rfl
    | cons step received ih =>
        rw [List.forall_mem_cons] at hnone
        rw [List.foldl_cons, hold, if_neg hnone.1]
        exact ih hnone.2

theorem EarlySteps.length_move (count : Nat) (s : LabelledSteps) (p : EarlySteps) :
    s.steps.length ≤ (move count s p).1.steps.length := by
  obtain ⟨moved, hreleases, _⟩ := releases_move count s p
  have hreleased : (move count s p).1.steps = s.steps ++ moved := hreleases.released
  rw [hreleased, List.length_append]
  exact Nat.le_add_right _ _

theorem intakeLaws_stepOrder : stepOrder.IntakeLaws EarlySteps.window where
  discardUpTo := discardsOlderSteps_steps
  refuse := failedStepsKeepPending_reorderingLibraries
  inSerialize stream pending hdecodes := by
    change 0 ≤ (EarlySteps.inSerialize stream pending).1 at hdecodes
    change (EarlySteps.inSerialize stream pending).2 = pending ↔ _
    rw [EarlySteps.inSerialize] at hdecodes ⊢
    cases hsteps : stepsOf stream with
    | none =>
        rw [hsteps] at hdecodes
        exact absurd hdecodes (Int.not_le.mpr (Int.negSucc_lt_zero 3))
    | some received =>
        dsimp only
        rw [EarlySteps.foldl_hold_eq_iff]
        constructor
        · rintro hnone stepId payload ⟨steps, hcarried, hmem⟩
          obtain rfl := Option.some.inj (hsteps.symm.trans hcarried)
          exact hnone _ hmem
        · intro hnone step hmem
          exact hnone step.1 step.2 ⟨received, hsteps, hmem⟩
  copy_of_isReady steps pending hready := by
    obtain ⟨payload, hheld, hwrites⟩ := hready
    change pending.held pending.expectedId = some payload at hheld
    change 0 ≤ (steps.write pending.expectedId payload).1 at hwrites
    change (EarlySteps.move 2 steps pending).1 ≠ steps
    rw [EarlySteps.move, hheld]
    dsimp only
    rw [if_neg (Int.not_lt.mpr hwrites)]
    intro hsame
    have hlength := EarlySteps.length_move 1 (steps.write pending.expectedId payload).2
      ⟨pending.expectedId + 1, Function.update pending.held pending.expectedId none⟩
    rw [hsame] at hlength
    rcases steps.write_cases pending.expectedId payload with ⟨hfull, _⟩ | ⟨_, _, hwrite⟩
    · omega
    · rw [hwrite] at hlength
      simp at hlength
  copy_of_not_isReady steps pending hready := by
    change EarlySteps.move 2 steps pending = (steps, pending)
    rw [EarlySteps.move]
    cases hheld : pending.held pending.expectedId with
    | none => rfl
    | some payload =>
        exact if_pos (Int.not_le.mp fun hwrites => hready ⟨payload, hheld, hwrites⟩)

end Reordering

end Nimble
