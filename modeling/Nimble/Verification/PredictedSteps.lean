import Mathlib.Data.List.Infix
import Nimble.Library.SendWindow
import Nimble.Verification.StepBuffers

/-! # Predicted steps

`outSteps` as a send window: it is to hold the steps that the application has written and the
server has not acknowledged. -/

namespace Nimble

open SendWindow

variable {L : Libraries}

/-- The nimble-steps library as documented, for the steps that a buffer contains. -/
structure WindowLaws (contents : L.NbsSteps → List (StepId × List UInt8)) : Prop where
  reInit : ∀ steps stepId, contents (L.nbsStepsReInit steps stepId) = []
  discardUpTo : ∀ steps stepId,
    contents (L.nbsStepsDiscardUpTo steps stepId) = (contents steps).filter (stepId ≤ ·.1)
  write : ∀ steps stepId octets, contents (L.nbsStepsWrite steps stepId octets).2 =
    contents steps ++
      if 0 ≤ (L.nbsStepsWrite steps stepId octets).1 then [(stepId, octets)] else []

/-! ## The log of a window -/

/-- The id that a game step response acknowledges, if all of it can be parsed. -/
def Dispatch.acknowledged? (x : Dispatch L) : Option StepId :=
  if x.command = some .gameStepResponse ∧ 0 ≤ (serializeSteps x.client x.inStream x.locals).1 then
    (L.fldInStreamReadUInt32 (@behindDelta L x.inStream)).value
  else none

/-- What an event is to the window: a step is written to it, or acknowledged. -/
def BufferEvent.logged? : BufferEvent L → Option (Entry StepId (List UInt8))
  | .feed client datagram =>
    ((dispatch? client datagram).bind Dispatch.acknowledged?).map .acknowledge
  | .write client stepId octets =>
    if 0 ≤ (L.nbsStepsWrite client.outSteps stepId octets).1 then some (.write stepId octets)
    else none
  | _ => none

def windowLog (events : List (BufferEvent L)) : List (Entry StepId (List UInt8)) :=
  events.filterMap BufferEvent.logged?

theorem windowLog_append (events : List (BufferEvent L)) (event : BufferEvent L) :
    windowLog (events ++ [event]) = windowLog events ++ event.logged?.toList := by
  cases h : event.logged? <;> simp [windowLog, h]

/-! ## When a window stays right -/

variable {contents : L.NbsSteps → List (StepId × List UInt8)}

/-- A dispatched datagram leaves the right steps in `outSteps`. An accepted game state response
finds none there. A game step response that is parsed to its end acknowledges an id whose
successor is greater, or finds none there. One that is not finds none up to the id that it has
given, or that the local variable held. -/
def Dispatch.KeepsUnacknowledged (contents : L.NbsSteps → List (StepId × List UInt8))
    (x : Dispatch L) : Prop :=
  (x.StartsDownload → contents x.client.outSteps = []) ∧
    (x.command = some .gameStepResponse → match x.acknowledged? with
      | some ack => ack ≠ nimbleStepMax ∨ contents x.client.outSteps = []
      | none => ∀ step ∈ contents x.client.outSteps,
        acknowledgedStepId x.client x.inStream x.locals + 1 ≤ step.1)

/-- An event leaves the right steps in `outSteps`. A step is written under an id that has not
been acknowledged yet. -/
def BufferEvent.KeepsWindow (contents : L.NbsSteps → List (StepId × List UInt8))
    (past : List (BufferEvent L)) : BufferEvent L → Prop
  | .feed client datagram =>
    ∀ x, dispatch? client datagram = some x → x.KeepsUnacknowledged contents
  | .write client stepId octets => 0 ≤ (L.nbsStepsWrite client.outSteps stepId octets).1 →
    ∀ ack ∈ acknowledged (windowLog past), ack < stepId
  | _ => True

/-! ## One event -/

theorem add_one_le_iff_of_ne_max {ack : StepId} (h : ack ≠ nimbleStepMax) (stepId : StepId) :
    ack + 1 ≤ stepId ↔ ack < stepId := by
  have hne : ack.toNat ≠ 2 ^ 32 - 1 := fun heq => h (UInt32.toNat_inj.mp heq)
  have hlt := ack.toNat_lt
  rw [UInt32.le_iff_toNat_le, UInt32.lt_iff_toNat_lt, UInt32.toNat_add]
  change (ack.toNat + 1) % 2 ^ 32 ≤ _ ↔ _
  omega

/-- The steps that `nbsStepsDiscardUpTo` is told to keep are the unacknowledged ones, unless the
id plus one has wrapped around. -/
theorem filter_add_one_le_eq_iff (ack : StepId) (steps : List (StepId × List UInt8)) :
    steps.filter (ack + 1 ≤ ·.1) = steps.filter (ack < ·.1) ↔ ack ≠ nimbleStepMax ∨ steps = [] := by
  by_cases hmax : ack = nimbleStepMax
  · have hall : steps.filter (ack + 1 ≤ ·.1) = steps :=
      List.filter_eq_self.mpr fun step _ => by simp [hmax, nimbleStepMax]
    have hnone : steps.filter (ack < ·.1) = [] :=
      List.filter_eq_nil_iff.mpr fun step _ => by
        have := step.1.toNat_lt
        simp [hmax, nimbleStepMax, UInt32.le_iff_toNat_le]
        omega
    rw [hall, hnone]
    simp [hmax]
  · have hsame : steps.filter (ack + 1 ≤ ·.1) = steps.filter (ack < ·.1) :=
      List.filter_congr fun step _ => decide_eq_decide.mpr (add_one_le_iff_of_ne_max hmax step.1)
    exact iff_of_true hsame (Or.inl hmax)

theorem Dispatch.acknowledgedStepId_eq {x : Dispatch L} {ack : StepId}
    (h : x.acknowledged? = some ack) : acknowledgedStepId x.client x.inStream x.locals = ack := by
  have hread : (L.fldInStreamReadUInt32 (@behindDelta L x.inStream)).value = some ack := by
    rw [acknowledged?] at h
    split at h
    · exact h
    · cases h
  change ((L.fldInStreamReadUInt32 (@behindDelta L x.inStream)).value.getD _) = ack
  rw [hread, Option.getD_some]

theorem Dispatch.outSteps_outcome {x : Dispatch L} (h : ¬x.AdoptsBlob) :
    x.outcome.2.outSteps =
      if x.StartsDownload then
        L.nbsStepsReInit x.client.outSteps (gameStateFields x.inStream x.locals).stateId
      else if x.command = some .gameStepResponse then
        L.nbsStepsDiscardUpTo x.client.outSteps
          (acknowledgedStepId x.client x.inStream x.locals + 1)
      else x.client.outSteps := by
  refine (congrArg StepBuffers.outSteps (x.stepBuffers_outcome h)).trans ?_
  split
  · rfl
  split <;> rfl

section

variable {x : Dispatch L} {log : List (Entry StepId (List UInt8))}

theorem Dispatch.window_startsDownload (hlaws : WindowLaws contents)
    (h : contents x.client.outSteps = outstanding log) (hadopts : ¬x.AdoptsBlob)
    (hstarts : x.StartsDownload) :
    contents x.outcome.2.outSteps =
        outstanding (log ++ (x.acknowledged?.map .acknowledge).toList) ↔
      x.KeepsUnacknowledged contents := by
  have hcommand : x.command ≠ some .gameStepResponse := by simp [hstarts.1]
  have hack : x.acknowledged? = none := if_neg fun hx => hcommand hx.1
  rw [x.outSteps_outcome hadopts, if_pos hstarts, hlaws.reInit, hack, Option.map_none,
    Option.toList_none, List.append_nil, ← h]
  constructor
  · intro hnone
    exact ⟨fun _ => hnone.symm, fun hx => absurd hx hcommand⟩
  · intro hkeeps
    exact (hkeeps.1 hstarts).symm

theorem Dispatch.window_gameStepResponse (hlaws : WindowLaws contents)
    (h : contents x.client.outSteps = outstanding log) (hadopts : ¬x.AdoptsBlob)
    (hcommand : x.command = some .gameStepResponse) :
    contents x.outcome.2.outSteps =
        outstanding (log ++ (x.acknowledged?.map .acknowledge).toList) ↔
      x.KeepsUnacknowledged contents := by
  have hstarts : ¬x.StartsDownload := fun hx => by
    have := hx.1
    simp [hcommand] at this
  rw [x.outSteps_outcome hadopts, if_neg hstarts, if_pos hcommand, hlaws.discardUpTo]
  rw [KeepsUnacknowledged]
  cases hack : x.acknowledged? with
  | none =>
      simp only [Option.map_none, Option.toList_none, List.append_nil, ← h, List.filter_eq_self,
        decide_eq_true_eq, hstarts, false_implies, hcommand, true_and, forall_const]
  | some ack =>
      have hrest : outstanding (log ++ [.acknowledge ack]) =
          (contents x.client.outSteps).filter (ack < ·.1) := by
        rw [outstanding_append_acknowledge, h]
      rw [x.acknowledgedStepId_eq hack]
      simp only [Option.map_some, Option.toList_some, hrest, filter_add_one_le_eq_iff, hstarts,
        false_implies, hcommand, true_and, forall_const]

theorem Dispatch.window_iff (hlaws : WindowLaws contents)
    (h : contents x.client.outSteps = outstanding log) (hadopts : ¬x.AdoptsBlob) :
    contents x.outcome.2.outSteps =
        outstanding (log ++ (x.acknowledged?.map .acknowledge).toList) ↔
      x.KeepsUnacknowledged contents := by
  by_cases hstarts : x.StartsDownload
  · exact x.window_startsDownload hlaws h hadopts hstarts
  by_cases hcommand : x.command = some .gameStepResponse
  · exact x.window_gameStepResponse hlaws h hadopts hcommand
  have hack : x.acknowledged? = none := if_neg fun hx => hcommand hx.1
  rw [x.outSteps_outcome hadopts, if_neg hstarts, if_neg hcommand, hack]
  simp [KeepsUnacknowledged, hstarts, hcommand, h]

theorem BufferEvent.window_feed (hlaws : WindowLaws contents) {client : NimbleClient L}
    {datagram : Datagram L} (h : contents client.outSteps = outstanding log)
    (hlasts : ¬(BufferEvent.feed client datagram).Ends) (past : List (BufferEvent L)) :
    contents (nimbleClientFeed client datagram).2.outSteps =
        outstanding (log ++ (BufferEvent.feed client datagram).logged?.toList) ↔
      (BufferEvent.feed client datagram).KeepsWindow contents past := by
  cases hx : dispatch? client datagram with
  | none =>
      have hsame : (nimbleClientFeed client datagram).2.outSteps = client.outSteps :=
        congrArg ProtocolState.outSteps (protocolState_feed_of_dispatch_eq_none hx)
      rw [hsame]
      simp [logged?, KeepsWindow, hx, h]
  | some x =>
      have hclient : x.client.outSteps = client.outSteps :=
        congrArg ProtocolState.outSteps (protocolState_of_dispatch hx)
      have hwindow := x.window_iff hlaws (hclient ▸ h) fun hadopts => hlasts ⟨x, hx, hadopts⟩
      rw [nimbleClientFeed_of_dispatch hx]
      simpa [logged?, KeepsWindow, hx] using hwindow

theorem BufferEvent.window_write (hlaws : WindowLaws contents) {client : NimbleClient L}
    {past : List (BufferEvent L)} (h : contents client.outSteps = outstanding (windowLog past))
    (stepId : StepId) (octets : List UInt8) :
    contents (L.nbsStepsWrite client.outSteps stepId octets).2 =
        outstanding (windowLog past ++ (write client stepId octets).logged?.toList) ↔
      (write client stepId octets).KeepsWindow contents past := by
  rw [hlaws.write, h, logged?]
  by_cases hwrites : 0 ≤ (L.nbsStepsWrite client.outSteps stepId octets).1
  · rw [if_pos hwrites, if_pos hwrites, Option.toList_some, outstanding_append_write,
      List.append_cancel_left_eq]
    by_cases hnew : ∀ ack ∈ acknowledged (windowLog past), ack < stepId
    · rw [if_pos hnew]
      exact iff_of_true rfl fun _ => hnew
    · rw [if_neg hnew]
      exact iff_of_false (by simp) fun hkeeps => hnew (hkeeps hwrites)
  · rw [if_neg hwrites, if_neg hwrites, Option.toList_none, List.append_nil, List.append_nil]
    exact iff_of_true rfl fun hx => absurd hx hwrites

/-- One event keeps the window right exactly when it meets its condition. -/
theorem BufferEvent.window_step (hlaws : WindowLaws contents) {past : List (BufferEvent L)}
    {buffers after : StepBuffers L} {event : BufferEvent L}
    (h : contents buffers.outSteps = outstanding (windowLog past))
    (hstep : BufferStep buffers event after) (hlasts : ¬event.Ends) :
    contents after.outSteps = outstanding (windowLog (past ++ [event])) ↔
      event.KeepsWindow contents past := by
  obtain ⟨hfinds, rfl⟩ := hstep
  rw [windowLog_append]
  cases event with
  | restart client => exact absurd trivial hlasts
  | feed client datagram =>
      obtain rfl : client.stepBuffers = buffers := hfinds
      exact window_feed hlaws h hlasts past
  | read client maxTarget =>
      obtain rfl : client.stepBuffers = buffers := hfinds
      exact iff_of_true (h.trans (by simp [logged?])) trivial
  | write client stepId octets =>
      obtain rfl : client.stepBuffers = buffers := hfinds
      exact window_write hlaws h stepId octets

end

/-! ## The result -/

/-- From the adoption of a game state to the next one or a restart, `outSteps` always holds the
steps written and not acknowledged, exactly when every event meets its condition. -/
theorem predicted_steps_kept (contents : L.NbsSteps → List (StepId × List UInt8))
    (hlaws : WindowLaws contents) {start : NimbleClientRealize L} {operations : List (Operation L)}
    {client : NimbleClient L} {datagram : Datagram L} {segment : List (BufferEvent L)}
    (h : SinceAdoption start operations client datagram segment) :
    (∀ past, past <+: segment →
        contents (buffersAfter client datagram past).outSteps = outstanding (windowLog past)) ↔
      ∀ past event, past ++ [event] <+: segment → event.KeepsWindow contents past := by
  have hstart : contents (buffersAfter client datagram []).outSteps =
      outstanding (windowLog ([] : List (BufferEvent L))) := by
    rw [h.buffersAfter_nil]
    exact hlaws.reInit _ _
  have hlasting := h.trace.restrict h.lasts
  have hinvariant : (∀ past buffers,
      Trace.Passes (fun s e t => BufferStep s e t ∧ ¬e.Ends) (buffersAfter client datagram [])
        segment past buffers →
          contents buffers.outSteps = outstanding (windowLog past)) ↔
      ∀ past event, past ++ [event] <+: segment → event.KeepsWindow contents past :=
    hlasting.invariant_iff (fun _ _ _ _ hwindow hstep =>
      BufferEvent.window_step hlaws hwindow hstep.1 hstep.2) hstart
  rw [← hinvariant]
  constructor
  · rintro hall past buffers ⟨hbegins, hpast⟩
    rw [eq_buffersAfter (hpast.mono fun _ _ _ hstep => hstep.1)]
    exact hall past hbegins
  · rintro hall past ⟨rest, rfl⟩
    obtain ⟨buffers, hpast, _⟩ := hlasting.split
    rw [← eq_buffersAfter (hpast.mono fun _ _ _ hstep => hstep.1)]
    exact hall past buffers ⟨⟨rest, rfl⟩, hpast⟩

/-! ## Runs on fixed inputs -/

namespace Reordering

theorem windowLaws_steps : @WindowLaws reorderingLibraries LabelledSteps.steps where
  reInit _ _ := rfl
  discardUpTo _ _ := rfl
  write steps stepId octets := by
    change (steps.write stepId octets).2.steps =
      steps.steps ++ if 0 ≤ (steps.write stepId octets).1 then [(stepId, octets)] else []
    rw [LabelledSteps.write]
    split
    · rw [if_pos (Int.natCast_nonneg _)]
    · rw [if_neg (by simp), List.append_nil]

/-- The steps in `outSteps` after some calls behind the adoption. -/
def outStepsAfter (calls : List (Operation reorderingLibraries)) : List (StepId × List UInt8) :=
  (buffersAfter adoptingClient lastPart (segment calls)).outSteps.steps

/-- Two steps are written, the first is acknowledged twice, and a third is written. -/
def acknowledgedCalls : List (Operation reorderingLibraries) :=
  [.writeStep 10 [7], .writeStep 11 [8], .writeStep 12 [9], update [Small.stepResponse 4 10 10 [1]],
    .readStep 4, .writeStep 12 [9], update [Small.stepResponse 5 10 10 [1]]]

/-- A game step response acknowledges the step and ends before its own steps. -/
def truncatedCalls : List (Operation reorderingLibraries) :=
  [.writeStep 10 [7], update [Small.packet 4 .gameStepResponse [0, 0, 0, 0, 0, 10]]]

/-- A game step response acknowledges the largest step id. -/
def largestIdCalls : List (Operation reorderingLibraries) :=
  [.writeStep 10 [7],
    update [Small.packet 4 .gameStepResponse [0, 0, 0xff, 0xff, 0xff, 0xff, 0, 0, 0, 10, 0]]]

/-- The server answers the download request a second time, on another channel. -/
def answeredAgainCalls : List (Operation reorderingLibraries) :=
  [.writeStep 10 [7], update [Small.gameStateResponse 4 10 6]]

end Reordering

open Reordering

theorem predicted_steps_kept_acknowledgedCalls :
    outStepsAfter acknowledgedCalls = [(11, [8]), (12, [9])] ∧
      ∀ past event, past ++ [event] <+: segment acknowledgedCalls →
        event.KeepsWindow LabelledSteps.steps past := by
  have hwindow : ∀ past ∈ (segment acknowledgedCalls).inits,
      (buffersAfter adoptingClient lastPart past).outSteps.steps = outstanding (windowLog past) := by
    decide +kernel
  refine ⟨by decide +kernel, ?_⟩
  exact (predicted_steps_kept LabelledSteps.steps windowLaws_steps
    (sinceAdoption_segment acknowledgedCalls (by decide +kernel))).mp
    fun past hbegins => hwindow past ((List.mem_inits past _).mpr hbegins)

/-- The step is lost with the truncated response and with the second answer, and it stays when
the largest id is acknowledged. -/
theorem predicted_steps_counterexample :
    (∀ calls ∈ [truncatedCalls, largestIdCalls, answeredAgainCalls],
      SinceAdoption freshRealizer (downloadSession 10 ++ .update lastPartInput :: calls)
        adoptingClient lastPart (segment calls)) ∧
    (outStepsAfter truncatedCalls = [] ∧
      outstanding (windowLog (segment truncatedCalls)) = [(10, [7])]) ∧
    (outStepsAfter largestIdCalls = [(10, [7])] ∧
      outstanding (windowLog (segment largestIdCalls)) = []) ∧
    (outStepsAfter answeredAgainCalls = [] ∧
      outstanding (windowLog (segment answeredAgainCalls)) = [(10, [7])]) := by
  have hlasts : ∀ calls ∈ [truncatedCalls, largestIdCalls, answeredAgainCalls],
      ∀ event ∈ segment calls, ¬event.Ends := by
    decide +kernel
  exact ⟨fun calls hcalls => sinceAdoption_segment calls (hlasts calls hcalls), by decide +kernel⟩

end Nimble
