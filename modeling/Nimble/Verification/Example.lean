import Nimble.Model.Example
import Nimble.Verification.Spectator

/-! # The example program only watches

The loop never assigns `reportedState`, so the branch that adds a step is not reached. What is left
are the calls of a spectator. -/

namespace Nimble

variable {L : Libraries}

/-- The calls of a round that adds no step. -/
def roundCalls (input : UpdateInput L) : List (Operation L) :=
  [.realizeUpdate input, .readStep 512]

/-- A round that starts with nothing reported makes these calls, and reports nothing. -/
theorem exampleRound_of_unreported (E : ExampleLibraries L) {self : ExampleMain L}
    (h : self.reportedState ≠ .synced) (input : UpdateInput L) :
    exampleRound E self input =
      .ok ⟨(realizer L).run self.clientRealize (roundCalls input), self.frame + 1,
        self.reportedState⟩ := by
  have hadds : ¬ExampleMain.AddsStep E { self with frame := self.frame + 1 } :=
    fun hadds => h hadds.2.1
  rw [exampleRound]
  dsimp only
  rw [if_neg hadds]
  rfl

theorem foldlM_exampleRound (E : ExampleLibraries L) {self : ExampleMain L}
    (h : self.reportedState ≠ .synced) (inputs : List (UpdateInput L)) :
    inputs.foldlM (exampleRound E) self =
      .ok ⟨(realizer L).run self.clientRealize (inputs.flatMap roundCalls),
        self.frame + UInt32.ofNat inputs.length, self.reportedState⟩ := by
  induction inputs generalizing self with
  | nil => simp [pure, Except.pure]
  | cons input inputs ih =>
      rw [List.foldlM_cons, exampleRound_of_unreported E h, List.flatMap_cons, Machine.run_append]
      change List.foldlM (exampleRound E) _ inputs = _
      have hframe : self.frame + 1 + UInt32.ofNat inputs.length =
          self.frame + UInt32.ofNat (inputs.length + 1) := by
        rw [UInt32.ofNat_add, UInt32.add_assoc, UInt32.add_comm 1]
        rfl
      have hrest := @ih ⟨(realizer L).run self.clientRealize (roundCalls input), self.frame + 1,
        self.reportedState⟩ h
      rw [hrest, List.length_cons, ← hframe]

/-- The calls up to the loop behind the initialization. -/
def exampleCalls (settings : NimbleClientRealizeSettings L) (reInitNow : MonotonicTimeMs)
    (joinGameOptions : L.JoinGameOptions) (inputs : List (UpdateInput L)) : List (Operation L) :=
  .realizeReInit settings reInitNow :: .realizeJoinGame joinGameOptions :: inputs.flatMap roundCalls

theorem not_writesStep_exampleCalls (settings : NimbleClientRealizeSettings L)
    (reInitNow : MonotonicTimeMs) (joinGameOptions : L.JoinGameOptions)
    (inputs : List (UpdateInput L)) :
    ∀ operation ∈ exampleCalls settings reInitNow joinGameOptions inputs,
      ¬operation.WritesStep := by
  intro operation hmem hwrites
  simp only [exampleCalls, roundCalls, List.mem_cons, List.mem_flatMap, List.not_mem_nil,
    or_false] at hmem
  rcases hmem with rfl | rfl | ⟨_, _, rfl | rfl⟩ <;> exact hwrites

/-- Whatever arrives, the program never leaves its loop and adds no step. It runs its realizer like
an application that updates and reads alone, so its client sends no steps datagram, and falls
silent once its join request is answered. -/
theorem example_only_watches (hlaws : EmptiesSteps L) (hcounts : CountsSteps L)
    (hsizes : HeaderSizes L) (E : ExampleLibraries L) (memory : NimbleClientRealize L)
    (settings : NimbleClientRealizeSettings L) (initNow reInitNow : MonotonicTimeMs)
    (joinGameOptions : L.JoinGameOptions) (inputs : List (UpdateInput L)) :
    let start := nimbleClientRealizeInit memory settings initNow
    let operations := exampleCalls settings reInitNow joinGameOptions inputs
    (∃ frame, inputs.foldlM (exampleRound E)
        (exampleStart memory settings initNow reInitNow joinGameOptions) =
      .ok ⟨(realizer L).run start operations, frame, .init⟩) ∧
      ∀ v ∈ (realizer L).visits start operations, ∀ call ∈ outgoingCall? v.1 v.2,
        KeepsQuiet call := by
  intro start operations
  constructor
  · have hunreported : (exampleStart memory settings initNow reInitNow
        joinGameOptions).reportedState ≠ .synced := by
      change NimbleClientRealizeState.init ≠ .synced
      decide
    exact ⟨_, foldlM_exampleRound E hunreported inputs⟩
  · exact keepsQuiet_of_mem_visits hlaws hcounts hsizes (predictsNothing_nimbleClientReset hlaws _ _)
      (not_writesStep_exampleCalls settings reInitNow joinGameOptions inputs)

/-! ## A run on fixed inputs -/

open Nimble.Small

/-- A step is the participant's id and its payload. -/
def smallExample : ExampleLibraries smallLibraries where
  nbsStepsAllowedToAdd steps := decide (steps.steps.length < 30)
  nbsStepsOutSerializeCombinedStep participantId payload maxTarget :=
    if payload.length < maxTarget then (payload.length + 1, participantId :: payload) else (-1, [])

/-- What the server sends until the participant has joined. -/
def exampleInputs : List (UpdateInput smallLibraries) :=
  [updateWith [], updateWith [connectResponse 1], updateWith [],
    updateWith [gameStateResponse 2 10 5], updateWith [blobPart 3 5 0 0xaa],
    updateWith [joinResponse 4 3]]

/-- The realizer is synced behind them, and the program goes on without a step. -/
theorem example_only_watches_joined :
    let operations := exampleCalls settings 0 (0xca : UInt8) exampleInputs
    let last := (realizer smallLibraries).run
      (nimbleClientRealizeInit (realizeMemory ⟨1, []⟩) settings 0) operations
    (∃ frame, exampleInputs.foldlM (exampleRound smallExample)
        (exampleStart (realizeMemory ⟨1, []⟩) settings 0 0 (0xca : UInt8)) =
      .ok ⟨last, frame, .init⟩) ∧ last.state = .synced ∧ last.client.outSteps.steps = [] :=
  ⟨(example_only_watches emptiesSteps_smallLibraries countsSteps_smallLibraries
    headerSizes_smallLibraries smallExample (realizeMemory ⟨1, []⟩) settings 0 0 (0xca : UInt8)
    exampleInputs).1, by decide +kernel⟩

end Nimble
