import Mathlib.Logic.Function.Basic
import Nimble.Model.SmallLibraries

/-! # Step buffers that reorder

The small implementation with other step buffers: steps are kept under their ids, the ones that
arrive early are held until it is their turn, and there is room for two steps in a buffer. -/

namespace Nimble

namespace Reordering

open Nimble.Small

/-! ## Steps -/

/-- Steps under their ids, the oldest first, and the id of the next one. -/
structure LabelledSteps where
  expectedWriteId : StepId
  steps : List (StepId × List UInt8)
  deriving DecidableEq

def LabelledSteps.capacity : Nat := 2

def LabelledSteps.discardUpTo (s : LabelledSteps) (id : StepId) : LabelledSteps :=
  { s with steps := s.steps.filter fun step => id ≤ step.1 }

def LabelledSteps.write (s : LabelledSteps) (id : StepId) (octets : List UInt8) :
    Int × LabelledSteps :=
  if id = s.expectedWriteId ∧ s.steps.length < capacity then
    (octets.length, ⟨id + 1, s.steps ++ [(id, octets)]⟩)
  else (-2, s)

def LabelledSteps.read (s : LabelledSteps) (maxTarget : Nat) :
    Int × Option (StepId × List UInt8) × LabelledSteps :=
  match s.steps with
  | [] => (0, none, s)
  | step :: rest =>
    if step.2.length ≤ maxTarget then (step.2.length, some step, { s with steps := rest })
    else (-3, none, s)

def LabelledSteps.octets (s : LabelledSteps) : List UInt8 :=
  octetsOfUInt32 ((s.steps.head?.map Prod.fst).getD s.expectedWriteId) ++
    UInt8.ofNat s.steps.length :: s.steps.flatMap Prod.snd

/-! ## Pending steps -/

/-- The steps of a stream: the id of the first, how many there are, and an octet for each. -/
def stepsOf (s : FldInStream) : Option (List (StepId × List UInt8)) :=
  let first := readUInt32 s
  match first.value, first.stream.octets.drop first.stream.pos with
  | some id, count :: rest =>
    if count.toNat ≤ rest.length then
      some ((rest.take count.toNat).mapIdx fun i octet => (id + UInt32.ofNat i, [octet]))
    else none
  | _, _ => none

/-- The steps that have arrived early, and the next id expected from the server. -/
structure EarlySteps where
  expectedId : StepId
  held : StepId → Option (List UInt8)

/-- How many ids from the expected one on there is a place for. -/
def EarlySteps.window : Nat := 64

def EarlySteps.hold (p : EarlySteps) (step : StepId × List UInt8) : EarlySteps :=
  if (step.1 - p.expectedId).toNat < window ∧ p.held step.1 = none then
    { p with held := Function.update p.held step.1 (some step.2) }
  else p

def EarlySteps.inSerialize (s : FldInStream) (p : EarlySteps) : Int × EarlySteps :=
  match stepsOf s with
  | some steps => (steps.length, steps.foldl hold p)
  | none => (-4, p)

/-- Moves up to `count` steps, as long as the next one is held and can be written. -/
def EarlySteps.move : Nat → LabelledSteps → EarlySteps → LabelledSteps × EarlySteps
  | 0, s, p => (s, p)
  | count + 1, s, p =>
    match p.held p.expectedId with
    | none => (s, p)
    | some octets =>
      if (s.write p.expectedId octets).1 < 0 then (s, p)
      else move count (s.write p.expectedId octets).2
        ⟨p.expectedId + 1, Function.update p.held p.expectedId none⟩

/-- A bit for each place, set when the step is held. -/
def EarlySteps.receiveMask (p : EarlySteps) : UInt64 :=
  UInt64.ofBitVec ((BitVec.ofBoolListLE ((List.range window).map fun i =>
    (p.held (p.expectedId + UInt32.ofNat i)).isSome)).setWidth 64)

/-- Fails when a step that is ready stays behind. -/
def EarlySteps.copy (s : LabelledSteps) (p : EarlySteps) : Int × LabelledSteps × EarlySteps :=
  let moved := move LabelledSteps.capacity s p
  (if (moved.2.held moved.2.expectedId).isSome then -6 else 0, moved)

end Reordering

open Reordering in
/-- The small implementation with these buffers. -/
abbrev reorderingLibraries : Libraries :=
  { smallLibraries with
    NbsSteps := LabelledSteps
    NbsPendingSteps := EarlySteps
    nbsStepsInit := fun _ _ => ⟨0, []⟩
    nbsStepsReset := fun _ => ⟨0, []⟩
    nbsStepsReInit := fun _ id => ⟨id, []⟩
    nbsStepsDiscardUpTo := LabelledSteps.discardUpTo
    nbsStepsWrite := LabelledSteps.write
    nbsStepsRead := LabelledSteps.read
    nbsStepsOutSerialize := fun s _ => ⟨s.steps.length, s.octets⟩
    stepsCount := fun s => s.steps.length
    expectedWriteId := LabelledSteps.expectedWriteId
    nbsPendingStepsInit := fun id => ⟨id, fun _ => none⟩
    nbsPendingStepsReset := fun _ id => ⟨id, fun _ => none⟩
    nbsPendingStepsInSerialize := EarlySteps.inSerialize
    nbsPendingStepsCopy := EarlySteps.copy
    nbsPendingStepsReceiveMask := fun p => (p.receiveMask, p.expectedId) }

namespace Reordering

/-! ## Memory, settings and datagrams -/

def noSteps : LabelledSteps := ⟨0, []⟩

def clientMemory : NimbleClient reorderingLibraries :=
  { Small.clientMemory ⟨1, []⟩ with
    outSteps := noSteps
    authoritativePendingStepsFromServer := ⟨0, fun _ => none⟩
    authoritativeStepsFromServer := noSteps
    quality := { Small.zeroQuality with } }

def settings : NimbleClientRealizeSettings reorderingLibraries :=
  { Small.settings with }

def realizeMemory : NimbleClientRealize reorderingLibraries where
  targetState := .init
  state := .init
  client := clientMemory
  settings := settings
  joinGameRequestNonce := 0

/-- A realizer right after `nimbleClientRealizeInit`. -/
def freshRealizer : NimbleClientRealize reorderingLibraries :=
  nimbleClientRealizeInit realizeMemory settings 0

/-- The same octets for these libraries. -/
def datagram (d : Datagram smallLibraries) : Datagram reorderingLibraries :=
  ⟨d.octets, { Small.zeroLocals with }, d.now⟩

/-- An update of the realizer that finds these datagrams in the transport's queue. -/
def update (datagrams : List (Datagram smallLibraries)) : Operation reorderingLibraries :=
  .realizeUpdate ⟨0, datagrams.map fun d => .datagram (datagram d), ⟨0, 0, 0, 0⟩⟩

/-- The calls that take a fresh realizer to its download of the game state `stateId`. -/
def downloadSession (stateId : UInt8) : List (Operation reorderingLibraries) :=
  [.realizeJoinGame (0 : UInt8), update [], update [Small.connectResponse 1], update [],
    update [Small.gameStateResponse 2 stateId 5]]

/-- A realizer whose client waits for the one chunk of its game state, the state 10. -/
def downloadingRealizer : NimbleClientRealize reorderingLibraries :=
  (realizer reorderingLibraries).run freshRealizer (downloadSession 10)

def lastPart : Datagram reorderingLibraries := datagram (Small.blobPart 3 5 0 0xaa)

/-- The update that takes in the chunk. -/
def lastPartInput : UpdateInput reorderingLibraries := ⟨0, [.datagram lastPart], ⟨0, 0, 0, 0⟩⟩

/-- The client that is fed the chunk. -/
def adoptingClient : NimbleClient reorderingLibraries :=
  (beginUpdate downloadingRealizer.client 0).countPacketIn

end Reordering

end Nimble
