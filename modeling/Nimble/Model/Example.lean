import Nimble.Model.System

/-! # The example program (`examples/main.c`)

It joins a game with one participant, and then updates its client and reads a step every 16 ms. In
every second round it adds a step if the realizer has been reported to be synced. -/

namespace Nimble

variable {L : Libraries}

/-- What the program uses of `nimble-steps` and `nimble-steps-serialize` itself. -/
structure ExampleLibraries (L : Libraries) where
  nbsStepsAllowedToAdd : L.NbsSteps → Bool
  /-- The participant, its payload and the room there is give the octet count or an error, and the
  octets. -/
  nbsStepsOutSerializeCombinedStep : UInt8 → List UInt8 → Nat → Int × List UInt8

/-- The variables that outlive a round. -/
structure ExampleMain (L : Libraries) where
  clientRealize : NimbleClientRealize L
  frame : UInt32
  reportedState : NimbleClientRealizeState

/-- What comes before the loop. -/
def exampleStart (memory : NimbleClientRealize L) (settings : NimbleClientRealizeSettings L)
    (initNow reInitNow : MonotonicTimeMs) (joinGameOptions : L.JoinGameOptions) : ExampleMain L :=
  let clientRealize := nimbleClientRealizeInit memory settings initNow
  let clientRealize := nimbleClientRealizeReInit clientRealize settings reInitNow
  let clientRealize := nimbleClientRealizeJoinGame clientRealize joinGameOptions
  ⟨clientRealize, 0, .init⟩

/-- `"OneStep %016X"` with the terminating zero. -/
def stepString (expectedWriteId : StepId) : List UInt8 :=
  let digits := (Nat.toDigits 16 expectedWriteId.toNat).map Char.toUpper
  let text := "OneStep ".toList ++ List.replicate (16 - digits.length) '0' ++ digits
  text.map (fun c => UInt8.ofNat c.toNat) ++ [0]

/-- The condition of the branch that adds a step. -/
def ExampleMain.AddsStep (E : ExampleLibraries L) (self : ExampleMain L) : Prop :=
  self.frame % 2 = 0 ∧ self.reportedState = .synced ∧
    E.nbsStepsAllowedToAdd self.clientRealize.client.outSteps = true

instance (E : ExampleLibraries L) (self : ExampleMain L) : Decidable (self.AddsStep E) :=
  inferInstanceAs (Decidable (_ ∧ _ ∧ _))

/-- The branch that adds a step. An illegal participant id is only logged. -/
def ExampleMain.addStep (E : ExampleLibraries L) (self : ExampleMain L) :
    Except Int (ExampleMain L) :=
  let client := self.clientRealize.client
  let participantId := client.localParticipantLookup[0].participantId
  let expectedWriteId := L.expectedWriteId client.outSteps
  let (octetLength, stepBuf) :=
    E.nbsStepsOutSerializeCombinedStep participantId (stepString expectedWriteId) 64
  if octetLength < 0 then .error octetLength
  else
    let (errorCode, outSteps) := L.nbsStepsWrite client.outSteps expectedWriteId stepBuf
    if errorCode < 0 then .error errorCode
    else
      .ok { self with
        clientRealize := self.clientRealize.withClient { client with outSteps := outSteps } }

/-- One round of the loop; an error is what `main` returns. The step that is read is only
logged. -/
def exampleRound (E : ExampleLibraries L) (self : ExampleMain L) (input : UpdateInput L) :
    Except Int (ExampleMain L) := do
  let self := { self with frame := self.frame + 1 }
  let self ← if self.AddsStep E then self.addStep E else .ok self
  let clientRealize := (nimbleClientRealizeUpdate self.clientRealize input).realize
  let (_, _, client) := nimbleClientReadStep clientRealize.client 512
  return { self with clientRealize := clientRealize.withClient client }

end Nimble
