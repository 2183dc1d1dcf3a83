import Nimble.Library.Machine
import Nimble.Model.Realizer

/-! # Runs of the system

A run is any sequence of calls that an application makes on a realizer and on the client in
it, with whatever the transport and the clock give to each call. -/

namespace Nimble

variable {L : Libraries}

/-- One call, with the environment's part in it. -/
inductive Operation (L : Libraries)
  | realizeInit (settings : NimbleClientRealizeSettings L) (now : MonotonicTimeMs)
  | realizeReInit (settings : NimbleClientRealizeSettings L) (now : MonotonicTimeMs)
  | realizeReset (now : MonotonicTimeMs)
  | realizeJoinGame (options : L.JoinGameOptions)
  | realizeQuitGame
  | realizeUpdate (input : UpdateInput L)
  | reset (now : MonotonicTimeMs)
  | reInit (transport : L.DatagramTransport) (now : MonotonicTimeMs)
  | disconnect
  | update (input : UpdateInput L)
  | outgoing (input : OutgoingInput)
  | readStep (maxTarget : Nat)
  /-- The application adds a predicted step to `outSteps`. -/
  | writeStep (stepId : StepId) (octets : List UInt8)

/-- What a call gives back: the update of the client it made, if any, what was sent, and the
return value and the authoritative step of the calls that have one. -/
structure OperationOutcome (L : Libraries) where
  update : Option (UpdateOutcome L)
  events : List (OutgoingEvent L)
  result : Option Int
  step : Option (StepId × List UInt8)

/-- The outcome of a call that gives nothing back. -/
def OperationOutcome.silent : OperationOutcome L := ⟨none, [], none, none⟩

/-- The same realizer with another client. -/
def NimbleClientRealize.withClient (self : NimbleClientRealize L) (client : NimbleClient L) :
    NimbleClientRealize L :=
  { self with client := client }

def performOperation (self : NimbleClientRealize L) :
    Operation L → NimbleClientRealize L × OperationOutcome L
  | .realizeInit settings now => (nimbleClientRealizeInit self settings now, .silent)
  | .realizeReInit settings now => (nimbleClientRealizeReInit self settings now, .silent)
  | .realizeReset now => (nimbleClientRealizeReset self now, .silent)
  | .realizeJoinGame options => (nimbleClientRealizeJoinGame self options, .silent)
  | .realizeQuitGame => (nimbleClientRealizeQuitGame self, .silent)
  | .realizeUpdate input =>
    let outcome := nimbleClientRealizeUpdate self input
    (outcome.realize,
      ⟨outcome.update, (outcome.update.map UpdateOutcome.events).getD [], none, none⟩)
  | .reset now => (self.withClient (nimbleClientReset self.client now), .silent)
  | .reInit transport now =>
    (self.withClient (nimbleClientReInit self.client transport now), .silent)
  | .disconnect => (self.withClient (nimbleClientDisconnect self.client), .silent)
  | .update input =>
    let outcome := nimbleClientUpdate self.client input
    (self.withClient outcome.client, ⟨some outcome, outcome.events, some outcome.result, none⟩)
  | .outgoing input =>
    let outcome := nimbleClientOutgoing self.client input
    (self.withClient outcome.client, ⟨none, outcome.events, some outcome.result, none⟩)
  | .readStep maxTarget =>
    let (result, step, client) := nimbleClientReadStep self.client maxTarget
    (self.withClient client, ⟨none, [], some result, step⟩)
  | .writeStep stepId octets =>
    let (result, outSteps) := L.nbsStepsWrite self.client.outSteps stepId octets
    (self.withClient { self.client with outSteps := outSteps }, ⟨none, [], some result, none⟩)

/-- The realizer as a machine. -/
def realizer (L : Libraries) :
    Machine (NimbleClientRealize L) (Operation L) (OperationOutcome L) where
  step := performOperation

/-- The realizers a run from `nimbleClientRealizeInit` reaches, whatever memory it starts in. -/
def Reachable (self : NimbleClientRealize L) : Prop :=
  ∃ memory settings now operations,
    self = (realizer L).run (nimbleClientRealizeInit memory settings now) operations

/-- The calls that start the client over. -/
def Operation.Restarts : Operation L → Prop
  | .realizeInit _ _ => True
  | .realizeReInit _ _ => True
  | .realizeReset _ => True
  | .reset _ => True
  | .reInit _ _ => True
  | _ => False

/-- The calls that disconnect the client on purpose. -/
def Operation.Disconnects : Operation L → Prop
  | .realizeQuitGame => True
  | .disconnect => True
  | _ => False

end Nimble
