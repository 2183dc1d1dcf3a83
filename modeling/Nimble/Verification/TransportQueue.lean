import Nimble.Library.Queue
import Nimble.Verification.Update

/-! # The transport's queue

A realizer over one transport, in whose queue datagrams wait until an update takes them. An
update whose receive loop fails, or stops at a datagram without octets, leaves the rest of the
queue to the next one. -/

namespace Nimble

variable {L : Libraries}

/-! ## The realizer and its transport -/

/-- A realizer and what waits in its transport. -/
structure Station (L : Libraries) where
  realize : NimbleClientRealize L
  queue : List (Received L)

/-- Something arrives at the transport, or the application makes a call. -/
inductive StationInput (L : Libraries)
  | arrive (received : Received L)
  | call (operation : Operation L)

/-- The call with this queue in the transport it is made on. -/
def Operation.withQueue (queue : List (Received L)) : Operation L → Operation L
  | .realizeUpdate input => .realizeUpdate { input with queue := queue }
  | .update input => .update { input with queue := queue }
  | operation => operation

/-- The call that the realizer sees. -/
def Station.operation (self : Station L) (operation : Operation L) : Operation L :=
  operation.withQueue self.queue

/-- The realizer and its transport as a machine. -/
def station (L : Libraries) : Machine (Station L) (StationInput L) (Option (OperationOutcome L))
    where
  step self
    | .arrive received => ({ self with queue := self.queue ++ [received] }, none)
    | .call operation =>
      let performed := performOperation self.realize (self.operation operation)
      (⟨performed.1, (performed.2.update.map UpdateOutcome.queue).getD self.queue⟩,
        some performed.2)

/-- What arrives in a step. -/
def Station.arrivals (_ : Station L) : StationInput L → List (Received L)
  | .arrive received => [received]
  | .call _ => []

/-- The update of the client in a step, if there is one. -/
def Station.update? (self : Station L) : StationInput L → Option (UpdateInput L)
  | .arrive _ => none
  | .call operation => clientUpdate? self.realize (self.operation operation)

/-- The datagrams that a step feeds, each with the client that it is fed to. -/
def Station.fed (self : Station L) : StationInput L → List (NimbleClient L × Datagram L)
  | .arrive _ => []
  | .call operation => operationFeeds self.realize (self.operation operation)

/-! ## What a receive loop takes -/

/-- What a receive loop takes from the queue. -/
def taken (self : NimbleClient L) : List (Received L) → List (Received L)
  | [] => []
  | .error code :: _ => [.error code]
  | .datagram datagram :: queue =>
    .datagram datagram ::
      if datagram.octets = [] ∨ (nimbleClientFeed self.countPacketIn datagram).1 < 0 then []
      else taken (nimbleClientFeed self.countPacketIn datagram).2.receivedUsableDatagram queue

/-- A datagram without octets, which a receive loop takes for the end of the queue. -/
def Received.isEmpty : Received L → Bool
  | .datagram d => d.octets = []
  | .error _ => false

section

variable {datagram : Datagram L}

end

/-- What an update takes from the queue. -/
def Station.taken (self : Station L) (input : StationInput L) : List (Received L) :=
  match self.update? input with
  | some update => Nimble.taken (beginUpdate self.realize.client update.now) update.queue
  | none => []

/-- What arrives at the transport during a run. -/
def arrived (start : Station L) (inputs : List (StationInput L)) : List (Received L) :=
  (station L).gather Station.arrivals start inputs

end Nimble
