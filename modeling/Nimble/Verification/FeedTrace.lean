import Nimble.Library.Trace
import Nimble.Verification.DatagramLoss

/-! # Feed by feed

A part of the client that only feeds write goes through the feeds of a run one after another:
each finds what the one before it left. -/

namespace Nimble

variable {L : Libraries} {α : Type*} {part : NimbleClient L → α}

/-- A feed that finds this part of the client and leaves that. -/
def FeedStep (part : NimbleClient L → α) (before : α) (f : NimbleClient L × Datagram L)
    (after : α) : Prop :=
  part f.1 = before ∧ part (nimbleClientFeed f.1 f.2).2 = after

/-- A part that counting the datagrams leaves alone goes through the feeds of a receive loop. -/
theorem trace_fed (hcount : ∀ c : NimbleClient L, part c.countPacketIn = part c)
    (husable : ∀ c : NimbleClient L, part c.receivedUsableDatagram = part c)
    (self : NimbleClient L) (count : Nat) (queue : List (Received L)) :
    Trace (FeedStep part) (part self) (feeds self queue)
      (part (receiveLoop self count queue).client) := by
  induction queue generalizing self count with
  | nil => exact .nil _
  | cons received queue ih =>
      cases received with
      | error code => exact .nil _
      | datagram datagram =>
          by_cases hoctets : datagram.octets = []
          · rw [feeds_of_empty hoctets, receiveLoop_of_empty hoctets]
            exact .nil _
          rw [feeds_datagram hoctets, receiveLoop_datagram hoctets, ← hcount self]
          apply Trace.cons ⟨rfl, rfl⟩
          split
          · exact .nil _
          · rw [← husable]
            exact ih _ _

namespace WrittenByFeeds

theorem trace_performOperation (hpart : WrittenByFeeds part) (self : NimbleClientRealize L)
    {operation : Operation L} (h : ¬operation.Restarts) :
    Trace (FeedStep part) (part self.client) (operationFeeds self operation)
      (part (performOperation self operation).1.client) := by
  obtain ⟨_, hclient⟩ := client_performOperation self h
  rw [hclient, hpart.withCallFields, updatedClient, operationFeeds]
  cases clientUpdate? self operation with
  | none => exact .nil _
  | some input =>
      obtain ⟨_, _, _, _, hbegin⟩ := beginUpdate_eq self.client input.now
      obtain ⟨_, hupdate⟩ := client_nimbleClientUpdate self.client input
      have hstart : part (beginUpdate self.client input.now) = part self.client := by
        rw [hbegin, hpart.tick]
      dsimp only
      rw [hupdate, hpart.withUpdateFields, ← hstart]
      exact trace_fed hpart.countPacketIn hpart.receivedUsableDatagram _ 0 input.queue

/-- Between restarts a run leads such a part through its feeds. -/
theorem trace_run (hpart : WrittenByFeeds part) (start : NimbleClientRealize L)
    {operations : List (Operation L)} (h : ∀ operation ∈ operations, ¬operation.Restarts) :
    Trace (FeedStep part) (part start.client) (runFeeds start operations)
      (part ((realizer L).run start operations).client) := by
  induction operations generalizing start with
  | nil => exact .nil _
  | cons operation operations ih =>
      rw [List.forall_mem_cons] at h
      exact (hpart.trace_performOperation start h.1).append (ih _ h.2)

end WrittenByFeeds

end Nimble
