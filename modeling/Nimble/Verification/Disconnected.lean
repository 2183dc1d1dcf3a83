import Nimble.Model.SmallLibraries
import Nimble.Verification.Update

/-! # A disconnected client

No datagram, update or realizer call but a restart takes a client out of Disconnected. -/

namespace Nimble

variable {L : Libraries}

/-! ## What stays as it is -/

/-- The step buffers, the game state, the participants and the ordered ids. -/
structure SettledFields (L : Libraries) where
  outSteps : L.NbsSteps
  authoritativePendingStepsFromServer : L.NbsPendingSteps
  authoritativeStepsFromServer : L.NbsSteps
  joinedGameState : NimbleClientGameState
  joinStateChannel : NimbleSerializeBlobStreamChannelId
  localParticipantLookup : Vector NimbleClientParticipantEntry nimbleClientMaxLocalUsersCount
  localParticipantCount : Nat
  orderedDatagramOut : L.OrderedDatagramOutLogic
  orderedDatagramIn : L.OrderedDatagramInLogic

def NimbleClient.settledFields (self : NimbleClient L) : SettledFields L where
  outSteps := self.outSteps
  authoritativePendingStepsFromServer := self.authoritativePendingStepsFromServer
  authoritativeStepsFromServer := self.authoritativeStepsFromServer
  joinedGameState := self.joinedGameState
  joinStateChannel := self.joinStateChannel
  localParticipantLookup := self.localParticipantLookup
  localParticipantCount := self.localParticipantCount
  orderedDatagramOut := self.orderedDatagramOut
  orderedDatagramIn := self.orderedDatagramIn

/-- The client is disconnected, and these fields of it hold `fields`. -/
structure SettledAt (fields : SettledFields L) (client : NimbleClient L) : Prop where
  state : client.state = .disconnected
  fields : client.settledFields = fields

/-! ## Updates -/

section

variable {fields : SettledFields L} {self : NimbleClient L}

/-- A disconnected client ignores every datagram. -/
theorem nimbleClientFeed_of_disconnected (h : self.state = .disconnected)
    (datagram : Datagram L) : (nimbleClientFeed self datagram).2 = self := by
  rw [nimbleClientFeed_eq, if_pos h]
  split <;> rfl

theorem SettledAt.received (h : SettledAt fields self) (input : UpdateInput L) :
    SettledAt fields (self.received input).client := by
  have hbegin : SettledAt fields (beginUpdate self input.now) := by
    obtain ⟨_, _, _, _, heq⟩ := beginUpdate_eq self input.now
    rw [heq]
    exact ⟨h.state, h.fields⟩
  have hfeed : ∀ (client : NimbleClient L) (datagram : Datagram L), SettledAt fields client →
      True → SettledAt fields (nimbleClientFeed client datagram).2 := by
    intro client datagram hclient _
    rw [nimbleClientFeed_of_disconnected hclient.state]
    exact hclient
  exact @receiveLoop_invariant_of_guard _ (SettledAt fields) (fun _ _ => True)
    (fun _ hc => ⟨hc.state, hc.fields⟩) (fun _ hc => ⟨hc.state, hc.fields⟩) hfeed _ _ 0 hbegin
    (fun _ _ => trivial)

/-- The client that would send in an update. -/
theorem SettledAt.updateSender (h : SettledAt fields self) (input : UpdateInput L) :
    SettledAt fields (updateSender self input) := by
  have hreceived := h.received input
  have hsynced : (self.received input).client.state ≠ .synced := by
    rw [hreceived.state]
    simp
  rw [Nimble.updateSender]
  rw [watched_of_ne hsynced]
  exact ⟨hreceived.state, hreceived.fields⟩

/-- An update of a disconnected client sends nothing and leaves it as it is. -/
theorem SettledAt.nimbleClientUpdate (h : SettledAt fields self) (input : UpdateInput L) :
    SettledAt fields (nimbleClientUpdate self input).client ∧
      (Nimble.nimbleClientUpdate self input).events = [] := by
  have hreceived := h.received input
  by_cases hcut : self.IsCutShort input
  · rw [nimbleClientUpdate_of_cutShort hcut]
    exact ⟨hreceived, rfl⟩
  have hsender := h.updateSender input
  by_cases hwait : 0 < (Nimble.updateSender self input).waitTime
  · have hsynced : (self.received input).client.state ≠ .synced := by
      rw [hreceived.state]
      simp
    rw [nimbleClientUpdate_of_waits hcut hwait, watched_of_ne hsynced]
    exact ⟨⟨hreceived.state, hreceived.fields⟩, rfl⟩
  · have hsend : sendPackets (Nimble.updateSender self input) input.outgoing =
        ⟨0, Nimble.updateSender self input, []⟩ := if_pos (Or.inr hsender.state)
    rw [nimbleClientUpdate_of_sends hcut hwait, hsend]
    exact ⟨hsender, rfl⟩

theorem SettledAt.nimbleClientOutgoing (h : SettledAt fields self) (input : OutgoingInput) :
    SettledAt fields (nimbleClientOutgoing self input).client ∧
      (Nimble.nimbleClientOutgoing self input).events = [] := by
  have hhandled : handleState self input = ⟨0, self, []⟩ := by
    rw [handleState]
    rw [h.state]
  rw [Nimble.nimbleClientOutgoing]
  rw [hhandled]
  exact ⟨⟨h.state, h.fields⟩, rfl⟩

end

/-! ## Calls -/

/-- The calls that neither start the client over nor read or write a step. -/
def Operation.KeepsSettled : Operation L → Prop
  | .realizeJoinGame _ => True
  | .realizeQuitGame => True
  | .realizeUpdate _ => True
  | .disconnect => True
  | .update _ => True
  | .outgoing _ => True
  | _ => False

theorem settledAt_performOperation {fields : SettledFields L} {self : NimbleClientRealize L}
    (h : SettledAt fields self.client) {operation : Operation L}
    (hkeeps : operation.KeepsSettled) :
    SettledAt fields (performOperation self operation).1.client ∧
      (performOperation self operation).2.events = [] := by
  cases operation with
  | realizeJoinGame options => exact ⟨⟨h.state, h.fields⟩, rfl⟩
  | realizeQuitGame => exact ⟨⟨rfl, h.fields⟩, rfl⟩
  | disconnect => exact ⟨⟨rfl, h.fields⟩, rfl⟩
  | update input => exact h.nimbleClientUpdate input
  | outgoing input => exact h.nimbleClientOutgoing input
  | realizeUpdate input =>
      simp only [performOperation]
      rw [nimbleClientRealizeUpdate_of_disconnected h.state]
      exact ⟨h, rfl⟩
  | _ => exact hkeeps.elim

/-- Only an update of the realizer writes its state, and it writes Disconnected. -/
theorem realizeState_performOperation {self : NimbleClientRealize L}
    (h : self.client.state = .disconnected) {operation : Operation L}
    (hkeeps : operation.KeepsSettled) :
    (performOperation self operation).1.state =
      if operation matches .realizeUpdate _ then .disconnected else self.state := by
  cases operation with
  | realizeUpdate input =>
      simp only [performOperation]
      rw [nimbleClientRealizeUpdate_of_disconnected h]
      rfl
  | realizeJoinGame options => rfl
  | realizeQuitGame => rfl
  | disconnect => rfl
  | update input => rfl
  | outgoing input => rfl
  | _ => exact hkeeps.elim

/-- A client that is disconnected stays so until it is started over: it sends nothing, keeps
its buffers, game state, participants and ordered ids, and with its first update the realizer
is disconnected as well. -/
theorem disconnected_is_final {start : NimbleClientRealize L}
    (hstart : start.client.state = .disconnected) {operations : List (Operation L)}
    (hkeeps : ∀ operation ∈ operations, operation.KeepsSettled) :
    ((realizer L).run start operations).client.state = .disconnected ∧
      ((realizer L).run start operations).client.settledFields = start.client.settledFields ∧
      (∀ outcome ∈ (realizer L).outputs start operations, sentOctets outcome.events = []) ∧
      ((∃ input, .realizeUpdate input ∈ operations) ∨ start.state = .disconnected →
        ((realizer L).run start operations).state = .disconnected) := by
  induction operations generalizing start with
  | nil => exact ⟨hstart, rfl, by simp, fun h => by simpa using h⟩
  | cons operation operations ih =>
      rw [List.forall_mem_cons] at hkeeps
      obtain ⟨hsettled, hevents⟩ :=
        settledAt_performOperation ⟨hstart, rfl⟩ hkeeps.1
      have hrealize := realizeState_performOperation hstart hkeeps.1
      obtain ⟨hstate, hfields, hsent, hrun⟩ := ih hsettled.state hkeeps.2
      refine ⟨hstate, hfields.trans hsettled.fields, ?_, fun h => hrun ?_⟩
      · rw [Machine.outputs_cons, List.forall_mem_cons]
        refine ⟨?_, hsent⟩
        change sentOctets (performOperation start operation).2.events = []
        rw [hevents]
        rfl
      · rcases h with ⟨input, hmem⟩ | h
        · rcases List.mem_cons.mp hmem with rfl | hmem
          · exact Or.inr hrealize
          · exact Or.inl ⟨input, hmem⟩
        · right
          rw [hrealize, h]
          split <;> rfl

open Nimble.Small in
/-- A game that is quit cannot be joined again, although its server goes on answering. -/
theorem disconnected_is_final_quitGame :
    ((realizer smallLibraries).run
        (performOperation joinedRealizer .realizeQuitGame).1
        [.realizeJoinGame (0 : UInt8), .realizeUpdate (updateWith [connectResponse 5]),
          .update (updateWith [stepResponse 5 0 10 [1]])]).state = .disconnected :=
  (disconnected_is_final (by decide +kernel) (by simp [Operation.KeepsSettled])).2.2.2
    (Or.inl ⟨_, List.mem_cons_of_mem _ List.mem_cons_self⟩)

end Nimble
