import Nimble.Verification.ConnectionId
import Nimble.Verification.Pacing

/-! # How often the client sends

An update that gets past its receive loop sends, or waits for one tick of the wait time. No call
and no datagram makes a client wait for more than four such updates, and only a call of
`nimbleClientOutgoing` makes it wait at all. -/

namespace Nimble

variable {L : Libraries}

/-! ## The wait time -/

/-- The wait times that the client sets. -/
def WaitsBriefly (self : NimbleClient L) : Prop :=
  0 ≤ self.waitTime ∧ self.waitTime ≤ 4

theorem Dispatch.waitTime_outcome (x : Dispatch L) :
    x.outcome.2.waitTime = x.client.waitTime ∨ x.outcome.2.waitTime = 0 := by
  have heffect := x.effect
  generalize x.outcome.2 = client at heffect ⊢
  cases heffect with
  | join => exact Or.inr rfl
  | startDownload => exact Or.inr rfl
  | _ => exact Or.inl rfl

/-- A datagram at most ends the wait. -/
theorem waitTime_feed_cases (self : NimbleClient L) (datagram : Datagram L) :
    (nimbleClientFeed self datagram).2.waitTime = self.waitTime ∨
      (nimbleClientFeed self datagram).2.waitTime = 0 := by
  cases hx : dispatch? self datagram with
  | none => exact Or.inl (headerKeeps_waitTime.of_dispatch_eq_none hx)
  | some x =>
      have hkeeps : x.client.waitTime = self.waitTime := headerKeeps_waitTime.of_dispatch hx
      rw [nimbleClientFeed_of_dispatch hx, ← hkeeps]
      exact x.waitTime_outcome

theorem waitTime_received_cases (self : NimbleClient L) (input : UpdateInput L) :
    (self.received input).client.waitTime = self.waitTime ∨
      (self.received input).client.waitTime = 0 := by
  have hbegin : (beginUpdate self input.now).waitTime = self.waitTime := by
    obtain ⟨_, _, _, _, hbegin⟩ := beginUpdate_eq self input.now
    rw [hbegin]
  apply @receiveLoop_invariant_of_guard _
    (fun c => c.waitTime = self.waitTime ∨ c.waitTime = 0) (fun _ _ => True)
    (fun _ hc => hc) (fun _ hc => hc) _ _ _ 0 (Or.inl hbegin) (fun _ _ => trivial)
  rintro c d hc -
  rcases waitTime_feed_cases c d with h | h
  · rwa [h]
  · exact Or.inr h

theorem waitTime_sendStepsToStream (self : NimbleClient L) (stream : FldOutStream) :
    (sendStepsToStream self stream).2.1.waitTime = self.waitTime ∨
      (sendStepsToStream self stream).2.1.waitTime = 0 := by
  simp only [sendStepsToStream]
  split
  · exact Or.inl rfl
  · split
    · exact Or.inl rfl
    · exact Or.inr rfl

theorem waitTime_nimbleClientSendStepsToServer (self : NimbleClient L) (input : OutgoingInput) :
    (nimbleClientSendStepsToServer self input).client.waitTime = self.waitTime ∨
      (nimbleClientSendStepsToServer self input).client.waitTime = 0 := by
  have hsteps := waitTime_sendStepsToStream
    (nimbleClientWriteHeader self (fldOutStreamInit L) input.stepsHeaderNow).1
    (nimbleClientWriteHeader self (fldOutStreamInit L) input.stepsHeaderNow).2
  rw [nimbleClientSendStepsToServer]
  dsimp only
  split
  · exact hsteps
  · exact hsteps

theorem waitTime_sendMessageUsingStream (self : NimbleClient L) (stream : FldOutStream) :
    (sendMessageUsingStream self stream).client.waitTime = self.waitTime ∨
      (sendMessageUsingStream self stream).client.waitTime = 0 ∨
      (sendMessageUsingStream self stream).client.waitTime = 4 := by
  simp only [sendMessageUsingStream, updateSyncedSubState, sendBlobStreamCommands]
  cases self.state with
  | requestingConnect => exact Or.inr (Or.inr rfl)
  | joiningRequestingState => exact Or.inr (Or.inr rfl)
  | joiningDownloadingState =>
      dsimp only
      split
      · exact Or.inl rfl
      · exact Or.inr (Or.inl rfl)
  | synced =>
      cases self.joinParticipantPhase with
      | joiningParticipant => exact Or.inr (Or.inr rfl)
      | _ => exact Or.inl rfl
  | _ => exact Or.inl rfl

theorem waitTime_sendMessageDatagram (self : NimbleClient L) (input : OutgoingInput) :
    (sendMessageDatagram self input).client.waitTime = self.waitTime ∨
      (sendMessageDatagram self input).client.waitTime = 0 ∨
      (sendMessageDatagram self input).client.waitTime = 4 := by
  have hmessage : (outgoingMessage self input).client.waitTime = self.waitTime ∨
      (outgoingMessage self input).client.waitTime = 0 ∨
      (outgoingMessage self input).client.waitTime = 4 :=
    waitTime_sendMessageUsingStream
      (nimbleClientWriteHeader self (fldOutStreamInit L) input.messageHeaderNow).1 _
  rw [sendMessageDatagram_eq]
  dsimp only
  split
  · exact hmessage
  · split <;> exact hmessage

/-- A client that has sent waits as it did, or not at all, or for four updates. -/
theorem waitTime_nimbleClientOutgoing (self : NimbleClient L) (input : OutgoingInput) :
    (nimbleClientOutgoing self input).client.waitTime = self.waitTime ∨
      (nimbleClientOutgoing self input).client.waitTime = 0 ∨
      (nimbleClientOutgoing self input).client.waitTime = 4 := by
  have hhandled : (nimbleClientOutgoing self input).client.waitTime =
      (handleState self input).client.waitTime := by
    rw [nimbleClientOutgoing]
    dsimp only
    split <;> rfl
  rw [hhandled]
  rw [handleState]
  cases self.state with
  | synced =>
      have hsteps := waitTime_nimbleClientSendStepsToServer self input
      dsimp only
      split
      · exact hsteps.imp_right Or.inl
      · rcases waitTime_sendMessageDatagram (nimbleClientSendStepsToServer self input).client
          input with h | h
        · dsimp only
          rw [h]
          exact hsteps.imp_right Or.inl
        · exact Or.inr h
  | requestingConnect => exact waitTime_sendMessageDatagram self input
  | joiningRequestingState => exact waitTime_sendMessageDatagram self input
  | joiningDownloadingState => exact waitTime_sendMessageDatagram self input
  | _ => exact Or.inl rfl

/-! ## Updates -/

/-- The update gets past its receive loop, and the client has something to say. -/
def NimbleClient.MaySend (self : NimbleClient L) (input : UpdateInput L) : Prop :=
  ¬self.IsCutShort input ∧
    ¬((updateSender self input).state = .idle ∨ (updateSender self input).state = .disconnected)

instance (self : NimbleClient L) (input : UpdateInput L) : Decidable (self.MaySend input) :=
  inferInstanceAs (Decidable (_ ∧ _))

/-- Such an update calls `nimbleClientOutgoing`, or takes a tick from the wait time. -/
theorem waitTime_update (self : NimbleClient L) (h : WaitsBriefly self) (input : UpdateInput L) :
    WaitsBriefly (nimbleClientUpdate self input).client ∧
      (if self.MaySend input then 1 else 0) +
          (nimbleClientUpdate self input).client.waitTime.toNat ≤
        self.waitTime.toNat + 5 * if (updateCall? self input).isSome then 1 else 0 := by
  obtain ⟨h0, h4⟩ := h
  have hreceived := waitTime_received_cases self input
  obtain ⟨_, _, hwatched⟩ := watched_eq (self.received input).client
  have hsender : (updateSender self input).waitTime = (self.received input).client.waitTime := by
    rw [waitTime_updateSender, hwatched]
  by_cases hcut : self.IsCutShort input
  · rw [if_neg fun hmay : self.MaySend input => hmay.1 hcut, nimbleClientUpdate_of_cutShort hcut]
    dsimp only [WaitsBriefly]
    omega
  by_cases hwait : 0 < (updateSender self input).waitTime
  · rw [nimbleClientUpdate_of_waits hcut hwait, hwatched]
    dsimp only [WaitsBriefly]
    split <;> omega
  rw [nimbleClientUpdate_of_sends hcut hwait]
  by_cases hquiet : (updateSender self input).state = .idle ∨
      (updateSender self input).state = .disconnected
  · have hsent : sendPackets (updateSender self input) input.outgoing =
        ⟨0, updateSender self input, []⟩ := if_pos hquiet
    rw [if_neg fun hmay : self.MaySend input => hmay.2 hquiet, hsent]
    dsimp only [WaitsBriefly]
    omega
  · have hsent : sendPackets (updateSender self input) input.outgoing =
        nimbleClientOutgoing (updateSender self input) input.outgoing := if_neg hquiet
    have hcall : updateCall? self input = some (updateSender self input, input.outgoing) :=
      if_neg (by rw [not_or, not_or]; exact ⟨hcut, hwait, hquiet⟩)
    have hafter := waitTime_nimbleClientOutgoing (updateSender self input) input.outgoing
    rw [if_pos (show self.MaySend input from ⟨hcut, hquiet⟩), hcall, hsent]
    simp only [WaitsBriefly, Option.isSome_some, if_true]
    omega

/-! ## Calls -/

/-- The call makes such an update. -/
def MaySend (self : NimbleClientRealize L) (operation : Operation L) : Bool :=
  (clientUpdate? self operation).any fun input => self.client.MaySend input

/-- The call makes an update that calls `nimbleClientOutgoing`. -/
def CallsInUpdate (self : NimbleClientRealize L) (operation : Operation L) : Bool :=
  ((clientUpdate? self operation).bind (updateCall? self.client)).isSome

/-- The application calls `nimbleClientOutgoing` itself. -/
def CallsDirectly : Operation L → Bool
  | .outgoing _ => true
  | _ => false

theorem waitTime_nimbleClientReset (self : NimbleClient L) (now : MonotonicTimeMs) :
    (nimbleClientReset self now).waitTime = self.waitTime := by
  unfold nimbleClientReset
  dsimp only
  obtain ⟨_, _, h⟩ := freeGameState_eq _
  rw [h]

/-- Starting over keeps the wait time. -/
theorem waitTime_of_restarts (self : NimbleClientRealize L) {operation : Operation L}
    (h : operation.Restarts) :
    (performOperation self operation).1.client.waitTime = self.client.waitTime := by
  cases operation with
  | realizeInit settings now => exact waitTime_nimbleClientReset _ now
  | realizeReInit settings now => exact waitTime_nimbleClientReset _ now
  | realizeReset now => exact waitTime_nimbleClientReset _ now
  | reset now => exact waitTime_nimbleClientReset _ now
  | reInit transport now => exact waitTime_nimbleClientReset _ now
  | _ => exact h.elim

theorem waitTime_followTarget (self : NimbleClientRealize L) :
    (followTarget self).client.waitTime = self.client.waitTime ∨
      (followTarget self).client.waitTime = 0 := by
  have hmove := targetMove_followTarget self
  generalize followTarget self = after at hmove ⊢
  cases hmove with
  | stay => exact Or.inl rfl
  | clear => exact Or.inl rfl
  | _ => exact Or.inr rfl

/-- What a call that makes an update does to the wait time behind it. -/
theorem waitTime_of_update {self : NimbleClientRealize L} {operation : Operation L}
    {input : UpdateInput L} (h : clientUpdate? self operation = some input) :
    let updated := (nimbleClientUpdate self.client input).client
    (performOperation self operation).1.client.waitTime = updated.waitTime ∨
      (performOperation self operation).1.client.waitTime = 0 := by
  cases operation with
  | update other =>
      obtain rfl := Option.some.inj h
      exact Or.inl rfl
  | realizeUpdate other =>
      rw [clientUpdate?] at h
      split at h
      · obtain rfl := Option.some.inj h
        change (nimbleClientRealizeUpdate self other).realize.client.waitTime = _ ∨
          (nimbleClientRealizeUpdate self other).realize.client.waitTime = 0
        rw [nimbleClientRealizeUpdate_of_updates ‹_›]
        exact waitTime_followTarget (self.withClient (nimbleClientUpdate self.client other).client)
      · cases h
  | _ => cases h

/-- A call that makes no update leaves the wait time, ends it, or is a direct one that sends. -/
theorem waitTime_of_no_update {self : NimbleClientRealize L} {operation : Operation L}
    (h : clientUpdate? self operation = none) :
    (performOperation self operation).1.client.waitTime = self.client.waitTime ∨
      (performOperation self operation).1.client.waitTime = 0 ∨
      (performOperation self operation).1.client.waitTime = 4 ∧
        CallsDirectly operation = true := by
  by_cases hrestarts : operation.Restarts
  · exact Or.inl (waitTime_of_restarts self hrestarts)
  cases operation with
  | realizeInit settings now => exact absurd trivial hrestarts
  | realizeReInit settings now => exact absurd trivial hrestarts
  | realizeReset now => exact absurd trivial hrestarts
  | reset now => exact absurd trivial hrestarts
  | reInit transport now => exact absurd trivial hrestarts
  | update input => cases h
  | outgoing input =>
      rcases waitTime_nimbleClientOutgoing self.client input with h | h | h
      · exact Or.inl h
      · exact Or.inr (Or.inl h)
      · exact Or.inr (Or.inr ⟨h, rfl⟩)
  | realizeUpdate input =>
      change (nimbleClientRealizeUpdate self input).realize.client.waitTime = _ ∨
        (nimbleClientRealizeUpdate self input).realize.client.waitTime = 0 ∨ _
      rw [nimbleClientRealizeUpdate]
      split
      · exact Or.inl rfl
      · rename_i hconnected
        split
        · rw [clientUpdate?, if_pos ⟨hconnected, ‹_›⟩] at h
          cases h
        · exact (waitTime_followTarget self).imp_right Or.inl
  | _ => exact Or.inl rfl

theorem waitTime_performOperation (self : NimbleClientRealize L) (operation : Operation L)
    (h : WaitsBriefly self.client) :
    WaitsBriefly (performOperation self operation).1.client ∧
      (if MaySend self operation then 1 else 0) +
          (performOperation self operation).1.client.waitTime.toNat ≤
        self.client.waitTime.toNat + (5 * (if CallsInUpdate self operation then 1 else 0) +
          4 * if CallsDirectly operation then 1 else 0) := by
  cases hupdate : clientUpdate? self operation with
  | none =>
      have hcases := waitTime_of_no_update hupdate
      obtain ⟨h0, h4⟩ := h
      simp only [MaySend, hupdate, Option.any_none, Bool.false_eq_true, if_false, WaitsBriefly]
      rcases hcases with hsame | hzero | ⟨hfour, hcalls⟩
      · omega
      · omega
      · rw [if_pos hcalls]
        omega
  | some input =>
      have hcases := waitTime_of_update hupdate
      obtain ⟨⟨h0, h4⟩, hmoves⟩ := waitTime_update self.client h input
      simp only [CallsInUpdate, MaySend, hupdate, Option.bind_some, Option.any_some,
        decide_eq_true_eq, WaitsBriefly]
      omega

/-- A client that waits for four updates at most does so for ever, whatever is called and
whatever arrives. Of the updates in which it may send, at least every fifth calls
`nimbleClientOutgoing`; a direct call can put the next of these off by four. -/
theorem every_fifth_update_sends (start : NimbleClientRealize L) (h : WaitsBriefly start.client)
    (operations : List (Operation L)) :
    WaitsBriefly ((realizer L).run start operations).client ∧
      (realizer L).countSteps MaySend start operations ≤
        4 + 5 * (realizer L).countSteps CallsInUpdate start operations +
          4 * (realizer L).countSteps (fun _ => CallsDirectly) start operations := by
  have hcount := @Machine.sumSteps_le_of_potential _ _ _ (realizer L)
    (fun self => WaitsBriefly self.client) (fun self => self.client.waitTime.toNat)
    (fun self operation => if MaySend self operation then 1 else 0)
    (fun self operation => 5 * (if CallsInUpdate self operation then 1 else 0) +
      4 * if CallsDirectly operation then 1 else 0)
    waitTime_performOperation start h operations
  rw [Machine.sumSteps_add, Machine.sumSteps_mul, Machine.sumSteps_mul, Machine.sumSteps_ite,
    Machine.sumSteps_ite, Machine.sumSteps_ite] at hcount
  have hbriefly : WaitsBriefly ((realizer L).run start operations).client :=
    @Machine.run_invariant _ _ _ (realizer L) (fun self => WaitsBriefly self.client)
      (fun self operation hself => (waitTime_performOperation self operation hself).1) start
      operations h
  have hstart := h.2
  exact ⟨hbriefly, by omega⟩

/-! ## A run on fixed inputs -/

open Nimble.Small

/-- Nine updates of a client that waits for the answer to its connect request. -/
theorem every_fifth_update_sends_connecting :
    let calls : List (Operation smallLibraries) := List.replicate 9 (.update (updateWith []))
    (realizer smallLibraries).countSteps MaySend requestingRealizer calls ≤
      4 + 5 * (realizer smallLibraries).countSteps CallsInUpdate requestingRealizer calls +
        4 * (realizer smallLibraries).countSteps (fun _ => CallsDirectly) requestingRealizer
          calls :=
  (every_fifth_update_sends requestingRealizer ⟨by decide +kernel, by decide +kernel⟩
    (List.replicate 9 (.update (updateWith [])))).2

end Nimble
