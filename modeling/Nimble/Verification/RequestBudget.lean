import Nimble.Verification.SendCadence

/-! # A budget for requests

A client repeats its requests until they are answered, and an answer lets it go on at once. Over
any run the requests are paid for all the same: by five updates each, or by what may have ended a
wait early. -/

namespace Nimble

variable {L : Libraries}

/-! ## Requests and what ends a wait -/

/-- The call puts a request together: the client waits for an answer, and the steps that a synced
client sends first do not fail. -/
def Asks (call : NimbleClient L × OutgoingInput) : Prop :=
  (∃ request : Request, request.IsPendingFor call.1) ∧
    (call.1.state = .synced → 0 ≤ (nimbleClientSendStepsToServer call.1 call.2).result)

theorem exists_isPendingFor_iff (self : NimbleClient L) :
    (∃ request : Request, request.IsPendingFor self) ↔
      self.state = .requestingConnect ∨ self.state = .joiningRequestingState ∨
        self.state = .synced ∧ self.joinParticipantPhase = .joiningParticipant := by
  constructor
  · rintro ⟨request, h⟩
    cases request with
    | connect => exact Or.inl h
    | downloadState => exact Or.inr (Or.inl h)
    | joinGame => exact Or.inr (Or.inr h)
  · rintro (h | h | h)
    · exact ⟨.connect, h⟩
    · exact ⟨.downloadState, h⟩
    · exact ⟨.joinGame, h⟩

instance (call : NimbleClient L × OutgoingInput) : Decidable (Asks call) :=
  @instDecidableAnd _ _ (decidable_of_iff _ (exists_isPendingFor_iff call.1).symm) inferInstance

instance (x : Dispatch L) : Decidable x.SetsWaitTime :=
  inferInstanceAs (Decidable (_ ∨ _))

/-- The call makes an update that puts a request together. -/
def AsksInUpdate (self : NimbleClientRealize L) (operation : Operation L) : Bool :=
  ((clientUpdate? self operation).bind (updateCall? self.client)).any fun call => Asks call

/-- The call makes an update. -/
def Updates (self : NimbleClientRealize L) (operation : Operation L) : Bool :=
  (clientUpdate? self operation).isSome

/-- The feed accepts an answer whose handler ends the wait. -/
def endsWait (f : NimbleClient L × Datagram L) : Bool :=
  (dispatch? f.1 f.2).any fun x => x.SetsWaitTime

/-- The realizer moves its client on. -/
def MovesClient (self : NimbleClientRealize L) (operation : Operation L) : Bool :=
  match operation with
  | .realizeUpdate _ => self.targetState = .synced ∧ self.state ≠ .synced ∧
      ((updatedClient self operation).state = .idle ∨
        (updatedClient self operation).state = .connected ∨
        (updatedClient self operation).state = .synced)
  | _ => false

/-- How often a call may end a wait early: at each answer it accepts, at a move of the realizer and
as a direct one. Each counts, also where there is no wait to end. -/
def waitsEnded (self : NimbleClientRealize L) (operation : Operation L) : Nat :=
  (operationFeeds self operation).countP endsWait + (if MovesClient self operation then 1 else 0) +
    if CallsDirectly operation then 1 else 0

/-! ## What a call pays -/

theorem waitTime_sendMessageDatagram_of_pending {request : Request} {self : NimbleClient L}
    (h : request.IsPendingFor self) (input : OutgoingInput) :
    (sendMessageDatagram self input).client.waitTime = 4 := by
  obtain ⟨hresult, hwait, _⟩ := outgoingMessage_of_pending h input
  rw [sendMessageDatagram_eq]
  dsimp only
  rw [if_neg (by omega)]
  split <;> exact hwait

/-- A client that has put a request together waits for four updates. -/
theorem waitTime_of_asks {self : NimbleClient L} {input : OutgoingInput}
    (h : Asks (self, input)) : (nimbleClientOutgoing self input).client.waitTime = 4 := by
  obtain ⟨⟨request, hpending⟩, hsteps⟩ := h
  have hhandled : (handleState self input).client.waitTime = 4 := by
    rw [handleState]
    cases request with
    | connect =>
        rw [show self.state = .requestingConnect from hpending]
        exact waitTime_sendMessageDatagram_of_pending hpending input
    | downloadState =>
        rw [show self.state = .joiningRequestingState from hpending]
        exact waitTime_sendMessageDatagram_of_pending hpending input
    | joinGame =>
        have hsent := hpending.congr
          (sendsTo_nimbleClientSendStepsToServer self input).protocolState_eq
        rw [hpending.1]
        dsimp only
        rw [if_neg (not_lt.mpr (hsteps hpending.1))]
        exact waitTime_sendMessageDatagram_of_pending hsent input
  rw [nimbleClientOutgoing]
  dsimp only
  split <;> exact hhandled

/-- Unless an answer ends it, the wait goes on through the receive loop. -/
theorem waitTime_received_of_quiet {self : NimbleClient L} {input : UpdateInput L}
    (h : (feeds (beginUpdate self input.now) input.queue).countP endsWait = 0) :
    (self.received input).client.waitTime = self.waitTime := by
  obtain ⟨_, _, _, _, hbegin⟩ := beginUpdate_eq self input.now
  apply @receiveLoop_invariant_of_guard _ (fun c => c.waitTime = self.waitTime)
    (fun c d => ∀ x ∈ dispatch? c d, ¬x.SetsWaitTime) (fun _ hc => hc) (fun _ hc => hc)
    (fun _ _ hc hd => (waitTime_nimbleClientFeed hd).trans hc) _ _ 0 (by rw [hbegin])
  intro f hf x hx hsets
  have hquiet := List.countP_eq_zero.mp h f hf
  exact hquiet (by simp [endsWait, Option.mem_def.mp hx, hsets])

/-- The room that the wait time leaves below its maximum. A request uses it up, an update that
waits makes a tick of it, and what ends the wait makes four at most. -/
def waitRoom (self : NimbleClient L) : Nat :=
  4 - self.waitTime.toNat

theorem waitRoom_update (self : NimbleClient L) (h : WaitsBriefly self) (input : UpdateInput L) :
    5 * (if (updateCall? self input).any (fun call => Asks call) then 1 else 0) +
        waitRoom (nimbleClientUpdate self input).client ≤
      waitRoom self + (1 + 4 * (feeds (beginUpdate self input.now) input.queue).countP endsWait) := by
  obtain ⟨h0, h4⟩ := h
  have hreceived := waitTime_received_cases self input
  have hquiet := @waitTime_received_of_quiet _ self input
  obtain ⟨_, _, hwatched⟩ := watched_eq (self.received input).client
  have hsender : (updateSender self input).waitTime = (self.received input).client.waitTime := by
    rw [waitTime_updateSender, hwatched]
  unfold waitRoom
  by_cases hcut : self.IsCutShort input
  · have hcall : updateCall? self input = none := if_pos (Or.inl hcut)
    rw [hcall, nimbleClientUpdate_of_cutShort hcut]
    simp only [Option.any_none, Bool.false_eq_true, if_false]
    omega
  by_cases hwait : 0 < (updateSender self input).waitTime
  · have hcall : updateCall? self input = none := if_pos (Or.inr (Or.inl hwait))
    rw [hcall, nimbleClientUpdate_of_waits hcut hwait, hwatched]
    simp only [Option.any_none, Bool.false_eq_true, if_false]
    omega
  rw [nimbleClientUpdate_of_sends hcut hwait]
  by_cases hstate : (updateSender self input).state = .idle ∨
      (updateSender self input).state = .disconnected
  · have hcall : updateCall? self input = none := if_pos (Or.inr (Or.inr hstate))
    have hsent : sendPackets (updateSender self input) input.outgoing =
        ⟨0, updateSender self input, []⟩ := if_pos hstate
    rw [hcall, hsent]
    simp only [Option.any_none, Bool.false_eq_true, if_false]
    omega
  · have hcall : updateCall? self input = some (updateSender self input, input.outgoing) :=
      if_neg (by rw [not_or, not_or]; exact ⟨hcut, hwait, hstate⟩)
    have hsent : sendPackets (updateSender self input) input.outgoing =
        nimbleClientOutgoing (updateSender self input) input.outgoing := if_neg hstate
    have hafter := waitTime_nimbleClientOutgoing (updateSender self input) input.outgoing
    rw [hcall, hsent]
    by_cases hasks : Asks (updateSender self input, input.outgoing)
    · have hfour := waitTime_of_asks hasks
      simp only [Option.any_some, decide_eq_true hasks, if_true]
      omega
    · simp only [Option.any_some, decide_eq_false hasks, Bool.false_eq_true, if_false]
      omega

/-- A realizer that does not move its client on leaves the wait time as it is. -/
theorem waitTime_followTarget_of_stays {self : NimbleClientRealize L}
    (h : self.targetState = .synced → self.state ≠ .synced →
      self.client.state ≠ .idle ∧ self.client.state ≠ .connected ∧ self.client.state ≠ .synced) :
    (followTarget self).client.waitTime = self.client.waitTime := by
  by_cases hsame : self.targetState = self.state
  · rw [followTarget, if_pos hsame]
  have hmove := targetMove_followTarget self
  generalize followTarget self = after at hmove ⊢
  have hstays : self.targetState = .synced →
      self.client.state ≠ .idle ∧ self.client.state ≠ .connected ∧ self.client.state ≠ .synced :=
    fun htarget => h htarget fun hstate => hsame (htarget.trans hstate.symm)
  cases hmove with
  | stay => rfl
  | clear => rfl
  | requestConnect htarget hclient => exact absurd hclient (hstays htarget).1
  | requestState htarget hclient => exact absurd hclient (hstays htarget).2.1
  | sync htarget hclient => exact absurd hclient (hstays htarget).2.2

/-- The realizer's part in an update of it. -/
theorem waitTime_realizeUpdate_of_stays {self : NimbleClientRealize L} {input : UpdateInput L}
    (h : MovesClient self (.realizeUpdate input) = false) :
    (performOperation self (.realizeUpdate input)).1.client.waitTime =
      (updatedClient self (.realizeUpdate input)).waitTime := by
  simp only [MovesClient, decide_eq_false_iff_not, not_and, not_or] at h
  simp only [performOperation, updatedClient, clientUpdate?] at h ⊢
  by_cases hdisconnected : self.client.state = .disconnected
  · rw [nimbleClientRealizeUpdate_of_disconnected hdisconnected,
      if_neg fun hc => hc.1 hdisconnected]
  by_cases hupdates : self.UpdatesClient
  · rw [nimbleClientRealizeUpdate_of_updates ⟨hdisconnected, hupdates⟩,
      if_pos ⟨hdisconnected, hupdates⟩] at *
    exact @waitTime_followTarget_of_stays _
      (self.withClient (nimbleClientUpdate self.client input).client) h
  · rw [nimbleClientRealizeUpdate_of_not_updates hdisconnected hupdates,
      if_neg fun hc => hupdates hc.2] at *
    exact waitTime_followTarget_of_stays h

/-- Apart from the update it makes, only a move of the realizer or a direct call touches the
wait. -/
theorem waitTime_of_unhurried {self : NimbleClientRealize L} {operation : Operation L}
    (hmoves : MovesClient self operation = false) (hdirect : CallsDirectly operation = false) :
    (performOperation self operation).1.client.waitTime =
      (updatedClient self operation).waitTime := by
  by_cases hrestarts : operation.Restarts
  · have hnone : clientUpdate? self operation = none := by
      cases operation with
      | update input => exact hrestarts.elim
      | realizeUpdate input => exact hrestarts.elim
      | _ => rfl
    rw [updatedClient_of_no_update hnone]
    exact waitTime_of_restarts self hrestarts
  cases operation with
  | realizeUpdate input => exact waitTime_realizeUpdate_of_stays hmoves
  | outgoing input => cases hdirect
  | realizeInit settings now => exact absurd trivial hrestarts
  | realizeReInit settings now => exact absurd trivial hrestarts
  | realizeReset now => exact absurd trivial hrestarts
  | reset now => exact absurd trivial hrestarts
  | reInit transport now => exact absurd trivial hrestarts
  | _ => rfl

theorem waitRoom_updatedClient (self : NimbleClientRealize L) (operation : Operation L)
    (h : WaitsBriefly self.client) :
    5 * (if AsksInUpdate self operation then 1 else 0) + waitRoom (updatedClient self operation) ≤
      waitRoom self.client + ((if Updates self operation then 1 else 0) +
        4 * (operationFeeds self operation).countP endsWait) := by
  cases hupdate : clientUpdate? self operation with
  | none =>
      rw [updatedClient_of_no_update hupdate]
      simp [AsksInUpdate, hupdate]
  | some input =>
      rw [updatedClient_of_update hupdate]
      simp only [AsksInUpdate, Updates, operationFeeds, hupdate, Option.bind_some,
        Option.isSome_some, if_true]
      exact waitRoom_update self.client h input

theorem waitRoom_performOperation (self : NimbleClientRealize L) (operation : Operation L)
    (h : WaitsBriefly self.client) :
    WaitsBriefly (performOperation self operation).1.client ∧
      5 * (if AsksInUpdate self operation then 1 else 0) +
          waitRoom (performOperation self operation).1.client ≤
        waitRoom self.client +
          ((if Updates self operation then 1 else 0) + 4 * waitsEnded self operation) := by
  refine ⟨(waitTime_performOperation self operation h).1, ?_⟩
  have hupdated := waitRoom_updatedClient self operation h
  have hroom : waitRoom (performOperation self operation).1.client ≤ 4 := Nat.sub_le _ _
  rw [waitsEnded]
  cases hmoves : MovesClient self operation with
  | true =>
      rw [if_pos rfl]
      omega
  | false =>
      cases hdirect : CallsDirectly operation with
      | true =>
          rw [if_pos rfl]
          omega
      | false =>
          have hsame : waitRoom (performOperation self operation).1.client =
              waitRoom (updatedClient self operation) :=
            congrArg (fun wait => 4 - Int.toNat wait) (waitTime_of_unhurried hmoves hdirect)
          rw [hsame]
          omega

/-! ## The budget -/

/-- Whatever is called and whatever arrives, five updates pay for a request. An accepted answer, a
move of the realizer and a direct call count for four updates each, and a run has four to spend
when it starts. -/
theorem requests_within_budget (start : NimbleClientRealize L) (h : WaitsBriefly start.client)
    (operations : List (Operation L)) :
    5 * (realizer L).countSteps AsksInUpdate start operations ≤
      4 + (realizer L).countSteps Updates start operations +
        4 * (realizer L).sumSteps waitsEnded start operations := by
  have hbudget := @Machine.sumSteps_le_of_potential _ _ _ (realizer L)
    (fun self => WaitsBriefly self.client) (fun self => waitRoom self.client)
    (fun self operation => 5 * if AsksInUpdate self operation then 1 else 0)
    (fun self operation => (if Updates self operation then 1 else 0) + 4 * waitsEnded self operation)
    waitRoom_performOperation start h operations
  rw [Machine.sumSteps_mul, Machine.sumSteps_ite, Machine.sumSteps_add, Machine.sumSteps_ite,
    Machine.sumSteps_mul] at hbudget
  have hstart : waitRoom start.client ≤ 4 := Nat.sub_le _ _
  omega

/-! ## A run on fixed inputs -/

open Nimble.Small

/-- Twelve updates of a client whose server never answers: three requests. -/
theorem requests_within_budget_unanswered :
    let calls : List (Operation smallLibraries) :=
      .realizeJoinGame (0 : UInt8) :: List.replicate 12 (.realizeUpdate (updateWith []))
    (realizer smallLibraries).countSteps AsksInUpdate (freshRealizer 1) calls = 3 ∧
      5 * (realizer smallLibraries).countSteps AsksInUpdate (freshRealizer 1) calls ≤
        4 + 12 + 4 * 1 :=
  ⟨by decide +kernel, requests_within_budget (freshRealizer 1) ⟨by decide, by decide⟩
    (.realizeJoinGame (0 : UInt8) :: List.replicate 12 (.realizeUpdate (updateWith [])))⟩

end Nimble
