import Nimble.Library.Tickets
import Nimble.Verification.Answers
import Nimble.Verification.Pacing

/-! # Join requests

Each call of `nimbleClientRealizeJoinGame` replaces the join request of the client by one with the
next nonce. The nonces tell the requests apart until the realizer is reset. -/

namespace Nimble

variable {L : Libraries}

/-! ## The requests of a run -/

/-- The call sets the nonce back. -/
def Operation.ResetsNonce : Operation L → Prop
  | .realizeReset _ => True
  | _ => False

/-- The join requests that a run makes, one after another. -/
def joinRequests (start : NimbleClientRealize L) (operations : List (Operation L)) :
    List (NimbleSerializeJoinGameRequest L.JoinGameOptions) :=
  (realizer L).gather (fun self operation => (joinRequest? self operation).toList) start operations

/-- The nonce behind this one. -/
def nextNonce (L : Libraries) (nonce : NimbleSerializeNonce) : NimbleSerializeNonce :=
  (nonce + 1) % L.nonceModulus

theorem joinGameRequestNonce_followTarget (self : NimbleClientRealize L) :
    (followTarget self).joinGameRequestNonce = self.joinGameRequestNonce := by
  unfold followTarget moveTowardsTarget
  repeat' split
  all_goals rfl

/-- Apart from a reset, only a join request moves the nonce. -/
theorem joinGameRequestNonce_performOperation (self : NimbleClientRealize L)
    {operation : Operation L} (h : ¬operation.ResetsNonce) :
    ((joinRequest? self operation).toList.map NimbleSerializeJoinGameRequest.nonce) =
        List.iterate (nextNonce L) self.joinGameRequestNonce
          (joinRequest? self operation).toList.length ∧
      (performOperation self operation).1.joinGameRequestNonce =
        (nextNonce L)^[(joinRequest? self operation).toList.length] self.joinGameRequestNonce := by
  cases operation with
  | realizeReset now => exact absurd trivial h
  | realizeUpdate input =>
      refine ⟨rfl, ?_⟩
      change (nimbleClientRealizeUpdate self input).realize.joinGameRequestNonce = _
      rw [nimbleClientRealizeUpdate]
      split
      · rfl
      · split
        · exact joinGameRequestNonce_followTarget _
        · exact joinGameRequestNonce_followTarget _
  | _ => exact ⟨rfl, rfl⟩

/-- The client holds the latest join request. -/
theorem request_run (start : NimbleClientRealize L) (operations : List (Operation L)) :
    ((realizer L).run start operations).client.joinGameRequest =
      (joinRequests start operations).getLastD start.client.joinGameRequest := by
  induction operations generalizing start with
  | nil => rfl
  | cons operation operations ih =>
      rw [Machine.run_cons, ih, joinRequests, joinRequests, Machine.gather_cons]
      change List.getLastD _ (performOperation start operation).1.client.joinGameRequest = _
      rw [request_performOperation]
      cases joinRequest? start operation with
      | none => rfl
      | some request => exact List.getLastD_cons.symm

/-! ## The datagram -/

/-- The datagram with this join request, put together by this client. -/
def joinDatagram (sender : NimbleClient L)
    (request : NimbleSerializeJoinGameRequest L.JoinGameOptions) (now : MonotonicTimeMs) :
    List UInt8 :=
  ((headerStream sender now).write (L.nimbleSerializeClientOutJoinGameRequest request)).octets

/-- A call that sends leaves the join request alone. -/
theorem request_of_outgoingCall {self : NimbleClientRealize L} {operation : Operation L}
    {call : NimbleClient L × OutgoingInput} (h : call ∈ outgoingCall? self operation) :
    call.1.joinGameRequest = self.client.joinGameRequest := by
  rcases outgoingCall?_cases h with ⟨input, rfl, rfl⟩ | ⟨input, _, _, rfl⟩
  · rfl
  · exact congrArg LocalFields.joinGameRequest (localFields_updateSender self.client input)

/-- What a client sends that waits to join: its steps and, unless these fail, its join request. -/
theorem sentOctets_of_joining (hsizes : RequestsExceedHeader L) {self : NimbleClient L}
    (h : Request.joinGame.IsPendingFor self) (input : OutgoingInput) :
    sentOctets (nimbleClientOutgoing self input).events = stepsDatagrams self input ++
      if (nimbleClientSendStepsToServer self input).result < 0 then []
      else [joinDatagram (messageSender self input) self.joinGameRequest
        input.messageHeaderNow] := by
  have hsame := (sendsTo_nimbleClientSendStepsToServer self input).protocolState_eq
  obtain ⟨_, hlocal⟩ := (sendsTo_nimbleClientSendStepsToServer self input).localFields_eq
  have hrequest : (nimbleClientSendStepsToServer self input).client.joinGameRequest =
      self.joinGameRequest := congrArg LocalFields.joinGameRequest hlocal
  rw [events_nimbleClientOutgoing, handleState, stepsDatagrams, messageSender, if_pos h.1,
    if_pos h.1, h.1]
  dsimp only
  split
  · rw [List.append_nil]
  · rw [sentOctets_append, (sendMessageDatagram_of_pending hsizes (h.congr hsame) input).1,
      ← hrequest]
    rfl

/-- Between two resets of the realizer its join requests carry one nonce after another, and none
twice unless there are more requests than nonces. What a client that waits to join sends behind
its steps is the latest of them; nothing follows steps that fail. -/
theorem join_requests_are_numbered (hsizes : RequestsExceedHeader L)
    (start : NimbleClientRealize L) (before : List (Operation L))
    (h : ∀ operation ∈ before, ¬operation.ResetsNonce) :
    let requests := joinRequests start before
    requests.map NimbleSerializeJoinGameRequest.nonce =
        List.iterate (nextNonce L) start.joinGameRequestNonce requests.length ∧
      (start.joinGameRequestNonce < L.nonceModulus → requests.length ≤ L.nonceModulus →
        (requests.map NimbleSerializeJoinGameRequest.nonce).Nodup) ∧
      ∀ operation, ∀ call ∈ outgoingCall? ((realizer L).run start before) operation,
        Request.joinGame.IsPendingFor call.1 →
          sentOctets (nimbleClientOutgoing call.1 call.2).events = stepsDatagrams call.1 call.2 ++
            if (nimbleClientSendStepsToServer call.1 call.2).result < 0 then []
            else [joinDatagram (messageSender call.1 call.2)
              (requests.getLastD start.client.joinGameRequest) call.2.messageHeaderNow] := by
  intro requests
  have hnumbers : requests.map NimbleSerializeJoinGameRequest.nonce =
      List.iterate (nextNonce L) start.joinGameRequestNonce requests.length :=
    (@Tickets.numbers_gather _ _ _ _ _ (realizer L) (fun _ operation => ¬operation.ResetsNonce)
      NimbleClientRealize.joinGameRequestNonce (nextNonce L)
      (fun self operation => (joinRequest? self operation).toList)
      NimbleSerializeJoinGameRequest.nonce
      (fun self _ hop => joinGameRequestNonce_performOperation self hop) start before
      (fun v hv => h v.2 ((realizer L).mem_of_mem_visits hv))).1
  refine ⟨hnumbers, fun hstart hlength => ?_, fun operation call hcall hpending => ?_⟩
  · rw [hnumbers]
    exact Tickets.nodup_iterate_succ_mod hstart hlength
  · rw [sentOctets_of_joining hsizes hpending, request_of_outgoingCall hcall, request_run]

/-! ## A run on fixed inputs -/

open Nimble.Small

/-- A session that joins and, before the answer, asks to join once more. -/
def rejoiningCalls : List (Operation smallLibraries) :=
  syncSession 10 5 ++ [.realizeJoinGame (7 : UInt8)]

theorem join_requests_are_numbered_rejoining :
    (joinRequests (freshRealizer 1) rejoiningCalls).map NimbleSerializeJoinGameRequest.nonce =
      [0, 1] :=
  (join_requests_are_numbered requestsExceedHeader_smallLibraries (freshRealizer 1) rejoiningCalls
    (by simp [rejoiningCalls, syncSession, Operation.ResetsNonce])).1.trans (by decide +kernel)

end Nimble
