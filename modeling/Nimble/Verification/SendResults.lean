import Nimble.Verification.Alike

/-! # What the transport says of a send

The client hands its datagrams to the transport and goes on. Of what the transport returns for a
message, no later call depends, and of what it returns for the steps only the sign. -/

namespace Nimble

variable {L : Libraries}

/-! ## Calls that find other results -/

/-- The same clock readings, and send results of which those for the steps have the same sign. -/
structure OtherResults (input other : OutgoingInput) : Prop where
  stepsHeaderNow : other.stepsHeaderNow = input.stepsHeaderNow
  messageHeaderNow : other.messageHeaderNow = input.messageHeaderNow
  steps : input.stepsSendResult < 0 ↔ other.stepsSendResult < 0

/-- The same updates but for the results of the sends. -/
structure OtherUpdates (input other : UpdateInput L) : Prop where
  now : other.now = input.now
  queue : other.queue = input.queue
  outgoing : OtherResults input.outgoing other.outgoing

/-- The same calls but for the results of the sends. -/
inductive OtherCalls : Operation L → Operation L → Prop
  | same (operation : Operation L) : OtherCalls operation operation
  | realizeUpdate {input other : UpdateInput L} (h : OtherUpdates input other) :
      OtherCalls (.realizeUpdate input) (.realizeUpdate other)
  | update {input other : UpdateInput L} (h : OtherUpdates input other) :
      OtherCalls (.update input) (.update other)
  | outgoing {input other : OutgoingInput} (h : OtherResults input other) :
      OtherCalls (.outgoing input) (.outgoing other)

/-- What a call gives back apart from the return value of `nimbleClientOutgoing`, which is the
result of the last send unless something has failed before. -/
def Answer.apartFromSends (self : Answer L) : Operation L → Answer L
  | .outgoing _ => { self with result := none }
  | _ => self

/-! ## One call -/

/-- The same client and the same events. -/
structure SentAlike (x y : OutgoingOutcome L) : Prop where
  client : y.client = x.client
  events : y.events = x.events

theorem sentAlike_sendMessageDatagram (self : NimbleClient L) {input other : OutgoingInput}
    (h : OtherResults input other) :
    SentAlike (sendMessageDatagram self input) (sendMessageDatagram self other) := by
  have hmessage : outgoingMessage self other = outgoingMessage self input := by
    rw [outgoingMessage, outgoingMessage, headerStream, headerStream, h.messageHeaderNow]
  rw [sendMessageDatagram_eq, sendMessageDatagram_eq, hmessage]
  dsimp only
  split
  · exact ⟨rfl, rfl⟩
  · split <;> exact ⟨rfl, rfl⟩

theorem sentAlike_nimbleClientSendStepsToServer (self : NimbleClient L)
    {input other : OutgoingInput} (h : OtherResults input other) :
    SentAlike (nimbleClientSendStepsToServer self input)
        (nimbleClientSendStepsToServer self other) ∧
      ((nimbleClientSendStepsToServer self input).result < 0 ↔
        (nimbleClientSendStepsToServer self other).result < 0) := by
  rw [nimbleClientSendStepsToServer, nimbleClientSendStepsToServer, h.stepsHeaderNow]
  dsimp only
  split
  · exact ⟨⟨rfl, rfl⟩, Iff.rfl⟩
  · exact ⟨⟨rfl, rfl⟩, h.steps⟩

theorem sentAlike_handleState (self : NimbleClient L) {input other : OutgoingInput}
    (h : OtherResults input other) :
    SentAlike (handleState self input) (handleState self other) := by
  have hmessage := sentAlike_sendMessageDatagram self h
  rw [handleState, handleState]
  cases self.state with
  | requestingConnect => exact hmessage
  | joiningRequestingState => exact hmessage
  | joiningDownloadingState => exact hmessage
  | synced =>
      obtain ⟨⟨hclient, hevents⟩, hfails⟩ := sentAlike_nimbleClientSendStepsToServer self h
      have hrest := sentAlike_sendMessageDatagram
        (nimbleClientSendStepsToServer self input).client h
      dsimp only
      rw [hclient, hevents]
      refine related_ite hfails ⟨hclient, hevents⟩ ⟨hrest.client, ?_⟩
      rw [hrest.events]
  | _ => exact ⟨rfl, rfl⟩

theorem client_nimbleClientOutgoing (self : NimbleClient L) (input : OutgoingInput) :
    ∃ rest, (nimbleClientOutgoing self input).client =
      (handleState self input).client.withRest rest := by
  rw [nimbleClientOutgoing]
  dsimp only
  split
  · exact ⟨(handleState self input).client.rest, rfl⟩
  · exact ⟨{ (handleState self input).client.rest with
      frame := (handleState self input).client.frame + 1 }, rfl⟩

/-- Only the frame counter of the client can tell the results apart. -/
theorem alike_nimbleClientOutgoing_of_otherResults (self : NimbleClient L)
    {input other : OutgoingInput} (h : OtherResults input other) :
    Alike (nimbleClientOutgoing self input).client (nimbleClientOutgoing self other).client ∧
      sentOctets (nimbleClientOutgoing self other).events =
        sentOctets (nimbleClientOutgoing self input).events := by
  obtain ⟨hclient, hevents⟩ := sentAlike_handleState self h
  rw [events_nimbleClientOutgoing, events_nimbleClientOutgoing, hevents]
  refine ⟨?_, rfl⟩
  obtain ⟨_, hinput⟩ := client_nimbleClientOutgoing self input
  obtain ⟨_, hother⟩ := client_nimbleClientOutgoing self other
  rw [hinput, hother, hclient]
  rfl

theorem alike_nimbleClientUpdate_of_otherUpdates (self : NimbleClient L)
    {input other : UpdateInput L} (h : OtherUpdates input other) :
    AlikeUpdates (nimbleClientUpdate self input) (nimbleClientUpdate self other) := by
  have hsends : ∀ client : NimbleClient L,
      Alike (sendPackets client input.outgoing).client (sendPackets client other.outgoing).client ∧
        sentOctets (sendPackets client other.outgoing).events =
          sentOctets (sendPackets client input.outgoing).events := by
    intro client
    rw [sendPackets, sendPackets]
    split
    · exact ⟨rfl, rfl⟩
    · exact alike_nimbleClientOutgoing_of_otherResults client h.outgoing
  rw [nimbleClientUpdate_eq, nimbleClientUpdate_eq]
  dsimp only
  rw [h.now, h.queue]
  refine related_ite Iff.rfl ⟨rfl, rfl, rfl, rfl⟩ ?_
  rw [finishUpdate_eq, finishUpdate_eq, h.now]
  refine related_ite Iff.rfl ⟨rfl, rfl, rfl, rfl⟩ ?_
  obtain ⟨hclient, hsent⟩ := hsends _
  exact ⟨rfl, rfl, hsent, hclient⟩

/-- So a call leads to realizers that are alike, and gives the same back. -/
theorem alike_performOperation_of_otherCalls (self : NimbleClientRealize L)
    {operation other : Operation L} (h : OtherCalls operation other) :
    AlikeRealizers (performOperation self operation).1 (performOperation self other).1 ∧
      (performOperation self other).2.answer.apartFromSends other =
        (performOperation self operation).2.answer.apartFromSends operation := by
  have hsame : AlikeRealizers self self := ⟨rfl, rfl, rfl, rfl⟩
  cases h with
  | same => exact ⟨⟨rfl, rfl, rfl, rfl⟩, rfl⟩
  | outgoing h =>
      rename_i input other
      obtain ⟨hclient, hsent⟩ := alike_nimbleClientOutgoing_of_otherResults self.client h
      refine ⟨hsame.withClient hclient, ?_⟩
      simp [performOperation, OperationOutcome.answer, Answer.apartFromSends, hsent]
  | update h =>
      rename_i input other
      obtain ⟨hresult, hqueue, hsent, hclient⟩ :=
        alike_nimbleClientUpdate_of_otherUpdates self.client h
      refine ⟨hsame.withClient hclient, ?_⟩
      simp [performOperation, OperationOutcome.answer, Answer.apartFromSends, hresult, hqueue,
        hsent]
  | realizeUpdate h =>
      rename_i input other
      simp only [performOperation]
      by_cases hdisconnected : self.client.state = .disconnected
      · rw [nimbleClientRealizeUpdate_of_disconnected hdisconnected,
          nimbleClientRealizeUpdate_of_disconnected hdisconnected]
        exact ⟨⟨rfl, rfl, rfl, rfl⟩, rfl⟩
      by_cases hcalls : self.UpdatesClient
      · obtain ⟨hresult, hqueue, hsent, hclient⟩ :=
          alike_nimbleClientUpdate_of_otherUpdates self.client h
        rw [nimbleClientRealizeUpdate_of_updates ⟨hdisconnected, hcalls⟩,
          nimbleClientRealizeUpdate_of_updates ⟨hdisconnected, hcalls⟩]
        refine ⟨alike_followTarget (hsame.withClient hclient), ?_⟩
        simp [OperationOutcome.answer, Answer.apartFromSends, hresult, hqueue, hsent]
      · rw [nimbleClientRealizeUpdate_of_not_updates hdisconnected hcalls,
          nimbleClientRealizeUpdate_of_not_updates hdisconnected hcalls]
        exact ⟨alike_followTarget hsame, rfl⟩

/-! ## Runs -/

/-- The calls as someone sees them who does not look at the return value of
`nimbleClientOutgoing`. -/
def sendObserver (L : Libraries) :
    Machine (NimbleClientRealize L) (Operation L) (Answer L × View) where
  step self operation :=
    ((performOperation self operation).1,
      (performOperation self operation).2.answer.apartFromSends operation,
      (performOperation self operation).1.view)

theorem AlikeRealizers.trans {a b c : NimbleClientRealize L} (h : AlikeRealizers a b)
    (h' : AlikeRealizers b c) : AlikeRealizers a c := by
  obtain ⟨rest, hb⟩ := h.client.eq_withRest
  obtain ⟨rest', hc⟩ := h'.client.eq_withRest
  refine ⟨?_, h'.targetState.trans h.targetState, h'.state.trans h.state,
    h'.joinGameRequestNonce.trans h.joinGameRequestNonce⟩
  rw [hc, hb]
  rfl

/-- Whatever the transport returns for the messages, and whatever it returns without an error for
the steps, or as one: the same datagrams are sent, the same steps are read, every update returns
the same, and the realizer and the client go through the same states. -/
theorem send_results_unnoticed (start : NimbleClientRealize L)
    (operations others : List (Operation L)) (h : List.Forall₂ OtherCalls operations others) :
    (sendObserver L).outputs start operations = (sendObserver L).outputs start others := by
  have hstep : ∀ a b operation other, AlikeRealizers a b → OtherCalls operation other →
      AlikeRealizers ((sendObserver L).step a operation).1 ((sendObserver L).step b other).1 ∧
        ((sendObserver L).step a operation).2 = ((sendObserver L).step b other).2 := by
    intro a b operation other hab hother
    obtain ⟨hafter, hanswer⟩ := alike_performOperation hab operation
    obtain ⟨hafter', hanswer'⟩ := alike_performOperation_of_otherCalls b hother
    have hall := hafter.trans hafter'
    refine ⟨hall, Prod.ext ?_ hall.view_eq.symm⟩
    change Answer.apartFromSends _ operation = Answer.apartFromSends _ other
    rw [hanswer', hanswer]
  have houtputs := (@Machine.related_of_lockstep _ _ _ (sendObserver L) AlikeRealizers OtherCalls
    (· = ·) hstep start start operations others ⟨rfl, rfl, rfl, rfl⟩ h).2
  exact List.forall₂_eq_eq_eq ▸ houtputs

/-! ## A transport that fails -/

namespace Small

/-- A client that asks for a connection, with a transport that returns this for its requests. -/
def connectingCalls (result : Int) : List (Operation smallLibraries) :=
  [.realizeJoinGame (0 : UInt8), .realizeUpdate ⟨0, [], ⟨0, 0, 0, result⟩⟩,
    .realizeUpdate ⟨0, [], ⟨0, 0, 0, result⟩⟩, .outgoing ⟨0, 0, 0, result⟩]

theorem otherCalls_connecting (result other : Int) :
    List.Forall₂ OtherCalls (connectingCalls result) (connectingCalls other) :=
  .cons (.same _) (.cons (.realizeUpdate ⟨rfl, rfl, rfl, rfl, Iff.rfl⟩)
    (.cons (.realizeUpdate ⟨rfl, rfl, rfl, rfl, Iff.rfl⟩)
      (.cons (.outgoing ⟨rfl, rfl, Iff.rfl⟩) .nil)))

end Small

open Nimble.Small in
/-- Its requests are the same whether they fail or not. -/
theorem send_results_unnoticed_connecting :
    (sendObserver smallLibraries).outputs (freshRealizer 1) (connectingCalls 0) =
      (sendObserver smallLibraries).outputs (freshRealizer 1) (connectingCalls (-7)) :=
  send_results_unnoticed (freshRealizer 1) (connectingCalls 0) (connectingCalls (-7))
    (otherCalls_connecting 0 (-7))

end Nimble
