import Mathlib.Data.List.Infix
import Nimble.Verification.AuthoritativeSteps
import Nimble.Verification.Pacing

/-! # Acknowledgements are truthful

What a client acknowledges to the server it has handed to the application or holds ready for it,
and it never takes an acknowledgement back. -/

namespace Nimble

open ReorderBuffer

variable {L : Libraries}

/-! ## What has been delivered -/

/-- The steps that the application has read or can read next, after some events that have left
these buffers. -/
def StepOrder.delivered (order : StepOrder L) (events : List (BufferEvent L))
    (buffers : StepBuffers L) : List (StepId × List UInt8) :=
  stepsRead events ++ order.contents buffers.authoritativeStepsFromServer

section

variable {order : StepOrder L} {events : List (BufferEvent L)} {buffers after : StepBuffers L}
  {event : BufferEvent L}

theorem StepOrder.delivered_of_same (hread : event.read? = none)
    (hsteps : after.authoritativeStepsFromServer = buffers.authoritativeStepsFromServer) :
    order.delivered events buffers <+: order.delivered (events ++ [event]) after := by
  rw [delivered, delivered, stepsRead_append, hread, hsteps, Option.toList_none, List.append_nil]

/-- A copy appends to the steps from the server, and a response that fails copies nothing. -/
theorem StepOrder.contents_authoritativeBuffersAfter (hlaws : order.Laws) (client : NimbleClient L)
    (inStream : FldInStream) (locals : FeedLocals L) :
    order.contents client.authoritativeStepsFromServer <+:
      order.contents (authoritativeBuffersAfter client inStream locals).1 := by
  rw [authoritativeBuffersAfter]
  by_cases hfails : (serializeSteps client inStream locals).1 < 0
  · rw [if_pos hfails]
  · rw [if_neg hfails]
    obtain ⟨moved, hreleases, _⟩ := hlaws.copy client.authoritativeStepsFromServer
      (serializeSteps client inStream locals).2
    exact ⟨moved, hreleases.released.symm⟩

/-- No event before the next adoption or restart takes a delivered step back. -/
theorem StepOrder.delivered_step (hlaws : order.Laws) (hstep : BufferStep buffers event after)
    (hlasts : ¬event.Ends) :
    order.delivered events buffers <+: order.delivered (events ++ [event]) after := by
  obtain ⟨hfinds, rfl⟩ := hstep
  cases event with
  | restart client => exact absurd trivial hlasts
  | write client stepId octets =>
      obtain rfl : client.stepBuffers = buffers := hfinds
      exact delivered_of_same rfl rfl
  | read client maxTarget =>
      obtain rfl : client.stepBuffers = buffers := hfinds
      obtain ⟨_, hcontents⟩ := hlaws.read client.authoritativeStepsFromServer maxTarget
      have hsame : order.delivered (events ++ [.read client maxTarget])
          (BufferEvent.read client maxTarget).after = order.delivered events client.stepBuffers := by
        rw [delivered, stepsRead_append, List.append_assoc]
        exact congrArg (stepsRead events ++ ·) hcontents.symm
      rw [hsame]
  | feed client datagram =>
      obtain rfl : client.stepBuffers = buffers := hfinds
      change _ <+: order.delivered _ (nimbleClientFeed client datagram).2.stepBuffers
      cases hx : dispatch? client datagram with
      | none =>
          have hsame : (nimbleClientFeed client datagram).2.stepBuffers = client.stepBuffers :=
            congrArg ProtocolState.stepBuffers (protocolState_feed_of_dispatch_eq_none hx)
          rw [hsame]
          exact delivered_of_same rfl rfl
      | some x =>
          have hclient : x.client.stepBuffers = client.stepBuffers :=
            congrArg ProtocolState.stepBuffers (protocolState_of_dispatch hx)
          rw [nimbleClientFeed_of_dispatch hx, ← hclient,
            Dispatch.stepBuffers_outcome fun hadopts => hlasts ⟨x, hx, hadopts⟩]
          split
          · exact delivered_of_same rfl rfl
          split
          · rw [delivered, delivered, stepsRead_append]
            change stepsRead events ++ _ <+: (stepsRead events ++ []) ++ _
            rw [List.append_nil, List.prefix_append_right_inj]
            exact contents_authoritativeBuffersAfter hlaws x.client x.inStream x.locals
          · exact delivered_of_same rfl rfl

/-- Nor do several events. -/
theorem StepOrder.delivered_of_trace (hlaws : order.Laws) {more : List (BufferEvent L)}
    (htrace : Trace BufferStep buffers more after) (hlasts : ∀ event ∈ more, ¬event.Ends) :
    order.delivered events buffers <+: order.delivered (events ++ more) after := by
  induction htrace generalizing events with
  | nil => rw [List.append_nil]
  | @cons s t u event more hstep _ ih =>
      rw [List.forall_mem_cons] at hlasts
      have hrest := @ih (events ++ [event]) hlasts.2
      rw [List.append_assoc] at hrest
      exact (delivered_step hlaws hstep hlasts.1).trans hrest

end

/-! ## The sender -/

/-- A client that sends in a call has the buffers that the call leaves. -/
theorem stepBuffers_of_outgoingCall {self : NimbleClientRealize L} {operation : Operation L}
    {call : NimbleClient L × OutgoingInput} (h : call ∈ outgoingCall? self operation) :
    (performOperation self operation).1.client.stepBuffers = call.1.stepBuffers := by
  rcases outgoingCall?_cases h with ⟨input, rfl, rfl⟩ | ⟨input, hinput, hcut, rfl⟩
  · exact congrArg ProtocolState.stepBuffers
      (sendsTo_nimbleClientOutgoing self.client input).protocolState_eq
  · have hsame : (updatedClient self operation).protocolState =
        (updateSender self.client input).protocolState := by
      rw [updatedClient_of_update hinput, nimbleClientUpdate_of_not_cutShort hcut,
        protocolState_finishUpdate, protocolState_updateSender]
    refine Eq.trans ?_ (congrArg ProtocolState.stepBuffers hsame)
    cases operation with
    | update other => rfl
    | realizeUpdate other =>
        obtain ⟨_, _, _, hclient⟩ := client_realizeUpdate self other
        rw [hclient]
        rfl
    | _ => cases hinput

/-! ## What a datagram acknowledges -/

/-- The receive mask of pending steps. -/
def receiveMask (pending : L.NbsPendingSteps) : UInt64 :=
  (L.nbsPendingStepsReceiveMask pending).1

/-- A receive mask, sent together with an expected id, marks steps, and marks none that the
pending steps do not hold. -/
def StepOrder.MarksHeldSteps (order : StepOrder L) (marks : UInt64 → StepId → StepId → Prop) :
    Prop :=
  ∀ pending stepId, marks (receiveMask pending) (expectedStepIdFromServer pending) stepId →
    (order.held pending stepId).isSome

/-- A game step datagram that acknowledges the steps below this id and those that this mask
marks. -/
def AcknowledgesUpTo (L : Libraries) (expected : StepId) (mask : UInt64) (octets : List UInt8) :
    Prop :=
  ∃ (sender : NimbleClient L) (now : MonotonicTimeMs),
    ((@gameStepStream L (headerStream sender now)).write
      (L.nbsPendingStepsSerializeOutHeader expected mask)).octets <+: octets

theorem acknowledgesUpTo_of_acknowledges {self : NimbleClient L} {octets : List UInt8}
    (h : self.Acknowledges octets) :
    AcknowledgesUpTo L (expectedStepIdFromServer self.authoritativePendingStepsFromServer)
      (receiveMask self.authoritativePendingStepsFromServer) octets := by
  obtain ⟨now, hprefix⟩ := h
  exact ⟨self, now, hprefix⟩

/-- The steps datagrams of a call are among what it sends, and acknowledge. -/
theorem acknowledges_of_mem_stepsDatagrams {self : NimbleClient L} {input : OutgoingInput}
    {octets : List UInt8} (h : octets ∈ stepsDatagrams self input) :
    octets ∈ sentOctets (nimbleClientOutgoing self input).events ∧ self.Acknowledges octets := by
  unfold stepsDatagrams at h
  split at h
  · exact ⟨(mem_sentOctets_of_synced ‹_› input octets).mpr (Or.inl h), acknowledges_of_mem_steps h⟩
  · cases h

/-! ## The result -/

/-- From an adoption on, each steps datagram that is sent acknowledges the steps up to the last one
that has been delivered to the application, all of which a game step response has brought under
their ids from `joinStateId` on, and marks no other steps than such a response has brought. No
later datagram acknowledges less. -/
theorem acknowledgements_are_truthful (order : StepOrder L) (hlaws : order.Laws)
    (marks : UInt64 → StepId → StepId → Prop) (hmarks : order.MarksHeldSteps marks)
    (start : NimbleClientRealize L) (before : List (Operation L)) (operation : Operation L)
    (call : NimbleClient L × OutgoingInput)
    (hcall : call ∈ outgoingCall? ((realizer L).run start before) operation)
    (client : NimbleClient L) (datagram : Datagram L) (past segment : List (BufferEvent L))
    (hrun : runBufferEvents start (before ++ [operation]) =
      past ++ .feed client datagram :: segment)
    (hadopts : (BufferEvent.feed client datagram).Ends)
    (hlasts : ∀ event ∈ segment, ¬event.Ends) :
    let delivered := fun events => order.delivered events (buffersAfter client datagram events)
    let expected := (· + 1)^[(delivered segment).length] client.joinStateId
    let mask :=
      receiveMask (buffersAfter client datagram segment).authoritativePendingStepsFromServer
    (∀ octets ∈ stepsDatagrams call.1 call.2,
        octets ∈ sentOctets
            (performOperation ((realizer L).run start before) operation).2.events ∧
          AcknowledgesUpTo L expected mask octets) ∧
      (delivered segment).map Prod.fst =
        List.iterate (· + 1) client.joinStateId (delivered segment).length ∧
      (∀ step ∈ delivered segment, order.Brought segment step.1 step.2) ∧
      (∀ stepId, marks mask expected stepId →
        ∃ payload, order.Brought segment stepId payload) ∧
      ∀ earlier, earlier <+: segment → delivered earlier <+: delivered segment := by
  intro delivered expected mask
  have hsince : SinceAdoption start (before ++ [operation]) client datagram segment :=
    ⟨⟨past, [], by rw [List.append_nil, hrun]⟩, hadopts, hlasts⟩
  have hstart := aligned_of_reset hlaws (L.nbsStepsReInit client.outSteps client.joinStateId)
    client.authoritativePendingStepsFromServer client.authoritativeStepsFromServer
    client.joinStateId
  rw [← hsince.buffersAfter_nil] at hstart
  have haligned := hsince.trace.invariant_of_guard
    (fun _ _ _ _ haligned hstep hlasts => haligned.step hlaws hstep hlasts) hstart hlasts
  -- The client that sends has the buffers that the segment leaves.
  have hsender : call.1.stepBuffers = buffersAfter client datagram segment := by
    have htrace := trace_run start (before ++ [operation])
    rw [hrun, Machine.run_append] at htrace
    obtain ⟨_, _, hfrom⟩ := htrace.split
    obtain ⟨_, ⟨_, hafter⟩, hsegment⟩ := hfrom.head
    rw [← hafter] at hsegment
    rw [← stepBuffers_of_outgoingCall hcall]
    exact eq_buffersAfter hsegment
  have hexpected : expectedStepIdFromServer
      (buffersAfter client datagram segment).authoritativePendingStepsFromServer = expected :=
    haligned.delivers.consecutive.last_eq
  refine ⟨?_, haligned.delivers.consecutive.ids, haligned.delivers.released, ?_, ?_⟩
  · intro octets hmem
    obtain ⟨hsent, hacknowledges⟩ := acknowledges_of_mem_stepsDatagrams hmem
    have hpending : call.1.authoritativePendingStepsFromServer =
        (buffersAfter client datagram segment).authoritativePendingStepsFromServer :=
      congrArg StepBuffers.authoritativePendingStepsFromServer hsender
    have hupTo := acknowledgesUpTo_of_acknowledges hacknowledges
    rw [hpending, hexpected] at hupTo
    refine ⟨?_, hupTo⟩
    rw [events_performOperation, Option.mem_def.mp hcall]
    exact hsent
  · intro stepId hmarked
    rw [← hexpected] at hmarked
    obtain ⟨payload, hheld⟩ := Option.isSome_iff_exists.mp (hmarks _ stepId hmarked)
    exact ⟨payload, haligned.delivers.held stepId payload hheld⟩
  · rintro earlier ⟨later, rfl⟩
    obtain ⟨middle, hearlier, hlater⟩ := hsince.trace.split
    rw [eq_buffersAfter hearlier] at hlater
    exact StepOrder.delivered_of_trace hlaws hlater fun event hevent =>
      hlasts event (List.mem_append_right _ hevent)

/-! ## A run that reorders -/

namespace Reordering

/-- The mask has a bit for the distance of each step from the expected one. -/
def marks (mask : UInt64) (expected stepId : StepId) : Prop :=
  mask.toBitVec.getLsbD (stepId - expected).toNat = true

theorem marksHeldSteps_marks : stepOrder.MarksHeldSteps marks := by
  intro pending stepId hmarked
  change (EarlySteps.receiveMask pending).toBitVec.getLsbD (stepId - pending.expectedId).toNat =
    true at hmarked
  change (pending.held stepId).isSome
  simp only [EarlySteps.receiveMask, BitVec.getLsbD_setWidth, BitVec.getLsbD_ofBoolListLE,
    Bool.and_eq_true, List.getD_eq_getElem?_getD, List.getElem?_map] at hmarked
  obtain ⟨_, hbit⟩ := hmarked
  by_cases hplace : (stepId - pending.expectedId).toNat < EarlySteps.window
  · have hid : pending.expectedId + (stepId - pending.expectedId) = stepId := by
      rw [UInt32.add_comm, UInt32.sub_add_cancel]
    rw [List.getElem?_range hplace] at hbit
    simpa [hid] using hbit
  · rw [List.getElem?_eq_none (by simpa using hplace)] at hbit
    cases hbit

/-- The adoption and what follows it, with a predicted step, up to where the client sends. -/
def callsBeforeSending : List (Operation reorderingLibraries) :=
  downloadSession 10 ++ .update lastPartInput :: (reorderedCalls ++ [.writeStep 10 [7]])

def sendingRealizer : NimbleClientRealize reorderingLibraries :=
  (realizer reorderingLibraries).run freshRealizer callsBeforeSending

/-- What happens to the buffers from the adoption on. -/
def sendingSegment : List (BufferEvent reorderingLibraries) :=
  segment ((reorderedCalls ++ [.writeStep 10 [7]]) ++ [.outgoing ⟨0, 0, 0, 0⟩])

theorem runBufferEvents_sending :
    runBufferEvents freshRealizer (callsBeforeSending ++ [.outgoing ⟨0, 0, 0, 0⟩]) =
      runBufferEvents freshRealizer (downloadSession 10) ++
        .feed adoptingClient lastPart :: sendingSegment := by
  have hsession : (realizer reorderingLibraries).run freshRealizer (downloadSession 10) =
      downloadingRealizer := rfl
  rw [callsBeforeSending, List.append_assoc]
  exact runBufferEvents_of_update _ hsession (rfl : lastPartInput.queue = [.datagram lastPart])
    (by decide)

end Reordering

open Reordering in
/-- The four steps that were read are acknowledged. -/
theorem acknowledgements_are_truthful_reordered :
    let buffers := buffersAfter adoptingClient lastPart sendingSegment
    (stepOrder.delivered sendingSegment buffers).map Prod.fst = [10, 11, 12, 13] ∧
      ∃ octets ∈ sentOctets (performOperation sendingRealizer (.outgoing ⟨0, 0, 0, 0⟩)).2.events,
        AcknowledgesUpTo reorderingLibraries
          ((· + 1)^[(stepOrder.delivered sendingSegment buffers).length]
            adoptingClient.joinStateId)
          (receiveMask buffers.authoritativePendingStepsFromServer) octets := by
  refine ⟨by decide +kernel, ?_⟩
  have hsends : stepsDatagrams sendingRealizer.client ⟨0, 0, 0, 0⟩ ≠ [] := by decide +kernel
  exact ⟨_, (acknowledgements_are_truthful stepOrder laws_stepOrder marks marksHeldSteps_marks
    freshRealizer callsBeforeSending (.outgoing ⟨0, 0, 0, 0⟩)
    (sendingRealizer.client, ⟨0, 0, 0, 0⟩) rfl adoptingClient lastPart _ sendingSegment
    runBufferEvents_sending (by decide +kernel) (by decide +kernel)).1 _ (List.head_mem hsends)⟩

end Nimble
