import Nimble.Library.ReorderBuffer
import Nimble.Verification.StepBuffers

/-! # Authoritative steps

The pending steps and the steps from the server form a reorder buffer, which delivers the steps
of a game from its first on. -/

namespace Nimble

open ReorderBuffer

variable {L : Libraries}

/-! ## The libraries as documented -/

/-- The step id that the client tells the server it is waiting for. -/
def expectedStepIdFromServer (pending : L.NbsPendingSteps) : StepId :=
  (L.nbsPendingStepsReceiveMask pending).2

/-- The step buffers as a reorder buffer: the steps received early are held under their ids until
they are copied. -/
structure StepOrder (L : Libraries) where
  held : L.NbsPendingSteps → StepId → Option (List UInt8)
  contents : L.NbsSteps → List (StepId × List UInt8)
  /-- A stream carries this payload for this step. -/
  Carries : FldInStream → StepId → List UInt8 → Prop

/-- The two authoritative buffers of a client. -/
def StepOrder.buffer (order : StepOrder L) (pending : L.NbsPendingSteps) (steps : L.NbsSteps) :
    ReorderBuffer StepId (List UInt8) where
  expected := expectedStepIdFromServer pending
  held := order.held pending
  released := order.contents steps

/-- The nimble-steps library as documented. What a copy cannot move stays where it was. -/
structure StepOrder.Laws (order : StepOrder L) : Prop where
  pendingReset : ∀ pending stepId,
    expectedStepIdFromServer (L.nbsPendingStepsReset pending stepId) = stepId ∧
      ∀ i, order.held (L.nbsPendingStepsReset pending stepId) i = none
  reInit : ∀ steps stepId, L.expectedWriteId (L.nbsStepsReInit steps stepId) = stepId ∧
    order.contents (L.nbsStepsReInit steps stepId) = []
  inSerialize : ∀ stream pending steps,
    Receives (order.Carries stream) (order.buffer pending steps)
      (order.buffer (L.nbsPendingStepsInSerialize stream pending).2 steps)
  copy : ∀ steps pending, ∃ moved,
    Releases (· + 1) moved (order.buffer pending steps)
        (order.buffer (L.nbsPendingStepsCopy steps pending).2.2
          (L.nbsPendingStepsCopy steps pending).2.1) ∧
      L.expectedWriteId (L.nbsPendingStepsCopy steps pending).2.1 =
        (· + 1)^[moved.length] (L.expectedWriteId steps)
  read : ∀ steps maxTarget,
    L.expectedWriteId (L.nbsStepsRead steps maxTarget).2.2 = L.expectedWriteId steps ∧
      order.contents steps = (L.nbsStepsRead steps maxTarget).2.1.toList ++
        order.contents (L.nbsStepsRead steps maxTarget).2.2

/-! ## What is carried and what is read -/

/-- The stream of a game step response at its steps. -/
def behindAcknowledged (inStream : FldInStream) : FldInStream :=
  (L.fldInStreamReadUInt32 (@behindDelta L inStream)).stream

/-- The event is a feed of a game step response that carries this payload for this step. -/
def StepOrder.Brings (order : StepOrder L) (stepId : StepId) (payload : List UInt8) :
    BufferEvent L → Prop
  | .feed client datagram => ∃ x, dispatch? client datagram = some x ∧
      x.command = some .gameStepResponse ∧
      order.Carries (@behindAcknowledged L x.inStream) stepId payload
  | _ => False

/-- One of the events brings this payload for this step. -/
def StepOrder.Brought (order : StepOrder L) (events : List (BufferEvent L)) (stepId : StepId)
    (payload : List UInt8) : Prop :=
  ∃ event ∈ events, order.Brings stepId payload event

/-- The step that is handed to the application in an event. -/
def BufferEvent.read? : BufferEvent L → Option (StepId × List UInt8)
  | .read client maxTarget => (nimbleClientReadStep client maxTarget).2.1
  | _ => none

/-- The steps that are handed to the application, in order. -/
def stepsRead (events : List (BufferEvent L)) : List (StepId × List UInt8) :=
  events.filterMap BufferEvent.read?

theorem stepsRead_append (events : List (BufferEvent L)) (event : BufferEvent L) :
    stepsRead (events ++ [event]) = stepsRead events ++ event.read?.toList := by
  cases h : event.read? <;> simp [stepsRead, h]

/-! ## The invariant -/

/-- Since the adoption, what has been read and what can be read next are the steps from the first
on, all of them brought by the events, and the two buffers agree on the next step. -/
structure StepOrder.Aligned (order : StepOrder L) (first : StepId)
    (events : List (BufferEvent L)) (buffers : StepBuffers L) : Prop where
  delivers : Delivers (· + 1) first (order.Brought events) (stepsRead events)
    (order.buffer buffers.authoritativePendingStepsFromServer buffers.authoritativeStepsFromServer)
  expected : expectedStepIdFromServer buffers.authoritativePendingStepsFromServer =
    L.expectedWriteId buffers.authoritativeStepsFromServer

section

variable {order : StepOrder L} {first : StepId} {events : List (BufferEvent L)}
  {buffers : StepBuffers L} {event : BufferEvent L}

theorem StepOrder.Brought.append {stepId : StepId} {payload : List UInt8}
    (h : order.Brought events stepId payload) (event : BufferEvent L) :
    order.Brought (events ++ [event]) stepId payload := by
  obtain ⟨earlier, hmem, hbrings⟩ := h
  exact ⟨earlier, List.mem_append_left _ hmem, hbrings⟩

/-- An event that reads nothing and leaves the two buffers alone. -/
theorem StepOrder.Aligned.frame (h : order.Aligned first events buffers)
    (hread : event.read? = none) {after : StepBuffers L}
    (hpending : after.authoritativePendingStepsFromServer =
      buffers.authoritativePendingStepsFromServer)
    (hsteps : after.authoritativeStepsFromServer = buffers.authoritativeStepsFromServer) :
    order.Aligned first (events ++ [event]) after := by
  constructor
  · rw [stepsRead_append, hread, Option.toList_none, List.append_nil, hpending, hsteps]
    exact h.delivers.mono fun _ _ hbrought => hbrought.append event
  · rw [hpending, hsteps]
    exact h.expected

/-- A step that is read is the oldest of the steps from the server. -/
theorem StepOrder.Aligned.read (hlaws : order.Laws) {client : NimbleClient L}
    (h : order.Aligned first events client.stepBuffers) (maxTarget : Nat) :
    order.Aligned first (events ++ [.read client maxTarget])
      (BufferEvent.read client maxTarget).after := by
  obtain ⟨hexpected, hcontents⟩ := hlaws.read client.authoritativeStepsFromServer maxTarget
  refine ⟨?_, h.expected.trans hexpected.symm⟩
  rw [stepsRead_append]
  have hmore := h.delivers.mono fun _ _ hbrought => hbrought.append (.read client maxTarget)
  cases hstep : (L.nbsStepsRead client.authoritativeStepsFromServer maxTarget).2.1 with
  | none =>
      have hread : (BufferEvent.read client maxTarget).read? = none := hstep
      rw [hstep] at hcontents
      rw [hread, Option.toList_none, List.append_nil]
      exact hmore.receive ⟨rfl, hcontents.symm, fun _ _ => Or.inl⟩
  | some step =>
      have hread : (BufferEvent.read client maxTarget).read? = some step := hstep
      rw [hstep] at hcontents
      rw [hread]
      exact hmore.take ⟨rfl, hcontents, rfl⟩

/-- A game step response is taken in, and if that succeeds what is ready is copied. -/
theorem StepOrder.Aligned.gameStepResponse (hlaws : order.Laws) {client : NimbleClient L}
    {datagram : Datagram L} {x : Dispatch L} (hx : dispatch? client datagram = some x)
    (hcommand : x.command = some .gameStepResponse)
    (h : order.Aligned first events x.client.stepBuffers) {after : StepBuffers L}
    (hpending : after.authoritativePendingStepsFromServer =
      (authoritativeBuffersAfter x.client x.inStream x.locals).2)
    (hsteps : after.authoritativeStepsFromServer =
      (authoritativeBuffersAfter x.client x.inStream x.locals).1) :
    order.Aligned first (events ++ [.feed client datagram]) after := by
  have hserialized := hlaws.inSerialize (@behindAcknowledged L x.inStream)
    x.client.authoritativePendingStepsFromServer x.client.authoritativeStepsFromServer
  have hbrought : ∀ stepId payload, order.Carries (@behindAcknowledged L x.inStream) stepId payload →
      order.Brought (events ++ [.feed client datagram]) stepId payload :=
    fun _ _ hcarries => ⟨_, List.mem_append_right _ (List.mem_singleton_self _), x, hx, hcommand,
      hcarries⟩
  have hreceived := (h.delivers.mono fun _ _ hold => hold.append (.feed client datagram)).receive
    ⟨hserialized.expected, hserialized.released, fun i payload hheld =>
      (hserialized.held i payload hheld).imp_right (hbrought i payload)⟩
  have hexpected : expectedStepIdFromServer (serializeSteps x.client x.inStream x.locals).2 =
      L.expectedWriteId x.client.authoritativeStepsFromServer :=
    hserialized.expected.trans h.expected
  have hnothing : stepsRead (events ++ [.feed client datagram]) = stepsRead events := by
    rw [stepsRead_append]
    exact List.append_nil _
  unfold authoritativeBuffersAfter at hpending hsteps
  by_cases hfails : (serializeSteps x.client x.inStream x.locals).1 < 0
  · rw [if_pos hfails] at hpending hsteps
    refine ⟨?_, ?_⟩
    · rw [hnothing, hpending, hsteps]
      exact hreceived
    · rw [hpending, hsteps]
      exact hexpected
  · rw [if_neg hfails] at hpending hsteps
    obtain ⟨moved, hreleases, hwritten⟩ := hlaws.copy x.client.authoritativeStepsFromServer
      (serializeSteps x.client x.inStream x.locals).2
    refine ⟨?_, ?_⟩
    · rw [hnothing, hpending, hsteps]
      exact hreceived.release hreleases
    · rw [hpending, hsteps, hwritten, ← hexpected]
      exact hreleases.consecutive.last_eq

/-- Nothing that happens before the next adoption or restart breaks the alignment. -/
theorem StepOrder.Aligned.step (hlaws : order.Laws) {after : StepBuffers L}
    (h : order.Aligned first events buffers) (hstep : BufferStep buffers event after)
    (hlasts : ¬event.Ends) : order.Aligned first (events ++ [event]) after := by
  obtain ⟨hfinds, rfl⟩ := hstep
  cases event with
  | restart client => exact absurd trivial hlasts
  | write client stepId octets =>
      obtain rfl : client.stepBuffers = buffers := hfinds
      exact h.frame rfl rfl rfl
  | read client maxTarget =>
      obtain rfl : client.stepBuffers = buffers := hfinds
      exact h.read hlaws maxTarget
  | feed client datagram =>
      obtain rfl : client.stepBuffers = buffers := hfinds
      change order.Aligned first _ (nimbleClientFeed client datagram).2.stepBuffers
      cases hx : dispatch? client datagram with
      | none =>
          have hsame := congrArg ProtocolState.stepBuffers
            (protocolState_feed_of_dispatch_eq_none hx)
          change (nimbleClientFeed client datagram).2.stepBuffers = client.stepBuffers at hsame
          rw [hsame]
          exact h.frame rfl rfl rfl
      | some x =>
          have hclient : x.client.stepBuffers = client.stepBuffers :=
            congrArg ProtocolState.stepBuffers (protocolState_of_dispatch hx)
          rw [← hclient] at h
          rw [nimbleClientFeed_of_dispatch hx,
            Dispatch.stepBuffers_outcome fun hadopts => hlasts ⟨x, hx, hadopts⟩]
          split
          · exact h.frame rfl rfl rfl
          split
          · exact h.gameStepResponse hlaws hx ‹_› rfl rfl
          · exact h.frame rfl rfl rfl

theorem aligned_of_reset (hlaws : order.Laws) (outSteps : L.NbsSteps)
    (pending : L.NbsPendingSteps) (steps : L.NbsSteps) (first : StepId) :
    order.Aligned first []
      { outSteps := outSteps
        authoritativePendingStepsFromServer := L.nbsPendingStepsReset pending first
        authoritativeStepsFromServer := L.nbsStepsReInit steps first } := by
  obtain ⟨hexpected, hheld⟩ := hlaws.pendingReset pending first
  obtain ⟨hwrite, hcontents⟩ := hlaws.reInit steps first
  exact ⟨delivers_empty hexpected hcontents hheld, hexpected.trans hwrite.symm⟩

end

/-! ## The result -/

/-- From the adoption of a game state to the next one or a restart, whatever arrives in whatever
order, the application reads the steps from `joinStateId` on, without gap or repeat, each with a
payload that a game step response brought for it, and the two buffers agree on the next step. -/
theorem authoritative_steps_in_order (order : StepOrder L) (hlaws : order.Laws)
    {start : NimbleClientRealize L} {operations : List (Operation L)} {client : NimbleClient L}
    {datagram : Datagram L} {segment : List (BufferEvent L)}
    (h : SinceAdoption start operations client datagram segment) :
    (stepsRead segment).map Prod.fst =
        List.iterate (· + 1) client.joinStateId (stepsRead segment).length ∧
      (∀ step ∈ stepsRead segment, order.Brought segment step.1 step.2) ∧
      expectedStepIdFromServer
          (buffersAfter client datagram segment).authoritativePendingStepsFromServer =
        L.expectedWriteId (buffersAfter client datagram segment).authoritativeStepsFromServer := by
  have hstart := aligned_of_reset hlaws (L.nbsStepsReInit client.outSteps client.joinStateId)
    client.authoritativePendingStepsFromServer client.authoritativeStepsFromServer
    client.joinStateId
  rw [← h.buffersAfter_nil] at hstart
  have haligned := h.trace.invariant_of_guard
    (fun _ _ _ _ haligned hstep hlasts => haligned.step hlaws hstep hlasts) hstart h.lasts
  obtain ⟨hids, hbrought⟩ := haligned.delivers.taken_in_order
  exact ⟨hids, hbrought, haligned.expected⟩

/-! ## A run that reorders -/

namespace Reordering

/-- The steps that a stream carries are the ones that can be parsed from it. -/
def stepOrder : StepOrder reorderingLibraries where
  held := EarlySteps.held
  contents := LabelledSteps.steps
  Carries stream stepId payload := ∃ steps, stepsOf stream = some steps ∧ (stepId, payload) ∈ steps

theorem EarlySteps.expectedId_hold (p : EarlySteps) (step : StepId × List UInt8) :
    (p.hold step).expectedId = p.expectedId := by
  rw [hold]
  split <;> rfl

theorem EarlySteps.held_hold {p : EarlySteps} {step : StepId × List UInt8} {i : StepId}
    {payload : List UInt8} (h : (p.hold step).held i = some payload) :
    p.held i = some payload ∨ (i, payload) = step := by
  unfold hold at h
  split at h
  · change Function.update p.held step.1 (some step.2) i = some payload at h
    by_cases hi : i = step.1
    · rw [hi, Function.update_self] at h
      exact Or.inr (Prod.ext hi (Option.some.inj h).symm)
    · rw [Function.update_of_ne hi] at h
      exact Or.inl h
  · exact Or.inl h

theorem EarlySteps.receives_foldl (received : List (StepId × List UInt8)) (s : LabelledSteps)
    (p : EarlySteps) : Receives (fun i payload => (i, payload) ∈ received)
      (stepOrder.buffer p s) (stepOrder.buffer (received.foldl hold p) s) := by
  induction received generalizing p with
  | nil => exact ⟨rfl, rfl, fun _ _ => Or.inl⟩
  | cons step received ih =>
      have hrest := ih (p.hold step)
      refine ⟨hrest.expected.trans (p.expectedId_hold step), rfl, fun i payload hheld => ?_⟩
      rcases hrest.held i payload hheld with hearlier | hmem
      · rcases held_hold hearlier with hbefore | rfl
        · exact Or.inl hbefore
        · exact Or.inr List.mem_cons_self
      · exact Or.inr (List.mem_cons_of_mem _ hmem)

/-- A write is refused, or it appends the step and moves the next id by one. -/
theorem LabelledSteps.write_cases (s : LabelledSteps) (id : StepId) (octets : List UInt8) :
    (s.write id octets).1 < 0 ∧ (s.write id octets).2 = s ∨
      0 ≤ (s.write id octets).1 ∧ id = s.expectedWriteId ∧
        (s.write id octets).2 = ⟨id + 1, s.steps ++ [(id, octets)]⟩ := by
  rw [write]
  split
  · exact Or.inr ⟨Int.natCast_nonneg _, ‹_ ∧ _›.1, rfl⟩
  · exact Or.inl ⟨Int.negSucc_lt_zero 1, rfl⟩

/-- A step that is written is released. -/
theorem EarlySteps.releases_write {s : LabelledSteps} {p : EarlySteps} {octets : List UInt8}
    (hheld : p.held p.expectedId = some octets) (hwrites : ¬(s.write p.expectedId octets).1 < 0) :
    Releases (· + 1) [(p.expectedId, octets)] (stepOrder.buffer p s)
        (stepOrder.buffer ⟨p.expectedId + 1, Function.update p.held p.expectedId none⟩
          (s.write p.expectedId octets).2) ∧
      (s.write p.expectedId octets).2.expectedWriteId = s.expectedWriteId + 1 := by
  rcases s.write_cases p.expectedId octets with ⟨hfull, _⟩ | ⟨_, hid, hwrite⟩
  · exact absurd hfull hwrites
  rw [hwrite]
  refine ⟨⟨.cons octets (.nil _), ?_, rfl, fun i payload h => ?_⟩, by rw [hid]⟩
  · rintro step hstep
    obtain rfl := List.mem_singleton.mp hstep
    exact hheld
  · change Function.update p.held p.expectedId none i = some payload at h
    by_cases hi : i = p.expectedId
    · rw [hi, Function.update_self] at h
      cases h
    · rwa [Function.update_of_ne hi] at h

/-- What is moved is released, and the next id of the steps keeps up with it. -/
theorem EarlySteps.releases_move (count : Nat) (s : LabelledSteps) (p : EarlySteps) :
    ∃ moved, Releases (· + 1) moved (stepOrder.buffer p s)
        (stepOrder.buffer (move count s p).2 (move count s p).1) ∧
      (move count s p).1.expectedWriteId = (· + 1)^[moved.length] s.expectedWriteId := by
  fun_induction move count s p with
  | case1 s p => exact ⟨[], .refl _, rfl⟩
  | case2 count s p hnone => exact ⟨[], .refl _, rfl⟩
  | case3 count s p octets hheld hfull => exact ⟨[], .refl _, rfl⟩
  | case4 count s p octets hheld hwrites ih =>
      obtain ⟨moved, hreleases, hexpected⟩ := ih
      obtain ⟨hfirst, hnext⟩ := releases_write hheld hwrites
      rw [hnext] at hexpected
      exact ⟨_ :: moved, hfirst.append hreleases, hexpected⟩

theorem laws_stepOrder : stepOrder.Laws where
  pendingReset _ _ := ⟨rfl, fun _ => rfl⟩
  reInit _ _ := ⟨rfl, rfl⟩
  inSerialize stream pending steps := by
    change Receives _ _ (stepOrder.buffer (EarlySteps.inSerialize stream pending).2 steps)
    rw [EarlySteps.inSerialize]
    cases hsteps : stepsOf stream with
    | none => exact ⟨rfl, rfl, fun _ _ => Or.inl⟩
    | some received =>
        have hreceives := EarlySteps.receives_foldl received steps pending
        exact ⟨hreceives.expected, rfl, fun i payload hheld =>
          (hreceives.held i payload hheld).imp_right fun hmem => ⟨received, hsteps, hmem⟩⟩
  copy steps pending := EarlySteps.releases_move LabelledSteps.capacity steps pending
  read steps maxTarget := by
    change (steps.read maxTarget).2.2.expectedWriteId = steps.expectedWriteId ∧
      steps.steps = (steps.read maxTarget).2.1.toList ++ (steps.read maxTarget).2.2.steps
    rw [LabelledSteps.read]
    split
    · exact ⟨rfl, rfl⟩
    split
    · exact ⟨rfl, ‹_›⟩
    · exact ⟨rfl, rfl⟩

/-- Steps arrive before their turn and several times, and more of them than there is room for. -/
def reorderedCalls : List (Operation reorderingLibraries) :=
  [update [Small.stepResponse 4 0 12 [3, 4]], update [Small.stepResponse 5 0 10 [1, 2, 3]],
    .readStep 4, .readStep 4, update [Small.stepResponse 6 0 10 [1, 2, 3]], .readStep 4,
    .readStep 4, .readStep 4]

end Reordering

open Reordering in
/-- The four steps are read in order all the same. -/
theorem authoritative_steps_in_order_reordered :
    stepsRead (segment reorderedCalls) = [(10, [1]), (11, [2]), (12, [3]), (13, [4])] ∧
    (stepsRead (segment reorderedCalls)).map Prod.fst =
        List.iterate (· + 1) adoptingClient.joinStateId (stepsRead (segment reorderedCalls)).length ∧
      (∀ step ∈ stepsRead (segment reorderedCalls),
        stepOrder.Brought (segment reorderedCalls) step.1 step.2) ∧
      expectedStepIdFromServer (buffersAfter adoptingClient lastPart
          (segment reorderedCalls)).authoritativePendingStepsFromServer =
        (buffersAfter adoptingClient lastPart
          (segment reorderedCalls)).authoritativeStepsFromServer.expectedWriteId :=
  ⟨by decide +kernel, authoritative_steps_in_order stepOrder laws_stepOrder
    (sinceAdoption_segment reorderedCalls (by decide +kernel))⟩

end Nimble
