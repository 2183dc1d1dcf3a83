import Nimble.Library.Trace
import Nimble.Model.ReorderingLibraries
import Nimble.Verification.GameState

/-! # The step buffers along a run

The events that touch the three step buffers, and what each does to them. -/

namespace Nimble

variable {L : Libraries}

structure StepBuffers (L : Libraries) where
  outSteps : L.NbsSteps
  authoritativePendingStepsFromServer : L.NbsPendingSteps
  authoritativeStepsFromServer : L.NbsSteps

def ProtocolState.stepBuffers (self : ProtocolState L) : StepBuffers L where
  outSteps := self.outSteps
  authoritativePendingStepsFromServer := self.authoritativePendingStepsFromServer
  authoritativeStepsFromServer := self.authoritativeStepsFromServer

def NimbleClient.stepBuffers (self : NimbleClient L) : StepBuffers L :=
  self.protocolState.stepBuffers

/-! ## Events -/

/-- What happens to the buffers: the client has started over, is fed a datagram, hands a step to
the application, or is given one. -/
inductive BufferEvent (L : Libraries)
  | restart (client : NimbleClient L)
  | feed (client : NimbleClient L) (datagram : Datagram L)
  | read (client : NimbleClient L) (maxTarget : Nat)
  | write (client : NimbleClient L) (stepId : StepId) (octets : List UInt8)

/-- The buffers that an event finds. A client that starts over may come from anywhere. -/
def BufferEvent.Finds (buffers : StepBuffers L) : BufferEvent L → Prop
  | restart _ => True
  | feed client _ => client.stepBuffers = buffers
  | read client _ => client.stepBuffers = buffers
  | write client _ _ => client.stepBuffers = buffers

/-- The buffers that an event leaves. -/
def BufferEvent.after : BufferEvent L → StepBuffers L
  | restart client => client.stepBuffers
  | feed client datagram => (nimbleClientFeed client datagram).2.stepBuffers
  | read client maxTarget => (nimbleClientReadStep client maxTarget).2.2.stepBuffers
  | write client stepId octets =>
    { client.stepBuffers with outSteps := (L.nbsStepsWrite client.outSteps stepId octets).2 }

def BufferStep (before : StepBuffers L) (event : BufferEvent L) (after : StepBuffers L) : Prop :=
  event.Finds before ∧ event.after = after

/-- The events of one call. -/
def bufferEvents (self : NimbleClientRealize L) (operation : Operation L) :
    List (BufferEvent L) :=
  match operation with
  | .realizeInit _ _ => [.restart (performOperation self operation).1.client]
  | .realizeReInit _ _ => [.restart (performOperation self operation).1.client]
  | .realizeReset _ => [.restart (performOperation self operation).1.client]
  | .reset _ => [.restart (performOperation self operation).1.client]
  | .reInit _ _ => [.restart (performOperation self operation).1.client]
  | .readStep maxTarget => [.read self.client maxTarget]
  | .writeStep stepId octets => [.write self.client stepId octets]
  | _ => (operationFeeds self operation).map fun f => .feed f.1 f.2

/-- The events of a run, in order. -/
def runBufferEvents (start : NimbleClientRealize L) (operations : List (Operation L)) :
    List (BufferEvent L) :=
  ((realizer L).visits start operations).flatMap fun v => bufferEvents v.1 v.2

theorem runBufferEvents_append (start : NimbleClientRealize L) (past future : List (Operation L)) :
    runBufferEvents start (past ++ future) =
      runBufferEvents start past ++ runBufferEvents ((realizer L).run start past) future := by
  rw [runBufferEvents, Machine.visits_append, List.flatMap_append]
  rfl

/-! ## From event to event -/

theorem trace_feeds (self : NimbleClient L) (count : Nat) (queue : List (Received L)) :
    Trace BufferStep self.stepBuffers ((feeds self queue).map fun f => .feed f.1 f.2)
      (receiveLoop self count queue).client.stepBuffers := by
  induction queue generalizing self count with
  | nil => exact .nil _
  | cons received queue ih =>
      cases received with
      | error code => exact .nil _
      | datagram datagram =>
          by_cases hoctets : datagram.octets = []
          · rw [feeds_of_empty hoctets, receiveLoop_of_empty hoctets]
            exact .nil _
          rw [feeds_datagram hoctets, receiveLoop_datagram hoctets, List.map_cons]
          split
          · exact .cons ⟨rfl, rfl⟩ (.nil _)
          · exact .cons ⟨rfl, rfl⟩
              (ih (nimbleClientFeed self.countPacketIn datagram).2.receivedUsableDatagram
                (count + 1))

theorem trace_nimbleClientUpdate (self : NimbleClient L) (input : UpdateInput L) :
    Trace BufferStep self.stepBuffers
      ((feeds (beginUpdate self input.now) input.queue).map fun f => .feed f.1 f.2)
      (nimbleClientUpdate self input).client.stepBuffers := by
  have hbegin : (beginUpdate self input.now).stepBuffers = self.stepBuffers :=
    congrArg ProtocolState.stepBuffers (protocolState_beginUpdate self input.now)
  obtain ⟨_, hupdate⟩ := client_nimbleClientUpdate self input
  rw [hupdate, ← hbegin]
  exact trace_feeds _ 0 input.queue

/-- The update of a call leads through what it is fed. -/
theorem trace_updatedClient (self : NimbleClientRealize L) (operation : Operation L) :
    Trace BufferStep self.client.stepBuffers
      ((operationFeeds self operation).map fun f => .feed f.1 f.2)
      (updatedClient self operation).stepBuffers := by
  rw [operationFeeds, updatedClient]
  cases clientUpdate? self operation with
  | none => exact .nil _
  | some input => exact trace_nimbleClientUpdate self.client input

theorem trace_performOperation (self : NimbleClientRealize L) (operation : Operation L) :
    Trace BufferStep self.client.stepBuffers (bufferEvents self operation)
      (performOperation self operation).1.client.stepBuffers := by
  cases operation with
  | realizeInit settings now => exact .cons ⟨trivial, rfl⟩ (.nil _)
  | realizeReInit settings now => exact .cons ⟨trivial, rfl⟩ (.nil _)
  | realizeReset now => exact .cons ⟨trivial, rfl⟩ (.nil _)
  | reset now => exact .cons ⟨trivial, rfl⟩ (.nil _)
  | reInit transport now => exact .cons ⟨trivial, rfl⟩ (.nil _)
  | readStep maxTarget => exact .cons ⟨rfl, rfl⟩ (.nil _)
  | writeStep stepId octets => exact .cons ⟨rfl, rfl⟩ (.nil _)
  | realizeJoinGame options => exact .nil _
  | realizeQuitGame => exact .nil _
  | disconnect => exact .nil _
  | update input => exact trace_nimbleClientUpdate self.client input
  | outgoing input =>
      have hsent : (nimbleClientOutgoing self.client input).client.stepBuffers =
          self.client.stepBuffers := congrArg ProtocolState.stepBuffers
        (sendsTo_nimbleClientOutgoing self.client input).protocolState_eq
      change Trace BufferStep _ [] (nimbleClientOutgoing self.client input).client.stepBuffers
      rw [hsent]
      exact .nil _
  | realizeUpdate input =>
      have htrace := trace_updatedClient self (.realizeUpdate input)
      obtain ⟨_, _, _, hclient⟩ := client_realizeUpdate self input
      rw [hclient]
      exact htrace

theorem trace_run (start : NimbleClientRealize L) (operations : List (Operation L)) :
    Trace BufferStep start.client.stepBuffers (runBufferEvents start operations)
      ((realizer L).run start operations).client.stepBuffers := by
  induction operations generalizing start with
  | nil => exact .nil _
  | cons operation operations ih => exact (trace_performOperation start operation).append (ih _)

/-! ## Feeds -/

/-- Short of an adoption, a feed restarts `outSteps` when a game state response is accepted, and
works on all three buffers when a game step response arrives. -/
theorem Dispatch.stepBuffers_outcome {x : Dispatch L} (h : ¬x.AdoptsBlob) :
    x.outcome.2.stepBuffers =
      if x.StartsDownload then
        { x.client.stepBuffers with
          outSteps := L.nbsStepsReInit x.client.outSteps
            (gameStateFields x.inStream x.locals).stateId }
      else if x.command = some .gameStepResponse then
        { outSteps := L.nbsStepsDiscardUpTo x.client.outSteps
            (acknowledgedStepId x.client x.inStream x.locals + 1)
          authoritativePendingStepsFromServer :=
            (authoritativeBuffersAfter x.client x.inStream x.locals).2
          authoritativeStepsFromServer :=
            (authoritativeBuffersAfter x.client x.inStream x.locals).1 }
      else x.client.stepBuffers := by
  have heffect := x.effect
  generalize x.outcome.2 = client at heffect ⊢
  cases heffect with
  | adoptBlob hadopts => exact absurd hadopts h
  | startDownload hx =>
      rw [if_pos hx]
      rfl
  | takeSteps hx =>
      rw [if_neg (by simp [StartsDownload, hx.1]), if_pos hx.1]
      rfl
  | failSteps hx hfails =>
      have hbuffers : authoritativeBuffersAfter x.client x.inStream x.locals =
          (x.client.authoritativeStepsFromServer,
            (serializeSteps x.client x.inStream x.locals).2) :=
        if_pos (Int.not_le.mp fun hcode => hfails ⟨hx, hcode⟩)
      rw [if_neg (by simp [StartsDownload, hx]), if_pos hx, hbuffers]
      rfl
  | ignore hx => rw [if_neg hx.startsDownload, if_neg hx.steps]
  | connect hx =>
      rw [if_neg (by simp [StartsDownload, hx.1]), if_neg (by simp [hx.1])]
      rfl
  | takePart hx _ =>
      rw [if_neg (by simp [StartsDownload, hx.1]), if_neg (by simp [hx.1])]
      rfl
  | join hx =>
      rw [if_neg (by simp [StartsDownload, hx.1]), if_neg (by simp [hx.1])]
      rfl
  | outOfSlots hx =>
      rw [if_neg (by simp [StartsDownload, hx]), if_neg (by simp [hx])]
      rfl

/-! ## From an adoption on -/

/-- The event adopts a game state, or the client starts over. -/
def BufferEvent.Ends : BufferEvent L → Prop
  | restart _ => True
  | feed client datagram => (SessionEvent.feed client datagram).Adopts
  | read _ _ => False
  | write _ _ _ => False

instance (event : BufferEvent L) : Decidable event.Ends :=
  match event with
  | .restart _ => .isTrue trivial
  | .feed client datagram =>
    decidable_of_iff ((dispatch? client datagram).any (decide <| Dispatch.AdoptsBlob ·))
      (by simp [BufferEvent.Ends, SessionEvent.Adopts, SessionEvent.Feeds, Option.any_eq_true])
  | .read _ _ => .isFalse id
  | .write _ _ _ => .isFalse id

/-- In this run the feed adopts a game state, and the events of the segment come next: there is
no further adoption among them, and no restart. -/
structure SinceAdoption (start : NimbleClientRealize L) (operations : List (Operation L))
    (client : NimbleClient L) (datagram : Datagram L) (segment : List (BufferEvent L)) : Prop where
  run : ∃ past future,
    runBufferEvents start operations = past ++ .feed client datagram :: (segment ++ future)
  adopts : (SessionEvent.feed client datagram).Adopts
  lasts : ∀ event ∈ segment, ¬event.Ends

/-- The buffers after the feed and some events behind it. -/
def buffersAfter (client : NimbleClient L) (datagram : Datagram L)
    (events : List (BufferEvent L)) : StepBuffers L :=
  (events.getLastD (.feed client datagram)).after

@[simp] theorem buffersAfter_nil (client : NimbleClient L) (datagram : Datagram L) :
    buffersAfter client datagram [] = (nimbleClientFeed client datagram).2.stepBuffers := rfl

theorem eq_buffersAfter {client : NimbleClient L} {datagram : Datagram L}
    {events : List (BufferEvent L)} {buffers : StepBuffers L}
    (h : Trace BufferStep (buffersAfter client datagram []) events buffers) :
    buffers = buffersAfter client datagram events := by
  induction events using List.reverseRecOn with
  | nil => exact h.eq_of_nil
  | append_singleton events event ih =>
      obtain ⟨_, _, _, hafter⟩ := h.last
      rw [buffersAfter, List.getLastD_concat]
      exact hafter.symm

theorem SinceAdoption.trace {start : NimbleClientRealize L} {operations : List (Operation L)}
    {client : NimbleClient L} {datagram : Datagram L} {segment : List (BufferEvent L)}
    (h : SinceAdoption start operations client datagram segment) :
    Trace BufferStep (buffersAfter client datagram []) segment
      (buffersAfter client datagram segment) := by
  obtain ⟨past, future, hrun⟩ := h.run
  have htrace := trace_run start operations
  rw [hrun] at htrace
  obtain ⟨_, _, hfrom⟩ := htrace.split
  obtain ⟨_, ⟨_, hafter⟩, hrest⟩ := hfrom.head
  obtain ⟨_, hsegment, _⟩ := hrest.split
  rw [← hafter] at hsegment
  rw [← eq_buffersAfter hsegment]
  exact hsegment

/-- An adoption restarts all three buffers at the id of the game state. -/
theorem SinceAdoption.buffersAfter_nil {start : NimbleClientRealize L}
    {operations : List (Operation L)} {client : NimbleClient L} {datagram : Datagram L}
    {segment : List (BufferEvent L)}
    (h : SinceAdoption start operations client datagram segment) :
    buffersAfter client datagram [] =
      { outSteps := L.nbsStepsReInit client.outSteps client.joinStateId
        authoritativePendingStepsFromServer :=
          L.nbsPendingStepsReset client.authoritativePendingStepsFromServer client.joinStateId
        authoritativeStepsFromServer :=
          L.nbsStepsReInit client.authoritativeStepsFromServer client.joinStateId } := by
  have hstarts := startsAt_of_adopts h.adopts
  rw [← hstarts.outSteps, ← hstarts.authoritativePendingStepsFromServer,
    ← hstarts.authoritativeStepsFromServer]
  rfl

/-- An update that takes in one datagram, in the events of a run. -/
theorem runBufferEvents_of_update {start : NimbleClientRealize L} {past : List (Operation L)}
    (future : List (Operation L)) {input : UpdateInput L} {datagram : Datagram L}
    {self : NimbleClientRealize L} (hself : (realizer L).run start past = self)
    (hqueue : input.queue = [.datagram datagram]) (hoctets : datagram.octets ≠ []) :
    runBufferEvents start (past ++ .update input :: future) =
      runBufferEvents start past ++
        .feed (beginUpdate self.client input.now).countPacketIn datagram ::
          runBufferEvents (performOperation self (.update input)).1 future := by
  have hevents : bufferEvents self (.update input) =
      [.feed (beginUpdate self.client input.now).countPacketIn datagram] := by
    change (feeds (beginUpdate self.client input.now) input.queue).map _ = _
    rw [hqueue, feeds_singleton hoctets]
    rfl
  rw [runBufferEvents_append, hself]
  change runBufferEvents start past ++ (bufferEvents self (.update input) ++ _) = _
  rw [hevents]
  rfl

/-- Behind an update that takes in the one datagram that makes the client adopt a game state. -/
theorem sinceAdoption_of_update {start : NimbleClientRealize L} {past future : List (Operation L)}
    {input : UpdateInput L} {datagram : Datagram L} {self : NimbleClientRealize L}
    (hself : (realizer L).run start past = self) (hqueue : input.queue = [.datagram datagram])
    (hoctets : datagram.octets ≠ [])
    (hadopts : (BufferEvent.feed (beginUpdate self.client input.now).countPacketIn datagram).Ends)
    (hlasts : ∀ event ∈ runBufferEvents (performOperation self (.update input)).1 future,
      ¬event.Ends) :
    SinceAdoption start (past ++ .update input :: future)
      (beginUpdate self.client input.now).countPacketIn datagram
      (runBufferEvents (performOperation self (.update input)).1 future) := by
  refine ⟨⟨runBufferEvents start past, [], ?_⟩, hadopts, hlasts⟩
  rw [List.append_nil]
  exact runBufferEvents_of_update future hself hqueue hoctets

namespace Reordering

/-- What happens to the buffers in some calls behind an adoption. -/
def segment (operations : List (Operation reorderingLibraries)) :
    List (BufferEvent reorderingLibraries) :=
  runBufferEvents (performOperation downloadingRealizer (.update lastPartInput)).1 operations

theorem sinceAdoption_segment (operations : List (Operation reorderingLibraries))
    (hlasts : ∀ event ∈ segment operations, ¬event.Ends) :
    SinceAdoption freshRealizer (downloadSession 10 ++ .update lastPartInput :: operations)
      adoptingClient lastPart (segment operations) :=
  sinceAdoption_of_update rfl rfl (by decide) (by decide +kernel) hlasts

end Reordering

end Nimble
