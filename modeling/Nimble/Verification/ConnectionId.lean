import Nimble.Model.SmallLibraries
import Nimble.Verification.SequenceIds

/-! # The remote connection id

The client asserts that the id is not zero when a connect response has assigned it and whenever
it writes a header. -/

namespace Nimble

variable {L : Libraries}

/-! ## Feeds -/

instance (x : Dispatch L) : Decidable x.Connects :=
  inferInstanceAs (Decidable (_ ∧ _ ∧ _))

/-- Only an accepted connect response assigns the id. -/
theorem Dispatch.remoteConnectionId_outcome (x : Dispatch L) :
    x.outcome.2.remoteConnectionId =
      if x.Connects then (connectFields x.inStream x.locals).2.connectionId
      else x.client.remoteConnectionId := by
  have heffect := x.effect
  generalize x.outcome.2 = client at heffect ⊢
  cases heffect with
  | connect h => rw [if_pos h]
  | ignore h => rw [if_neg h.connects]
  | takePart h => exact (if_neg (by simp [Connects, h.1])).symm
  | adoptBlob h => exact (if_neg (by simp [Connects, h.1.1])).symm
  | takeSteps h => exact (if_neg (by simp [Connects, h.1])).symm
  | failSteps h => exact (if_neg (by simp [Connects, h])).symm
  | join h => exact (if_neg (by simp [Connects, h.1])).symm
  | startDownload h => exact (if_neg (by simp [Connects, h.1])).symm
  | outOfSlots h => exact (if_neg (by simp [Connects, h])).symm

/-- The id that a feed assigns, which the handler asserts to be non-zero. -/
def connectionId? (client : NimbleClient L) (datagram : Datagram L) : Option UInt8 :=
  (dispatch? client datagram).bind fun x =>
    if x.Connects then some (connectFields x.inStream x.locals).2.connectionId else none

theorem headerKeeps_remoteConnectionId : HeaderKeeps (@NimbleClient.remoteConnectionId L) :=
  headerKeeps_of fun _ _ _ _ _ _ => rfl

theorem remoteConnectionId_nimbleClientFeed (self : NimbleClient L) (datagram : Datagram L) :
    (nimbleClientFeed self datagram).2.remoteConnectionId =
      (connectionId? self datagram).getD self.remoteConnectionId := by
  cases hx : dispatch? self datagram with
  | none =>
      simp only [connectionId?, hx, Option.bind_none, Option.getD_none]
      exact headerKeeps_remoteConnectionId.of_dispatch_eq_none hx
  | some x =>
      simp only [connectionId?, hx, Option.bind_some]
      rw [nimbleClientFeed_of_dispatch hx, x.remoteConnectionId_outcome,
        headerKeeps_remoteConnectionId.of_dispatch hx]
      split <;> rfl

/-- The ids that a list of feeds assigns. -/
def connections (fed : List (NimbleClient L × Datagram L)) : List UInt8 :=
  fed.filterMap fun f => connectionId? f.1 f.2

theorem remoteConnectionId_receiveLoop (self : NimbleClient L) (count : Nat)
    (queue : List (Received L)) :
    (receiveLoop self count queue).client.remoteConnectionId =
      (connections (feeds self queue)).getLastD self.remoteConnectionId := by
  induction queue generalizing self count with
  | nil => rfl
  | cons received queue ih =>
      cases received with
      | error code => rfl
      | datagram datagram =>
          by_cases hoctets : datagram.octets = []
          · rw [feeds_of_empty hoctets, receiveLoop_of_empty hoctets]
            exact rfl
          have hfed := remoteConnectionId_nimbleClientFeed self.countPacketIn datagram
          have hcons : ∀ rest, (connections ((self.countPacketIn, datagram) :: rest)).getLastD
              self.remoteConnectionId = (connections rest).getLastD
                (nimbleClientFeed self.countPacketIn datagram).2.remoteConnectionId := by
            intro rest
            rw [hfed]
            unfold connections
            rw [List.filterMap_cons]
            cases hid : connectionId? self.countPacketIn datagram with
            | none => simp only [Option.getD_none, NimbleClient.countPacketIn]
            | some id => simp only [Option.getD_some, List.getLastD_cons]
          rw [receiveLoop_datagram hoctets, feeds_datagram hoctets, hcons]
          split
          · rfl
          · exact ih _ _

theorem remoteConnectionId_received (self : NimbleClient L) (input : UpdateInput L) :
    (self.received input).client.remoteConnectionId =
      (connections (feeds (beginUpdate self input.now) input.queue)).getLastD
        self.remoteConnectionId := by
  obtain ⟨_, _, _, _, h⟩ := beginUpdate_eq self input.now
  have hbegin : (beginUpdate self input.now).remoteConnectionId = self.remoteConnectionId := by
    rw [h]
  rw [NimbleClient.received]
  rw [remoteConnectionId_receiveLoop, hbegin]

theorem remoteConnectionId_nimbleClientUpdate (self : NimbleClient L) (input : UpdateInput L) :
    (nimbleClientUpdate self input).client.remoteConnectionId =
      (connections (feeds (beginUpdate self input.now) input.queue)).getLastD
        self.remoteConnectionId := by
  obtain ⟨_, h⟩ := client_nimbleClientUpdate self input
  rw [h, ← remoteConnectionId_received]
  rfl

theorem remoteConnectionId_updateSender (self : NimbleClient L) (input : UpdateInput L) :
    (updateSender self input).remoteConnectionId =
      (connections (feeds (beginUpdate self input.now) input.queue)).getLastD
        self.remoteConnectionId := by
  obtain ⟨_, _, h⟩ := watched_eq (self.received input).client
  rw [updateSender, h, ← remoteConnectionId_received]
  rfl

/-! ## Calls -/

/-- The ids that are assigned on the way of a call. -/
def operationConnections (self : NimbleClientRealize L) (operation : Operation L) :
    List UInt8 :=
  connections (operationFeeds self operation)

theorem operationConnections_of_update {self : NimbleClientRealize L} {operation : Operation L}
    {input : UpdateInput L} (h : clientUpdate? self operation = some input) :
    operationConnections self operation =
      connections (feeds (beginUpdate self.client input.now) input.queue) := by
  simp only [operationConnections, operationFeeds, h]

theorem remoteConnectionId_updatedClient (self : NimbleClientRealize L)
    (operation : Operation L) :
    (updatedClient self operation).remoteConnectionId =
      (operationConnections self operation).getLastD self.client.remoteConnectionId := by
  rw [updatedClient, operationConnections, operationFeeds]
  cases clientUpdate? self operation with
  | none => rfl
  | some input => exact remoteConnectionId_nimbleClientUpdate self.client input

theorem remoteConnectionId_nimbleClientReset (self : NimbleClient L) (now : MonotonicTimeMs) :
    (nimbleClientReset self now).remoteConnectionId = self.remoteConnectionId := by
  unfold nimbleClientReset
  dsimp only
  obtain ⟨_, _, h⟩ := freeGameState_eq _
  rw [h]

/-- Initialization clears the id, and no reset does. -/
theorem remoteConnectionId_performOperation (self : NimbleClientRealize L)
    (operation : Operation L) :
    (performOperation self operation).1.client.remoteConnectionId =
      if operation matches .realizeInit _ _ then 0
      else (operationConnections self operation).getLastD self.client.remoteConnectionId := by
  cases operation with
  | realizeInit settings now => exact remoteConnectionId_nimbleClientReset _ now
  | realizeReInit settings now => exact remoteConnectionId_nimbleClientReset _ now
  | realizeReset now => exact remoteConnectionId_nimbleClientReset _ now
  | reset now => exact remoteConnectionId_nimbleClientReset _ now
  | reInit transport now => exact remoteConnectionId_nimbleClientReset _ now
  | update input => exact remoteConnectionId_nimbleClientUpdate self.client input
  | outgoing input =>
      obtain ⟨_, h⟩ := sendsTo_nimbleClientOutgoing self.client input
      exact (congrArg NimbleClient.remoteConnectionId h).trans rfl
  | realizeUpdate input =>
      obtain ⟨_, _, _, hclient⟩ := client_realizeUpdate self input
      rw [hclient]
      exact remoteConnectionId_updatedClient self (.realizeUpdate input)
  | _ => rfl

/-- The id of a client that sends. -/
theorem remoteConnectionId_of_outgoingCall {self : NimbleClientRealize L}
    {operation : Operation L} {call : NimbleClient L × OutgoingInput}
    (h : call ∈ outgoingCall? self operation) :
    call.1.remoteConnectionId =
      (operationConnections self operation).getLastD self.client.remoteConnectionId := by
  have hupdate : (clientUpdate? self operation).bind (updateCall? self.client) = some call →
      call.1.remoteConnectionId =
        (operationConnections self operation).getLastD self.client.remoteConnectionId := by
    intro hcall
    obtain ⟨input, hinput, hcall⟩ := Option.bind_eq_some_iff.mp hcall
    rw [operationConnections_of_update hinput, ← remoteConnectionId_updateSender]
    unfold updateCall? at hcall
    split at hcall
    · cases hcall
    · rw [← Option.some.inj hcall]
  cases operation with
  | outgoing input =>
      rw [← Option.some.inj h]
      rfl
  | _ => exact hupdate h

/-! ## Runs -/

/-- The ids that have been assigned since the client was last initialized. -/
def assignedIds (ids : List UInt8) (start : NimbleClientRealize L) :
    List (Operation L) → List UInt8
  | [] => ids
  | operation :: operations =>
    assignedIds
      (if operation matches .realizeInit _ _ then []
        else ids ++ operationConnections start operation)
      (performOperation start operation).1 operations

theorem remoteConnectionId_run {ids : List UInt8} {start : NimbleClientRealize L}
    (hids : start.client.remoteConnectionId = ids.getLastD 0) (operations : List (Operation L)) :
    ((realizer L).run start operations).client.remoteConnectionId =
      (assignedIds ids start operations).getLastD 0 := by
  induction operations generalizing ids start with
  | nil => exact hids
  | cons operation operations ih =>
      refine ih ?_
      refine (remoteConnectionId_performOperation start operation).trans ?_
      split
      · rfl
      · rw [hids]
        simp [List.getLast?_append]

theorem mem_assignedIds {ids : List UInt8} {start : NimbleClientRealize L}
    {operations : List (Operation L)} {id : UInt8} (h : id ∈ assignedIds ids start operations) :
    id ∈ ids ∨ ∃ v ∈ (realizer L).visits start operations, id ∈ operationConnections v.1 v.2 := by
  induction operations generalizing ids start with
  | nil => exact Or.inl h
  | cons operation operations ih =>
      rcases ih h with hmem | ⟨v, hv, hid⟩
      · split at hmem
        · simp at hmem
        · rcases List.mem_append.mp hmem with hmem | hmem
          · exact Or.inl hmem
          · exact Or.inr ⟨_, List.mem_cons_self, hmem⟩
      · exact Or.inr ⟨v, List.mem_cons_of_mem _ hv, hid⟩

/-! ## The assertions -/

/-- The states in which `nimbleClientOutgoing` writes a header. -/
def NimbleClient.WritesHeader (self : NimbleClient L) : Prop :=
  self.state = .requestingConnect ∨ self.state = .joiningRequestingState ∨
    self.state = .joiningDownloadingState ∨ self.state = .synced

theorem writeHeader_mem_sendMessageDatagram (self : NimbleClient L) (input : OutgoingInput)
    (id : UInt8) : .writeHeader id ∈ (sendMessageDatagram self input).events ↔
      id = self.remoteConnectionId := by
  have hsilent : .writeHeader id ∉ (outgoingMessage self input).events := by
    intro hmem
    cases (silent_sendMessageUsingStream _ _).2 _ hmem
  rw [sendMessageDatagram_eq]
  dsimp only
  split
  · simp [hsilent]
  · split <;> simp [hsilent]

theorem writeHeader_mem_nimbleClientSendStepsToServer (self : NimbleClient L)
    (input : OutgoingInput) (id : UInt8) :
    .writeHeader id ∈ (nimbleClientSendStepsToServer self input).events ↔
      id = self.remoteConnectionId := by
  rw [nimbleClientSendStepsToServer]
  dsimp only
  split <;> simp

theorem writeHeader_mem_nimbleClientOutgoing (self : NimbleClient L) (input : OutgoingInput)
    (id : UInt8) : .writeHeader id ∈ (nimbleClientOutgoing self input).events ↔
      self.WritesHeader ∧ id = self.remoteConnectionId := by
  have hmessage := writeHeader_mem_sendMessageDatagram self input id
  rw [events_nimbleClientOutgoing]
  rw [handleState, NimbleClient.WritesHeader]
  cases hstate : self.state with
  | requestingConnect => simpa using hmessage
  | joiningRequestingState => simpa using hmessage
  | joiningDownloadingState => simpa using hmessage
  | synced =>
      have hsteps := writeHeader_mem_nimbleClientSendStepsToServer self input id
      obtain ⟨_, hclient⟩ := sendsTo_nimbleClientSendStepsToServer self input
      have hsame : (nimbleClientSendStepsToServer self input).client.remoteConnectionId =
          self.remoteConnectionId := by
        rw [hclient]
        rfl
      have hmore := writeHeader_mem_sendMessageDatagram
        (nimbleClientSendStepsToServer self input).client input id
      rw [hsame] at hmore
      dsimp only
      split
      · simpa using hsteps
      · rw [List.mem_append, hsteps, hmore]
        simp
  | _ => simp

/-- The assertions that a call meets on its way hold. -/
structure AssertionsHold (realize : NimbleClientRealize L) (operation : Operation L) : Prop where
  header : ∀ id, .writeHeader id ∈ (performOperation realize operation).2.events → id ≠ 0
  connectResponse : ∀ id ∈ operationConnections realize operation, id ≠ 0

theorem header_iff (self : NimbleClientRealize L) (operation : Operation L) :
    (∀ id, .writeHeader id ∈ (performOperation self operation).2.events → id ≠ 0) ↔
      ∀ call ∈ outgoingCall? self operation, call.1.WritesHeader →
        (operationConnections self operation).getLastD self.client.remoteConnectionId ≠ 0 := by
  simp only [events_performOperation, mem_callEvents, writeHeader_mem_nimbleClientOutgoing]
  constructor
  · intro h call hcall hwrites
    rw [← remoteConnectionId_of_outgoingCall hcall]
    exact h _ ⟨call, hcall, hwrites, rfl⟩
  · rintro h id ⟨call, hcall, hwrites, rfl⟩
    rw [remoteConnectionId_of_outgoingCall hcall]
    exact h call hcall hwrites

/-- The assertions hold throughout a run exactly when no connect response that is accepted
carries the id 0, and no header is written before the first one that was accepted since the
client was initialized. -/
theorem connection_assertions (memory : NimbleClientRealize L)
    (settings : NimbleClientRealizeSettings L) (now : MonotonicTimeMs)
    (operations : List (Operation L)) :
    let start := nimbleClientRealizeInit memory settings now
    (∀ v ∈ (realizer L).visits start operations, AssertionsHold v.1 v.2) ↔
      (∀ v ∈ (realizer L).visits start operations, ∀ id ∈ operationConnections v.1 v.2,
        id ≠ 0) ∧
      ∀ before operation after, operations = before ++ operation :: after →
        ∀ call ∈ outgoingCall? ((realizer L).run start before) operation, call.1.WritesHeader →
          assignedIds [] start before ++
            operationConnections ((realizer L).run start before) operation ≠ [] := by
  intro start
  have hstart : start.client.remoteConnectionId = ([] : List UInt8).getLastD 0 :=
    remoteConnectionId_nimbleClientReset _ now
  have hlast : ∀ before operation,
      (operationConnections ((realizer L).run start before) operation).getLastD
        ((realizer L).run start before).client.remoteConnectionId =
      (assignedIds [] start before ++
        operationConnections ((realizer L).run start before) operation).getLastD 0 := by
    intro before operation
    rw [remoteConnectionId_run hstart before]
    simp [List.getLast?_append]
  constructor
  · intro h
    refine ⟨fun v hv => (h v hv).connectResponse, ?_⟩
    intro before operation after heq call hcall hwrites hnil
    have hv := ((realizer L).mem_visits_iff start operations (_, operation)).mpr
      ⟨before, after, heq, rfl⟩
    have hid := (header_iff _ _).mp (h _ hv).header call hcall hwrites
    rw [hlast before operation, hnil] at hid
    exact hid rfl
  · rintro ⟨hassigned, hcalls⟩ v hv
    refine ⟨(header_iff _ _).mpr fun call hcall hwrites => ?_, hassigned v hv⟩
    obtain ⟨before, after, heq, hrun⟩ := ((realizer L).mem_visits_iff start operations v).mp hv
    have hnonzero : ∀ id ∈ assignedIds [] start before ++
        operationConnections ((realizer L).run start before) v.2, id ≠ 0 := by
      intro id hid
      rcases List.mem_append.mp hid with hid | hid
      · obtain hnil | ⟨w, hw, hid⟩ := mem_assignedIds hid
        · simp at hnil
        · refine hassigned w ?_ id hid
          rw [heq, Machine.visits_append]
          exact List.mem_append_left _ hw
      · exact hassigned v hv id (by rw [hrun]; exact hid)
    rw [hrun] at hcall ⊢
    have hsome := hcalls before v.2 after heq call hcall hwrites
    rw [hlast before v.2, List.getLastD_eq_getLast?, List.getLast?_eq_getLast_of_ne_nil hsome]
    exact hnonzero _ (List.getLast_mem hsome)

/-! ## Runs on fixed inputs -/

namespace Small

/-- A realizer whose client is about to ask for a connection. -/
def requestingRealizer : NimbleClientRealize smallLibraries :=
  (realizer smallLibraries).run (freshRealizer 1) ((syncSession 10 5).take 2)

end Small

open Nimble.Small

/-- The header of every first connect request is written with the id 0, and a server can assign
the id 0 as well. -/
theorem connection_assertions_counterexample :
    Reachable requestingRealizer ∧
      (performOperation requestingRealizer (.realizeUpdate (updateWith []))).2.events.head?.any
        (fun | .writeHeader id => id = 0 | _ => false) = true ∧
      connectionId? requestingRealizer.client (packet 1 .connectResponse [0, 0]) = some 0 :=
  ⟨⟨_, _, _, _, rfl⟩, by decide +kernel⟩

end Nimble
