import Nimble.Library.Queue
import Nimble.Library.Trace
import Nimble.Verification.BlobAcks
import Nimble.Verification.ConnectionId
import Nimble.Verification.Pacing

/-! # The phases of a session

What a session is for, as an automaton: the client asks for a connection, asks for the game
state, downloads it and adopts it. Every run of the realizer without restarts goes through this
automaton. -/

namespace Nimble

variable {L : Libraries}

/-! ## The automaton -/

inductive PhaseEvent
  /-- The realizer makes an idle client ask for a connection. -/
  | request
  /-- A connect response is accepted. -/
  | connect
  /-- The realizer makes a connected client ask for the game state. -/
  | requestState
  /-- A game state response is accepted. -/
  | announce
  /-- The downloaded game state is adopted. -/
  | adopt
  | disconnect
  deriving DecidableEq

/-- The server can announce a game state, and the client adopt one, in almost every phase. -/
inductive PhaseStep : NimbleClientState → PhaseEvent → NimbleClientState → Prop
  | request : PhaseStep .idle .request .requestingConnect
  | connect : PhaseStep .requestingConnect .connect .connected
  | requestState : PhaseStep .connected .requestState .joiningRequestingState
  | announce {s : NimbleClientState} (h : s ≠ .disconnected) :
      PhaseStep s .announce .joiningDownloadingState
  | adopt {s : NimbleClientState} (h : s ≠ .disconnected) (hsynced : s ≠ .synced) :
      PhaseStep s .adopt .synced
  | disconnect (s : NimbleClientState) : PhaseStep s .disconnect .disconnected

namespace NimbleClientState

/-- How far a session has got. Downloading and synced count alike: a synced client that accepts
another game state response downloads again. -/
def rank : NimbleClientState → Nat
  | idle => 0
  | requestingConnect => 1
  | connected => 2
  | joiningRequestingState => 3
  | joiningDownloadingState => 4
  | synced => 4
  | disconnected => 5

/-- The event that leads to a state. -/
def cause : NimbleClientState → Option PhaseEvent
  | idle => none
  | requestingConnect => some .request
  | connected => some .connect
  | joiningRequestingState => some .requestState
  | joiningDownloadingState => some .announce
  | synced => some .adopt
  | disconnected => some .disconnect

/-- The only way from `idle` to a state in front of the download. -/
def path : NimbleClientState → List PhaseEvent
  | requestingConnect => [.request]
  | connected => [.request, .connect]
  | joiningRequestingState => [.request, .connect, .requestState]
  | _ => []

end NimbleClientState

variable {s t : NimbleClientState} {e : PhaseEvent} {es : List PhaseEvent}

theorem PhaseStep.cause_eq (h : PhaseStep s e t) : t.cause = some e := by
  cases h <;> rfl

theorem PhaseStep.rank_le (h : PhaseStep s e t) : s.rank ≤ t.rank := by
  cases h with
  | announce hs => cases s <;> simp_all [NimbleClientState.rank]
  | adopt hs _ => cases s <;> simp_all [NimbleClientState.rank]
  | disconnect => cases s <;> simp [NimbleClientState.rank]
  | _ => simp [NimbleClientState.rank]

theorem rank_le_of_trace (h : Trace PhaseStep s es t) : s.rank ≤ t.rank := by
  induction h with
  | nil => exact le_rfl
  | cons hstep _ ih => exact hstep.rank_le.trans ih

/-- The latest event says which state the client is in. -/
theorem getLast?_of_trace (h : Trace PhaseStep s es t) (hne : es ≠ []) :
    es.getLast? = t.cause := by
  induction es using List.reverseRecOn with
  | nil => exact absurd rfl hne
  | append_singleton es e _ =>
      obtain ⟨_, _, hlast⟩ := h.last
      rw [hlast.cause_eq, List.getLast?_concat]

/-- In front of the download there is one way to each state. -/
theorem path_of_trace (h : Trace PhaseStep .idle es t) (ht : t.rank ≤ 3) : es = t.path := by
  induction es using List.reverseRecOn generalizing t with
  | nil => rw [h.eq_of_nil]; rfl
  | append_singleton es e ih =>
      obtain ⟨u, hes, hlast⟩ := h.last
      have hbefore := ih hes (hlast.rank_le.trans ht)
      subst hbefore
      cases hlast with
      | request => rfl
      | connect => rfl
      | requestState => rfl
      | announce => simp [NimbleClientState.rank] at ht
      | adopt => simp [NimbleClientState.rank] at ht
      | disconnect => simp [NimbleClientState.rank] at ht

/-- An event that always crosses a rank happens at most once, and not behind the rank. -/
theorem count_of_trace {k : Nat} (he : ∀ s t, PhaseStep s e t → s.rank < k ∧ k ≤ t.rank)
    (h : Trace PhaseStep s es t) :
    es.count e + (if t.rank < k then 1 else 0) ≤ if s.rank < k then 1 else 0 := by
  induction h with
  | nil => simp
  | @cons s t u f es hstep _ ih =>
      rw [List.count_cons]
      have hrank := hstep.rank_le
      by_cases hf : f = e
      · obtain ⟨hs, ht⟩ := he s t (hf ▸ hstep)
        rw [if_neg (not_lt.mpr ht)] at ih
        simp [hf, hs]
        omega
      · simp only [beq_iff_eq, hf, ↓reduceIte, add_zero]
        refine ih.trans ?_
        split <;> split <;> omega

/-! ## Feeds and moves -/

def Dispatch.phase? (x : Dispatch L) : Option PhaseEvent :=
  if x.Connects then some .connect
  else if x.StartsDownload then some .announce
  else if x.AdoptsBlob then some .adopt
  else none

theorem Dispatch.phase?_of_command {x : Dispatch L} {cmd : NimbleSerializeCmd}
    (h : x.command = some cmd) (hconnect : cmd ≠ .connectResponse)
    (hstate : cmd ≠ .gameStateResponse) (hblob : cmd ≠ .serverOutBlobStream) :
    x.phase? = none := by
  rw [phase?, if_neg (by simp [Connects, h, hconnect]),
    if_neg (by simp [StartsDownload, h, hstate]),
    if_neg (by simp [AdoptsBlob, TakesPart, h, hblob])]

/-- An event has the effect of its name on the state, and a command without an event none. -/
theorem Dispatch.trace_phase (x : Dispatch L) (hconnected : x.client.state ≠ .disconnected) :
    Trace PhaseStep x.client.state x.phase?.toList x.outcome.2.state := by
  have heffect := x.effect
  generalize x.outcome.2 = client at heffect ⊢
  cases heffect with
  | connect h =>
      rw [phase?, if_pos h, h.2.2]
      exact .cons .connect (.nil _)
  | startDownload h =>
      rw [phase?, if_neg (by simp [Connects, h.1]), if_pos h]
      exact .cons (.announce hconnected) (.nil _)
  | adoptBlob h =>
      rw [phase?, if_neg (by simp [Connects, h.1.1]), if_neg (by simp [StartsDownload, h.1.1]),
        if_pos h]
      exact .cons (.adopt hconnected h.2.2) (.nil _)
  | takePart h hadopts =>
      rw [phase?, if_neg (by simp [Connects, h.1]), if_neg (by simp [StartsDownload, h.1]),
        if_neg hadopts]
      exact .nil _
  | ignore h =>
      rw [phase?, if_neg h.connects, if_neg h.startsDownload, if_neg fun ha => h.takesPart ha.1]
      exact .nil _
  | takeSteps h => rw [phase?_of_command h.1 (by simp) (by simp) (by simp)]; exact .nil _
  | failSteps h => rw [phase?_of_command h (by simp) (by simp) (by simp)]; exact .nil _
  | join h => rw [phase?_of_command h.1 (by simp) (by simp) (by simp)]; exact .nil _
  | outOfSlots h => rw [phase?_of_command h (by simp) (by simp) (by simp)]; exact .nil _

def feedPhase? (f : NimbleClient L × Datagram L) : Option PhaseEvent :=
  (dispatch? f.1 f.2).bind Dispatch.phase?

theorem state_of_dispatch {self : NimbleClient L} {datagram : Datagram L} {x : Dispatch L}
    (h : dispatch? self datagram = some x) :
    x.client.state = self.state ∧ self.state ≠ .disconnected := by
  refine ⟨congrArg ProtocolState.state (protocolState_of_dispatch h), fun hstate => ?_⟩
  rw [dispatch?, if_pos (Or.inr hstate)] at h
  cases h

theorem trace_feedPhase (self : NimbleClient L) (datagram : Datagram L) :
    Trace PhaseStep self.state (feedPhase? (self, datagram)).toList
      (nimbleClientFeed self datagram).2.state := by
  cases hx : dispatch? self datagram with
  | none =>
      have hstate : (nimbleClientFeed self datagram).2.state = self.state :=
        congrArg ProtocolState.state (protocolState_feed_of_dispatch_eq_none hx)
      simp only [feedPhase?, hx, Option.bind_none, Option.toList_none, hstate]
      exact .nil _
  | some x =>
      obtain ⟨hstate, hconnected⟩ := state_of_dispatch hx
      simp only [feedPhase?, hx, Option.bind_some]
      rw [nimbleClientFeed_of_dispatch hx, ← hstate]
      exact x.trace_phase (hstate ▸ hconnected)

theorem trace_receiveLoop (self : NimbleClient L) (count : Nat) (queue : List (Received L)) :
    Trace PhaseStep self.state ((feeds self queue).filterMap feedPhase?)
      (receiveLoop self count queue).client.state := by
  induction queue generalizing self count with
  | nil => exact .nil _
  | cons received queue ih =>
      cases received with
      | error code => exact .nil _
      | datagram datagram =>
          by_cases hoctets : datagram.octets = []
          · rw [feeds_of_empty hoctets, receiveLoop_of_empty hoctets]
            exact .nil _
          have hfeed := trace_feedPhase self.countPacketIn datagram
          have hcons : ∀ fed : List (NimbleClient L × Datagram L),
              ((self.countPacketIn, datagram) :: fed).filterMap feedPhase? =
                (feedPhase? (self.countPacketIn, datagram)).toList ++
                  fed.filterMap feedPhase? := by
            intro fed
            rw [List.filterMap_cons]
            cases feedPhase? (self.countPacketIn, datagram) <;> rfl
          rw [feeds_datagram hoctets, receiveLoop_datagram hoctets, hcons]
          split
          · rw [List.filterMap_nil, List.append_nil]
            exact hfeed
          · exact hfeed.append
              (ih (nimbleClientFeed self.countPacketIn datagram).2.receivedUsableDatagram _)

/-- A move of the state behind the feeds, by the watchdog, the realizer or the application. -/
def phaseMove (s t : NimbleClientState) : List PhaseEvent :=
  if t = s then [] else t.cause.toList

theorem trace_phaseMove (h : t = s ∨ s = .idle ∧ t = .requestingConnect ∨
    s = .connected ∧ t = .joiningRequestingState ∨ t = .disconnected) :
    Trace PhaseStep s (phaseMove s t) t := by
  rw [phaseMove]
  split
  · rename_i hsame
    rw [hsame]
    exact .nil s
  · rcases h with hsame | ⟨rfl, rfl⟩ | ⟨rfl, rfl⟩ | rfl
    · contradiction
    · exact .cons .request (.nil _)
    · exact .cons .requestState (.nil _)
    · exact .cons (.disconnect s) (.nil _)

theorem not_mem_phaseMove (h : t = s ∨ s = .idle ∧ t = .requestingConnect ∨
    s = .connected ∧ t = .joiningRequestingState ∨ t = .disconnected) :
    .connect ∉ phaseMove s t := by
  rw [phaseMove]
  split
  · simp
  · rcases h with hsame | ⟨_, rfl⟩ | ⟨_, rfl⟩ | rfl
    · contradiction
    all_goals simp [NimbleClientState.cause]

/-! ## Calls -/

/-- Behind its receive loop an update keeps the state or disconnects. -/
theorem state_nimbleClientUpdate (self : NimbleClient L) (input : UpdateInput L) :
    (nimbleClientUpdate self input).client.state = (self.received input).client.state ∨
      (nimbleClientUpdate self input).client.state = .disconnected := by
  by_cases hcut : self.IsCutShort input
  · rw [nimbleClientUpdate_of_cutShort hcut]
    exact Or.inl rfl
  · rw [nimbleClientUpdate_of_not_cutShort hcut, state_finishUpdate]
    rcases protocolState_watched (self.received input).client with h | ⟨_, h⟩
    · exact Or.inl (congrArg ProtocolState.state h)
    · exact Or.inr (congrArg ProtocolState.state h)

/-- The events of the update that a call makes, if it makes one. -/
def updatePhases (self : NimbleClientRealize L) (operation : Operation L) : List PhaseEvent :=
  match clientUpdate? self operation with
  | some input =>
    (operationFeeds self operation).filterMap feedPhase? ++
      phaseMove (self.client.received input).client.state
        (nimbleClientUpdate self.client input).client.state
  | none => []

/-- The events of a call. -/
def callPhases (self : NimbleClientRealize L) (operation : Operation L) : List PhaseEvent :=
  updatePhases self operation ++
    phaseMove (updatedClient self operation).state
      (performOperation self operation).1.client.state

theorem trace_updatePhases (self : NimbleClientRealize L) (operation : Operation L) :
    Trace PhaseStep self.client.state (updatePhases self operation)
      (updatedClient self operation).state := by
  rw [updatePhases, updatedClient, operationFeeds]
  cases clientUpdate? self operation with
  | none => exact .nil _
  | some input =>
      have hreceived := trace_receiveLoop (beginUpdate self.client input.now) 0 input.queue
      rw [state_beginUpdate] at hreceived
      apply hreceived.append (trace_phaseMove _)
      rcases state_nimbleClientUpdate self.client input with h | h
      · exact Or.inl h
      · exact Or.inr (Or.inr (Or.inr h))

/-- What a call does to the state apart from its update. -/
theorem state_of_updatedClient (self : NimbleClientRealize L) {operation : Operation L}
    (h : ¬operation.Restarts) :
    let s := (updatedClient self operation).state
    let t := (performOperation self operation).1.client.state
    t = s ∨ s = .idle ∧ t = .requestingConnect ∨
      s = .connected ∧ t = .joiningRequestingState ∨ t = .disconnected := by
  by_cases hdisconnects : operation.Disconnects
  · refine Or.inr (Or.inr (Or.inr ?_))
    cases operation with
    | realizeQuitGame => rfl
    | disconnect => rfl
    | _ => exact absurd hdisconnects id
  · rcases state_performOperation self h hdisconnects with h | h | h
    · exact Or.inl h
    · exact Or.inr (Or.inl h)
    · exact Or.inr (Or.inr (Or.inl h))

theorem trace_callPhases (self : NimbleClientRealize L) {operation : Operation L}
    (h : ¬operation.Restarts) :
    Trace PhaseStep self.client.state (callPhases self operation)
      (performOperation self operation).1.client.state :=
  (trace_updatePhases self operation).append (trace_phaseMove (state_of_updatedClient self h))

/-- A client that sends is in the state that its update has led to. -/
theorem trace_outgoingCall {self : NimbleClientRealize L} {operation : Operation L}
    {call : NimbleClient L × OutgoingInput} (h : call ∈ outgoingCall? self operation) :
    Trace PhaseStep self.client.state (updatePhases self operation) call.1.state := by
  rcases outgoingCall?_cases h with ⟨input, rfl, rfl⟩ | ⟨input, hinput, hcut, rfl⟩
  · exact .nil _
  · have htrace := trace_updatePhases self operation
    rw [updatedClient_of_update hinput, nimbleClientUpdate_of_not_cutShort hcut,
      state_finishUpdate] at htrace
    rw [state_updateSender]
    exact htrace

/-! ## Runs -/

/-- The events of a run. -/
def runPhases (start : NimbleClientRealize L) (operations : List (Operation L)) :
    List PhaseEvent :=
  (realizer L).gather callPhases start operations

/-- A run without restarts goes through the automaton. -/
theorem trace_runPhases (start : NimbleClientRealize L) {operations : List (Operation L)}
    (h : ∀ operation ∈ operations, ¬operation.Restarts) :
    Trace PhaseStep start.client.state (runPhases start operations)
      ((realizer L).run start operations).client.state := by
  induction operations generalizing start with
  | nil => exact .nil _
  | cons operation operations ih =>
      rw [List.forall_mem_cons] at h
      rw [runPhases, Machine.gather_cons]
      exact (trace_callPhases start h.1).append (ih _ h.2)

/-- The ids that the connect responses of a run assign. -/
def runConnections (start : NimbleClientRealize L) (operations : List (Operation L)) :
    List UInt8 :=
  (realizer L).gather operationConnections start operations

theorem count_feedPhase (fed : List (NimbleClient L × Datagram L)) :
    (fed.filterMap feedPhase?).count .connect = (connections fed).length := by
  induction fed with
  | nil => rfl
  | cons f fed ih =>
      have hconnect : feedPhase? f = some .connect ↔ (connectionId? f.1 f.2).isSome := by
        rw [feedPhase?, connectionId?]
        cases dispatch? f.1 f.2 with
        | none => simp
        | some x =>
            simp only [Option.bind_some, Dispatch.phase?]
            split <;> simp
            split <;> simp
      rw [connections, List.filterMap_cons, List.filterMap_cons]
      cases hid : connectionId? f.1 f.2 with
      | some id =>
          rw [hconnect.mpr (by simp [hid]), List.count_cons_self, ih]
          rfl
      | none =>
          have hne : feedPhase? f ≠ some .connect := fun h => by
            have hsome := hconnect.mp h
            rw [hid] at hsome
            cases hsome
          cases hphase : feedPhase? f with
          | none => exact ih
          | some e =>
              rw [List.count_cons_of_ne fun he => hne (by rw [hphase, he])]
              exact ih

theorem count_callPhases (self : NimbleClientRealize L) {operation : Operation L}
    (h : ¬operation.Restarts) :
    (callPhases self operation).count .connect = (operationConnections self operation).length := by
  have hmove := List.count_eq_zero.mpr (not_mem_phaseMove (state_of_updatedClient self h))
  rw [callPhases, List.count_append, hmove, updatePhases, operationConnections, operationFeeds]
  cases clientUpdate? self operation with
  | none => rfl
  | some input =>
      have hwatch : .connect ∉ phaseMove (self.client.received input).client.state
          (nimbleClientUpdate self.client input).client.state := by
        apply not_mem_phaseMove
        rcases state_nimbleClientUpdate self.client input with h | h
        · exact Or.inl h
        · exact Or.inr (Or.inr (Or.inr h))
      dsimp only
      rw [List.count_append, List.count_eq_zero.mpr hwatch, count_feedPhase]
      rfl

theorem count_runPhases (start : NimbleClientRealize L) {operations : List (Operation L)}
    (h : ∀ operation ∈ operations, ¬operation.Restarts) :
    (runPhases start operations).count .connect = (runConnections start operations).length := by
  induction operations generalizing start with
  | nil => rfl
  | cons operation operations ih =>
      rw [List.forall_mem_cons] at h
      have hrest := ih (performOperation start operation).1 h.2
      rw [runPhases, runConnections, Machine.gather_cons, Machine.gather_cons, List.count_append,
        List.length_append, count_callPhases start h.1]
      exact congrArg _ hrest

theorem remoteConnectionId_of_runConnections (start : NimbleClientRealize L)
    {operations : List (Operation L)} (h : ∀ operation ∈ operations, ¬operation.Restarts) :
    ((realizer L).run start operations).client.remoteConnectionId =
      (runConnections start operations).getLastD start.client.remoteConnectionId := by
  induction operations generalizing start with
  | nil => rfl
  | cons operation operations ih =>
      rw [List.forall_mem_cons] at h
      have hcall := remoteConnectionId_performOperation start operation
      rw [if_neg fun hinit => h.1 (by cases operation <;> simp_all [Operation.Restarts])] at hcall
      refine (ih _ h.2).trans ?_
      refine (congrArg _ hcall).trans ?_
      rw [runConnections, runConnections, Machine.gather_cons]
      simp [List.getLast?_append, List.getLastD_eq_getLast?]

/-! ## One handshake a session -/

/-- Between restarts the session never falls back behind what it has reached, except from synced
to downloading by another accepted game state response. At most one connect response is accepted,
none once the client is connected, and its id is kept to the end. -/
theorem handshake_once (start : NimbleClientRealize L) (operations : List (Operation L))
    (h : ∀ operation ∈ operations, ¬operation.Restarts) :
    start.client.state.rank ≤ ((realizer L).run start operations).client.state.rank ∧
      (start.client.state = .synced →
        ((realizer L).run start operations).client.state = .joiningDownloadingState →
        (runPhases start operations).getLast? = some .announce) ∧
      (runConnections start operations).length ≤ 1 ∧
      (2 ≤ start.client.state.rank → runConnections start operations = []) ∧
      (((realizer L).run start operations).client.state.rank < 2 →
        runConnections start operations = []) ∧
      ((realizer L).run start operations).client.remoteConnectionId =
        (runConnections start operations).headD start.client.remoteConnectionId := by
  have htrace := trace_runPhases start h
  have hcrosses : ∀ s t, PhaseStep s .connect t → s.rank < 2 ∧ 2 ≤ t.rank := by
    intro s t hstep
    cases hstep
    simp [NimbleClientState.rank]
  have hcount := count_of_trace hcrosses htrace
  rw [count_runPhases start h] at hcount
  have hlength : (runConnections start operations).length ≤ 1 := by
    refine (Nat.le_add_right _ _).trans (hcount.trans ?_)
    split <;> omega
  refine ⟨rank_le_of_trace htrace, fun hsynced hdownloads => ?_, hlength, fun hstart => ?_,
    fun hlast => ?_, ?_⟩
  · rw [hsynced, hdownloads] at htrace
    apply getLast?_of_trace htrace
    rintro hnil
    rw [hnil] at htrace
    cases htrace.eq_of_nil
  · rw [if_neg (not_lt.mpr hstart)] at hcount
    exact List.length_eq_zero_iff.mp (by omega)
  · rw [if_pos hlast] at hcount
    have hbelow : (if start.client.state.rank < 2 then 1 else 0) ≤ 1 := by split <;> omega
    exact List.length_eq_zero_iff.mp (by omega)
  · rw [remoteConnectionId_of_runConnections start h]
    cases hids : runConnections start operations with
    | nil => rfl
    | cons id ids =>
        have hnil : ids = [] := by simpa [hids] using hlength
        rw [hnil]
        rfl

/-! ## What is sent, and why -/

/-- What a datagram of a call is, and the events of the session that account for it: nothing but
the request in front of a connect request, exactly one accepted connect response in front of a
download request, a game state response behind everything else for an acknowledgement of its
blob, and an adoption for steps and join requests. -/
inductive HasCause (events : List PhaseEvent) (sender : NimbleClient L) (input : OutgoingInput) :
    List UInt8 → Prop
  | connectRequest (h : events = [.request]) :
      HasCause events sender input (Request.connect.stream sender input.messageHeaderNow).octets
  | downloadRequest (h : events = [.request, .connect, .requestState]) :
      HasCause events sender input
        (Request.downloadState.stream sender input.messageHeaderNow).octets
  | blobAck (h : events.getLast? = some .announce) :
      HasCause events sender input (blobAckStream sender input).octets
  | steps {octets : List UInt8} (h : events.getLast? = some .adopt)
      (hacknowledges : sender.Acknowledges octets) : HasCause events sender input octets
  | joinRequest (h : events.getLast? = some .adopt) :
      HasCause events sender input
        (Request.joinGame.stream (messageSender sender input) input.messageHeaderNow).octets

/-- The state says what is sent, and the events which state it is. -/
theorem hasCause_of_mem_sentOctets (hsizes : HeaderSizes L) {events : List PhaseEvent}
    {self : NimbleClient L} {input : OutgoingInput}
    (htrace : Trace PhaseStep .idle events self.state) {octets : List UInt8}
    (h : octets ∈ sentOctets (nimbleClientOutgoing self input).events) :
    HasCause events self input octets := by
  have hlast : self.state ≠ .idle → events.getLast? = self.state.cause := by
    intro hstate
    apply getLast?_of_trace htrace
    rintro hnil
    rw [hnil] at htrace
    exact hstate htrace.eq_of_nil
  have hpath := path_of_trace htrace
  rw [events_nimbleClientOutgoing, handleState] at h
  cases hstate : self.state with
  | requestingConnect =>
      rw [hstate] at h hpath
      have hpending : Request.connect.IsPendingFor self := hstate
      rw [(eq_of_mem_sendMessageDatagram h).1, (outgoingMessage_of_pending hpending input).2.2]
      exact .connectRequest (hpath (by decide))
  | joiningRequestingState =>
      rw [hstate] at h hpath
      have hpending : Request.downloadState.IsPendingFor self := hstate
      rw [(eq_of_mem_sendMessageDatagram h).1, (outgoingMessage_of_pending hpending input).2.2]
      exact .downloadRequest (hpath (by decide))
  | joiningDownloadingState =>
      rw [hstate] at h hlast
      rw [(eq_of_mem_sendMessageDatagram h).1, stream_outgoingMessage_of_downloading hstate]
      exact .blobAck (hlast (by decide))
  | synced =>
      rw [hstate] at h hlast
      have hadopts := hlast (by decide)
      have hsender : messageSender self input = (nimbleClientSendStepsToServer self input).client :=
        if_pos hstate
      have hsame := (sendsTo_nimbleClientSendStepsToServer self input).protocolState_eq
      have hmessage : octets ∈ sentOctets (sendMessageDatagram
          (nimbleClientSendStepsToServer self input).client input).events →
          HasCause events self input octets := by
        intro hmem
        obtain ⟨heq, hpos⟩ := eq_of_mem_sendMessageDatagram hmem
        have hsynced : (nimbleClientSendStepsToServer self input).client.state = .synced :=
          (congrArg ProtocolState.state hsame).trans hstate
        have hpending : Request.joinGame.IsPendingFor
            (nimbleClientSendStepsToServer self input).client := by
          have hhas := (pos_outgoingMessage hsizes _ input).mp hpos
          simpa [NimbleClient.HasMessage, hsynced, Request.IsPendingFor] using hhas
        rw [heq, (outgoingMessage_of_pending hpending input).2.2, ← hsender]
        exact .joinRequest hadopts
      dsimp only at h
      split at h
      · exact .steps hadopts (acknowledges_of_mem_steps h)
      · rw [sentOctets_append, List.mem_append] at h
        rcases h with h | h
        · exact .steps hadopts (acknowledges_of_mem_steps h)
        · exact hmessage h
  | _ =>
      rw [hstate] at h
      cases h

/-- Every datagram that a session from an idle client sends is accounted for by what has happened
in it so far. -/
theorem requests_have_causes (hsizes : HeaderSizes L) (start : NimbleClientRealize L)
    (hidle : start.client.state = .idle) (before : List (Operation L))
    (h : ∀ operation ∈ before, ¬operation.Restarts) (operation : Operation L) :
    let self := (realizer L).run start before
    ∀ octets ∈ sentOctets (performOperation self operation).2.events,
      ∃ call ∈ outgoingCall? self operation,
        HasCause (runPhases start before ++ updatePhases self operation) call.1 call.2 octets := by
  intro self octets hmem
  have hsent := List.mem_filterMap.mp hmem
  obtain ⟨event, hevent, hoctets⟩ := hsent
  rw [events_performOperation] at hevent
  obtain ⟨call, hcall, hevent⟩ := mem_callEvents.mp hevent
  have htrace : Trace PhaseStep .idle (runPhases start before ++ updatePhases self operation)
      call.1.state := hidle ▸ (trace_runPhases start h).append (trace_outgoingCall hcall)
  exact ⟨call, hcall, hasCause_of_mem_sentOctets hsizes htrace
    (List.mem_filterMap.mpr ⟨event, hevent, hoctets⟩)⟩

/-! ## Runs on fixed inputs -/

namespace Small

/-- A session in which the server answers the connect request twice. -/
def twiceConnected : List (Operation smallLibraries) :=
  [.realizeJoinGame (0 : UInt8), .realizeUpdate (updateWith []),
    .realizeUpdate (updateWith [connectResponse 1, packet 2 .connectResponse [0, 9]])]

end Small

open Nimble.Small

/-- The second response finds the client connected. -/
theorem handshake_once_twiceConnected :
    ((realizer smallLibraries).run (freshRealizer 1) twiceConnected).client.remoteConnectionId =
      (runConnections (freshRealizer 1) twiceConnected).headD 0 :=
  (handshake_once (freshRealizer 1) twiceConnected
    (by simp [twiceConnected, Operation.Restarts])).2.2.2.2.2

/-- The update behind it sends a download request. -/
theorem requests_have_causes_downloadRequest :
    let self := (realizer smallLibraries).run (freshRealizer 1) twiceConnected
    ∃ octets ∈ sentOctets (performOperation self (.realizeUpdate (updateWith []))).2.events,
      ∃ call ∈ outgoingCall? self (.realizeUpdate (updateWith [])),
        HasCause (runPhases (freshRealizer 1) twiceConnected ++
          updatePhases self (.realizeUpdate (updateWith []))) call.1 call.2 octets := by
  intro self
  have hsends :
      sentOctets (performOperation self (.realizeUpdate (updateWith []))).2.events ≠ [] := by
    decide +kernel
  exact ⟨_, List.head_mem hsends, requests_have_causes headerSizes_smallLibraries (freshRealizer 1)
    rfl twiceConnected (by simp [twiceConnected, Operation.Restarts])
    (.realizeUpdate (updateWith [])) _ (List.head_mem hsends)⟩

end Nimble
