import Nimble.Verification.Feed

/-! # What an update can do

The feeds of a receive loop and its invariant rule, and what sending and the end of an update
leave alone. -/

namespace Nimble

variable {L : Libraries}

/-! ## The feeds of a receive loop -/

/-- The feeds a receive loop makes: each client that is fed a datagram, and the datagram. -/
def feeds (self : NimbleClient L) : List (Received L) → List (NimbleClient L × Datagram L)
  | [] => []
  | .error _ :: _ => []
  | .datagram datagram :: queue =>
    if datagram.octets = [] then []
    else
      (self.countPacketIn, datagram) ::
        if (nimbleClientFeed self.countPacketIn datagram).1 < 0 then []
        else feeds (nimbleClientFeed self.countPacketIn datagram).2.receivedUsableDatagram queue

section

variable {datagram : Datagram L}

/-- A datagram without octets ends the loop like the end of the queue. -/
theorem receiveLoop_of_empty (h : datagram.octets = []) (self : NimbleClient L) (count : Nat)
    (queue : List (Received L)) :
    receiveLoop self count (.datagram datagram :: queue) = ⟨count, self, queue⟩ :=
  if_pos h

theorem receiveLoop_datagram (h : datagram.octets ≠ []) (self : NimbleClient L) (count : Nat)
    (queue : List (Received L)) :
    receiveLoop self count (.datagram datagram :: queue) =
      if (nimbleClientFeed self.countPacketIn datagram).1 < 0 then
        ⟨(nimbleClientFeed self.countPacketIn datagram).1,
          (nimbleClientFeed self.countPacketIn datagram).2, queue⟩
      else
        receiveLoop (nimbleClientFeed self.countPacketIn datagram).2.receivedUsableDatagram
          (count + 1) queue :=
  if_neg h

theorem feeds_of_empty (h : datagram.octets = []) (self : NimbleClient L)
    (queue : List (Received L)) : feeds self (.datagram datagram :: queue) = [] :=
  if_pos h

theorem feeds_datagram (h : datagram.octets ≠ []) (self : NimbleClient L)
    (queue : List (Received L)) :
    feeds self (.datagram datagram :: queue) =
      (self.countPacketIn, datagram) ::
        if (nimbleClientFeed self.countPacketIn datagram).1 < 0 then []
        else feeds (nimbleClientFeed self.countPacketIn datagram).2.receivedUsableDatagram queue :=
  if_neg h

theorem feeds_singleton (h : datagram.octets ≠ []) (self : NimbleClient L) :
    feeds self [.datagram datagram] = [(self.countPacketIn, datagram)] := by
  rw [feeds_datagram h, feeds, ite_self]

end

/-- A property that feeds meeting `guard` preserve, and that does not depend on the packet
statistics and the watchdog's datagram counter, survives a receive loop all of whose feeds
meet it. -/
theorem receiveLoop_invariant_of_guard {inv : NimbleClient L → Prop}
    {guard : NimbleClient L → Datagram L → Prop}
    (hcount : ∀ c, inv c → inv c.countPacketIn)
    (husable : ∀ c, inv c → inv c.receivedUsableDatagram)
    (hfeed : ∀ c d, inv c → guard c d → inv (nimbleClientFeed c d).2)
    {self : NimbleClient L} {queue : List (Received L)} (count : Nat) (hself : inv self)
    (hguard : ∀ v ∈ feeds self queue, guard v.1 v.2) :
    inv (receiveLoop self count queue).client := by
  induction queue generalizing self count with
  | nil => exact hself
  | cons received queue ih =>
      cases received with
      | error code => exact hself
      | datagram datagram =>
          by_cases hoctets : datagram.octets = []
          · rw [receiveLoop_of_empty hoctets]
            exact hself
          rw [feeds_datagram hoctets, List.forall_mem_cons] at hguard
          have hfed := hfeed _ _ (hcount _ hself) hguard.1
          rw [receiveLoop_datagram hoctets]
          split
          · exact hfed
          · apply ih _ (husable _ hfed)
            rw [if_neg ‹_›] at hguard
            exact hguard.2

/-- Every feed of a guarded loop starts from a client with the loop's invariant. -/
theorem feeds_invariant_of_guard {inv : NimbleClient L → Prop}
    {guard : NimbleClient L → Datagram L → Prop}
    (hcount : ∀ c, inv c → inv c.countPacketIn)
    (husable : ∀ c, inv c → inv c.receivedUsableDatagram)
    (hfeed : ∀ c d, inv c → guard c d → inv (nimbleClientFeed c d).2)
    {self : NimbleClient L} {queue : List (Received L)} (hself : inv self)
    (hguard : ∀ v ∈ feeds self queue, guard v.1 v.2) :
    ∀ v ∈ feeds self queue, inv v.1 := by
  induction queue generalizing self with
  | nil => simp [feeds]
  | cons received queue ih =>
      cases received with
      | error code => simp [feeds]
      | datagram datagram =>
          by_cases hoctets : datagram.octets = []
          · simp [feeds_of_empty hoctets]
          rw [feeds_datagram hoctets, List.forall_mem_cons] at hguard ⊢
          have hfed := hfeed _ _ (hcount _ hself) hguard.1
          refine ⟨hcount _ hself, ?_⟩
          split
          · simp
          · rw [if_neg ‹_›] at hguard
            exact ih (husable _ hfed) hguard.2

/-! ## The beginning of an update -/

/-- Before it receives, an update changes the tick statistics only. -/
theorem beginUpdate_eq (self : NimbleClient L) (now : MonotonicTimeMs) :
    ∃ tickDuration isSet last count, beginUpdate self now = { self with
      tickDuration := tickDuration
      lastUpdateMonotonicMsIsSet := isSet
      lastUpdateMonotonicMs := last
      loggingTickCount := count } := by
  simp only [beginUpdate, checkTickInterval]
  split
  · split <;> exact ⟨_, _, _, _, rfl⟩
  · exact ⟨_, _, _, _, rfl⟩

@[simp] theorem protocolState_beginUpdate (self : NimbleClient L) (now : MonotonicTimeMs) :
    (beginUpdate self now).protocolState = self.protocolState := by
  obtain ⟨_, _, _, _, h⟩ := beginUpdate_eq self now
  rw [h]
  rfl

theorem state_beginUpdate (self : NimbleClient L) (now : MonotonicTimeMs) :
    (beginUpdate self now).state = self.state :=
  congrArg ProtocolState.state (protocolState_beginUpdate self now)

theorem localFields_beginUpdate (self : NimbleClient L) (now : MonotonicTimeMs) :
    (beginUpdate self now).localFields = self.localFields := by
  obtain ⟨_, _, _, _, h⟩ := beginUpdate_eq self now
  rw [h]
  rfl

/-- No receive loop changes what only the application and the sending side write. -/
theorem localFields_receiveLoop (self : NimbleClient L) (count : Nat)
    (queue : List (Received L)) :
    (receiveLoop self count queue).client.localFields = self.localFields :=
  @receiveLoop_invariant_of_guard _ (fun c => c.localFields = self.localFields)
    (fun _ _ => True) (fun _ hc => hc) (fun _ hc => hc)
    (fun c d hc _ => (localFields_nimbleClientFeed c d).trans hc) _ _ count rfl
    (fun _ _ => trivial)

/-- The receive loop of an update. -/
def NimbleClient.received (self : NimbleClient L) (input : UpdateInput L) : ReceiveOutcome L :=
  receiveLoop (beginUpdate self input.now) 0 input.queue

/-- The receive loop fails, and the rest of the update is left out. -/
def NimbleClient.IsCutShort (self : NimbleClient L) (input : UpdateInput L) : Prop :=
  (self.received input).result < 0

instance (self : NimbleClient L) (input : UpdateInput L) : Decidable (self.IsCutShort input) :=
  inferInstanceAs (Decidable (_ < _))

theorem localFields_received (self : NimbleClient L) (input : UpdateInput L) :
    (self.received input).client.localFields = self.localFields :=
  (localFields_receiveLoop _ 0 input.queue).trans (localFields_beginUpdate self input.now)

/-! ## Sending -/

/-- The datagrams handed to the transport. -/
def sentOctets (events : List (OutgoingEvent L)) : List (List UInt8) :=
  events.filterMap fun
    | .send octets => some octets
    | _ => none

theorem sentOctets_append (events more : List (OutgoingEvent L)) :
    sentOctets (events ++ more) = sentOctets events ++ sentOctets more :=
  List.filterMap_append

/-- The fields that sending writes. -/
structure SendFields (L : Libraries) where
  waitTime : Int
  orderedDatagramOut : L.OrderedDatagramOutLogic
  blobStreamInLogic : L.BlobStreamLogicIn
  outgoingStepsInQueue : L.StatsInt
  packetsPerSecondOut : L.StatsIntPerSecond
  sentStepsDatagramCountPerSecond : L.StatsIntPerSecond
  frame : Nat

/-- The client with other values in the fields that sending writes. -/
def NimbleClient.withSendFields (self : NimbleClient L) (fields : SendFields L) :
    NimbleClient L :=
  { self with
    waitTime := fields.waitTime
    orderedDatagramOut := fields.orderedDatagramOut
    blobStreamInLogic := fields.blobStreamInLogic
    outgoingStepsInQueue := fields.outgoingStepsInQueue
    packetsPerSecondOut := fields.packetsPerSecondOut
    sentStepsDatagramCountPerSecond := fields.sentStepsDatagramCountPerSecond
    frame := fields.frame }

/-- `other` differs from `self` in fields that sending writes. -/
def SendsTo (self other : NimbleClient L) : Prop :=
  ∃ fields, other = self.withSendFields fields

theorem SendsTo.trans {a b c : NimbleClient L} (hab : SendsTo a b) (hbc : SendsTo b c) :
    SendsTo a c := by
  obtain ⟨_, rfl⟩ := hab
  obtain ⟨fields, rfl⟩ := hbc
  exact ⟨fields, rfl⟩

theorem sendsTo_nimbleClientWriteHeader (self : NimbleClient L) (stream : FldOutStream)
    (now : MonotonicTimeMs) : SendsTo self (nimbleClientWriteHeader self stream now).1 :=
  ⟨⟨_, _, _, _, _, _, _⟩, rfl⟩

theorem sendsTo_sendStepsToStream (self : NimbleClient L) (stream : FldOutStream) :
    SendsTo self (sendStepsToStream self stream).2.1 := by
  simp only [sendStepsToStream]
  split
  · exact ⟨⟨_, _, _, _, _, _, _⟩, rfl⟩
  · split <;> exact ⟨⟨_, _, _, _, _, _, _⟩, rfl⟩

theorem sendsTo_sendMessageUsingStream (self : NimbleClient L) (stream : FldOutStream) :
    SendsTo self (sendMessageUsingStream self stream).client := by
  simp only [sendMessageUsingStream, updateSyncedSubState, sendBlobStreamCommands]
  split
  case h_4 => split <;> exact ⟨⟨_, _, _, _, _, _, _⟩, rfl⟩
  case h_7 => split <;> exact ⟨⟨_, _, _, _, _, _, _⟩, rfl⟩
  all_goals exact ⟨⟨_, _, _, _, _, _, _⟩, rfl⟩

theorem sendsTo_nimbleClientSendStepsToServer (self : NimbleClient L) (input : OutgoingInput) :
    SendsTo self (nimbleClientSendStepsToServer self input).client := by
  have h := (sendsTo_nimbleClientWriteHeader self (fldOutStreamInit L)
    input.stepsHeaderNow).trans (sendsTo_sendStepsToStream _
      (nimbleClientWriteHeader self (fldOutStreamInit L) input.stepsHeaderNow).2)
  rw [nimbleClientSendStepsToServer]
  dsimp only
  split
  · exact h
  · exact h.trans ⟨⟨_, _, _, _, _, _, _⟩, rfl⟩

theorem sendsTo_sendMessageDatagram (self : NimbleClient L) (input : OutgoingInput) :
    SendsTo self (sendMessageDatagram self input).client := by
  have h := (sendsTo_nimbleClientWriteHeader self (fldOutStreamInit L)
    input.messageHeaderNow).trans (sendsTo_sendMessageUsingStream _
      (nimbleClientWriteHeader self (fldOutStreamInit L) input.messageHeaderNow).2)
  rw [sendMessageDatagram]
  dsimp only
  split
  · exact h
  · split
    · exact h.trans ⟨⟨_, _, _, _, _, _, _⟩, rfl⟩
    · exact h.trans ⟨⟨_, _, _, _, _, _, _⟩, rfl⟩

theorem sendsTo_handleState (self : NimbleClient L) (input : OutgoingInput) :
    SendsTo self (handleState self input).client := by
  rw [handleState]
  split
  case h_7 =>
    dsimp only
    split
    · exact sendsTo_nimbleClientSendStepsToServer self input
    · exact (sendsTo_nimbleClientSendStepsToServer self input).trans
        (sendsTo_sendMessageDatagram _ input)
  case h_4 | h_5 | h_6 => exact sendsTo_sendMessageDatagram self input
  all_goals exact ⟨⟨_, _, _, _, _, _, _⟩, rfl⟩

theorem sendsTo_nimbleClientOutgoing (self : NimbleClient L) (input : OutgoingInput) :
    SendsTo self (nimbleClientOutgoing self input).client := by
  rw [nimbleClientOutgoing]
  dsimp only
  split
  · exact sendsTo_handleState self input
  · exact (sendsTo_handleState self input).trans ⟨⟨_, _, _, _, _, _, _⟩, rfl⟩

theorem SendsTo.protocolState_eq {a b : NimbleClient L} (h : SendsTo a b) :
    b.protocolState = a.protocolState := by
  obtain ⟨_, rfl⟩ := h
  rfl

theorem SendsTo.quality_eq {a b : NimbleClient L} (h : SendsTo a b) : b.quality = a.quality := by
  obtain ⟨_, rfl⟩ := h
  rfl

theorem SendsTo.localFields_eq {a b : NimbleClient L} (h : SendsTo a b) :
    ∃ logic, b.localFields = { a.localFields with orderedDatagramOut := logic } := by
  obtain ⟨fields, rfl⟩ := h
  exact ⟨fields.orderedDatagramOut, rfl⟩

theorem SendsTo.setup_eq {a b : NimbleClient L} (h : SendsTo a b) : b.setup = a.setup := by
  obtain ⟨_, rfl⟩ := h
  rfl

/-! ## The end of an update -/

/-- The client an update leaves when it gets past the receive loop, before it sends. -/
def watched (self : NimbleClient L) : NimbleClient L :=
  checkIfDisconnectIsNeeded (nimbleClientConnectionQualityUpdate self)

theorem sendsTo_sendPackets (self : NimbleClient L) (input : OutgoingInput) :
    SendsTo self (sendPackets self input).client := by
  rw [sendPackets]
  split
  · exact ⟨⟨_, _, _, _, _, _, _⟩, rfl⟩
  · exact sendsTo_nimbleClientOutgoing self input

theorem finishUpdate_eq (self : NimbleClient L) (result : Int) (queue : List (Received L))
    (input : UpdateInput L) :
    finishUpdate self result queue input =
      if 0 < (watched self).waitTime then
        ⟨0, { watched self with waitTime := (watched self).waitTime - 1 }, queue, []⟩
      else
        let sent := sendPackets (showStats (calcStats (watched self) input.now)) input.outgoing
        ⟨result, sent.client, queue, sent.events⟩ := rfl

@[simp] theorem protocolState_showStats_calcStats (self : NimbleClient L)
    (now : MonotonicTimeMs) :
    (showStats (calcStats self now)).protocolState = self.protocolState := rfl

theorem localFields_showStats_calcStats (self : NimbleClient L) (now : MonotonicTimeMs) :
    (showStats (calcStats self now)).localFields = self.localFields := rfl

theorem waitTime_showStats_calcStats (self : NimbleClient L) (now : MonotonicTimeMs) :
    (showStats (calcStats self now)).waitTime = self.waitTime := rfl

@[simp] theorem quality_showStats_calcStats (self : NimbleClient L) (now : MonotonicTimeMs) :
    (showStats (calcStats self now)).quality = self.quality := rfl

/-- Behind the watchdog, the end of an update changes no protocol state. -/
theorem protocolState_finishUpdate (self : NimbleClient L) (result : Int)
    (queue : List (Received L)) (input : UpdateInput L) :
    (finishUpdate self result queue input).client.protocolState =
      (watched self).protocolState := by
  rw [finishUpdate_eq]
  split
  · rfl
  · exact (sendsTo_sendPackets (showStats (calcStats (watched self) input.now))
      input.outgoing).protocolState_eq.trans (protocolState_showStats_calcStats _ _)

theorem state_finishUpdate (self : NimbleClient L) (result : Int) (queue : List (Received L))
    (input : UpdateInput L) :
    (finishUpdate self result queue input).client.state = (watched self).state :=
  congrArg ProtocolState.state (protocolState_finishUpdate self result queue input)

theorem quality_finishUpdate (self : NimbleClient L) (result : Int)
    (queue : List (Received L)) (input : UpdateInput L) :
    (finishUpdate self result queue input).client.quality = (watched self).quality := by
  rw [finishUpdate_eq]
  split
  · rfl
  · exact (sendsTo_sendPackets (showStats (calcStats (watched self) input.now))
      input.outgoing).quality_eq.trans (quality_showStats_calcStats _ _)

theorem nimbleClientUpdate_eq (self : NimbleClient L) (input : UpdateInput L) :
    nimbleClientUpdate self input =
      let received := receiveLoop (beginUpdate self input.now) 0 input.queue
      if received.result < 0 then ⟨received.result, received.client, received.queue, []⟩
      else finishUpdate received.client received.result received.queue input := rfl

theorem nimbleClientUpdate_of_cutShort {self : NimbleClient L} {input : UpdateInput L}
    (h : self.IsCutShort input) :
    nimbleClientUpdate self input =
      ⟨(self.received input).result, (self.received input).client,
        (self.received input).queue, []⟩ := by
  rw [nimbleClientUpdate_eq]
  exact if_pos h

theorem nimbleClientUpdate_of_not_cutShort {self : NimbleClient L} {input : UpdateInput L}
    (h : ¬self.IsCutShort input) :
    nimbleClientUpdate self input =
      finishUpdate (self.received input).client (self.received input).result
        (self.received input).queue input := by
  rw [nimbleClientUpdate_eq]
  exact if_neg h

/-- The client that sends in an update that gets that far. -/
def updateSender (self : NimbleClient L) (input : UpdateInput L) : NimbleClient L :=
  showStats (calcStats (watched (self.received input).client) input.now)

theorem waitTime_updateSender (self : NimbleClient L) (input : UpdateInput L) :
    (updateSender self input).waitTime = (watched (self.received input).client).waitTime :=
  waitTime_showStats_calcStats _ _

theorem protocolState_updateSender (self : NimbleClient L) (input : UpdateInput L) :
    (updateSender self input).protocolState =
      (watched (self.received input).client).protocolState :=
  protocolState_showStats_calcStats _ _

theorem state_updateSender (self : NimbleClient L) (input : UpdateInput L) :
    (updateSender self input).state = (watched (self.received input).client).state :=
  congrArg ProtocolState.state (protocolState_updateSender self input)

theorem nimbleClientUpdate_of_waits {self : NimbleClient L} {input : UpdateInput L}
    (hcut : ¬self.IsCutShort input) (hwait : 0 < (updateSender self input).waitTime) :
    nimbleClientUpdate self input =
      ⟨0, { watched (self.received input).client with
          waitTime := (watched (self.received input).client).waitTime - 1 },
        (self.received input).queue, []⟩ := by
  rw [waitTime_updateSender] at hwait
  rw [nimbleClientUpdate_of_not_cutShort hcut, finishUpdate_eq, if_pos hwait]

theorem nimbleClientUpdate_of_sends {self : NimbleClient L} {input : UpdateInput L}
    (hcut : ¬self.IsCutShort input) (hwait : ¬0 < (updateSender self input).waitTime) :
    nimbleClientUpdate self input =
      ⟨(self.received input).result, (sendPackets (updateSender self input) input.outgoing).client,
        (self.received input).queue,
        (sendPackets (updateSender self input) input.outgoing).events⟩ := by
  rw [waitTime_updateSender] at hwait
  rw [nimbleClientUpdate_of_not_cutShort hcut, finishUpdate_eq, if_neg hwait, updateSender]

theorem queue_nimbleClientUpdate (self : NimbleClient L) (input : UpdateInput L) :
    (nimbleClientUpdate self input).queue = (self.received input).queue := by
  by_cases hcut : self.IsCutShort input
  · rw [nimbleClientUpdate_of_cutShort hcut]
  · rw [nimbleClientUpdate_of_not_cutShort hcut, finishUpdate_eq]
    split <;> rfl

/-- A quality tick: the watchdog of a synced client. -/
theorem watched_of_synced {self : NimbleClient L} (h : self.state = .synced) :
    watched self =
      if nimbleClientConnectionQualityShouldDisconnect (qualityTick self.quality) then
        { self with quality := qualityTick self.quality, state := .disconnected }
      else { self with quality := qualityTick self.quality } := by
  have htick : nimbleClientConnectionQualityUpdate self =
      { self with quality := qualityTick self.quality } := if_neg (not_not.mpr h)
  rw [watched]
  rw [htick]
  exact if_neg (not_not.mpr h)

/-- In every other state the watchdog does nothing. -/
theorem watched_of_ne {self : NimbleClient L} (h : self.state ≠ .synced) :
    watched self = self := by
  have htick : nimbleClientConnectionQualityUpdate self = self := if_pos h
  rw [watched]
  rw [htick]
  exact if_pos h

/-- The watchdog leaves the protocol state alone or disconnects the client. -/
theorem protocolState_watched (self : NimbleClient L) :
    (watched self).protocolState = self.protocolState ∨
      self.state = .synced ∧
        (watched self).protocolState = { self.protocolState with state := .disconnected } := by
  by_cases h : self.state = .synced
  · rw [watched_of_synced h]
    split
    · exact Or.inr ⟨h, rfl⟩
    · exact Or.inl rfl
  · rw [watched_of_ne h]
    exact Or.inl rfl

theorem localFields_watched (self : NimbleClient L) :
    (watched self).localFields = self.localFields := by
  by_cases h : self.state = .synced
  · rw [watched_of_synced h]
    split <;> rfl
  · rw [watched_of_ne h]

theorem localFields_updateSender (self : NimbleClient L) (input : UpdateInput L) :
    (updateSender self input).localFields = self.localFields :=
  ((localFields_showStats_calcStats _ _).trans (localFields_watched _)).trans
    (localFields_received self input)

/-- The fields that an update writes behind its receive loop. -/
structure UpdateFields (L : Libraries) where
  state : NimbleClientState
  quality : NimbleClientConnectionQuality L
  statsCounter : Nat
  packetsPerSecondIn : L.StatsIntPerSecond
  simulationStepsPerSecond : L.StatsIntPerSecond
  sending : SendFields L

/-- The client with other values in those fields. -/
def NimbleClient.withUpdateFields (self : NimbleClient L) (fields : UpdateFields L) :
    NimbleClient L :=
  { self.withSendFields fields.sending with
    state := fields.state
    quality := fields.quality
    statsCounter := fields.statsCounter
    packetsPerSecondIn := fields.packetsPerSecondIn
    simulationStepsPerSecond := fields.simulationStepsPerSecond }

theorem watched_eq (self : NimbleClient L) :
    ∃ state quality, watched self = { self with state := state, quality := quality } := by
  by_cases h : self.state = .synced
  · rw [watched_of_synced h]
    split
    · exact ⟨_, _, rfl⟩
    · exact ⟨_, _, rfl⟩
  · rw [watched_of_ne h]
    exact ⟨_, _, rfl⟩

theorem client_nimbleClientUpdate (self : NimbleClient L) (input : UpdateInput L) :
    ∃ fields, (nimbleClientUpdate self input).client =
      (self.received input).client.withUpdateFields fields := by
  by_cases hcut : self.IsCutShort input
  · rw [nimbleClientUpdate_of_cutShort hcut]
    exact ⟨⟨_, _, _, _, _, ⟨_, _, _, _, _, _, _⟩⟩, rfl⟩
  obtain ⟨_, _, hwatched⟩ := watched_eq (self.received input).client
  by_cases hwait : 0 < (updateSender self input).waitTime
  · rw [nimbleClientUpdate_of_waits hcut hwait, hwatched]
    exact ⟨⟨_, _, _, _, _, ⟨_, _, _, _, _, _, _⟩⟩, rfl⟩
  · obtain ⟨_, hsent⟩ := sendsTo_sendPackets (updateSender self input) input.outgoing
    rw [nimbleClientUpdate_of_sends hcut hwait, hsent, updateSender, hwatched]
    exact ⟨⟨_, _, _, _, _, ⟨_, _, _, _, _, _, _⟩⟩, rfl⟩

/-- Of the fields that no datagram changes, an update writes the ordered ids it sends. -/
theorem localFields_nimbleClientUpdate (self : NimbleClient L) (input : UpdateInput L) :
    ∃ logic, (nimbleClientUpdate self input).client.localFields =
      { self.localFields with orderedDatagramOut := logic } := by
  obtain ⟨fields, h⟩ := client_nimbleClientUpdate self input
  rw [h, ← localFields_received self input]
  exact ⟨fields.sending.orderedDatagramOut, rfl⟩

theorem setup_nimbleClientUpdate (self : NimbleClient L) (input : UpdateInput L) :
    (nimbleClientUpdate self input).client.setup = self.setup := by
  obtain ⟨_, h⟩ := localFields_nimbleClientUpdate self input
  exact congrArg LocalFields.setup h

/-! ## Reset -/

theorem freeGameState_eq (self : NimbleClient L) :
    ∃ joinedGameState blobStreamAllocator, self.freeGameState = { self with
      joinedGameState := joinedGameState
      blobStreamAllocator := blobStreamAllocator } := by
  rw [NimbleClient.freeGameState]
  split <;> exact ⟨_, _, rfl⟩

theorem state_freeGameState (self : NimbleClient L) : self.freeGameState.state = self.state := by
  obtain ⟨_, _, h⟩ := freeGameState_eq self
  rw [h]

theorem state_nimbleClientReset (self : NimbleClient L) (now : MonotonicTimeMs) :
    (nimbleClientReset self now).state = .idle := by
  rw [nimbleClientReset]
  dsimp only
  rw [state_freeGameState]

theorem quality_nimbleClientReset (self : NimbleClient L) (now : MonotonicTimeMs) :
    (nimbleClientReset self now).quality = nimbleClientConnectionQualityReset self.quality :=
  rfl

theorem setup_nimbleClientReset (self : NimbleClient L) (now : MonotonicTimeMs) :
    (nimbleClientReset self now).setup =
      { self.setup with downloadStateClientRequestId := 1, useStats := true } := by
  rw [nimbleClientReset]
  dsimp only
  obtain ⟨_, _, h⟩ := freeGameState_eq _
  rw [h]
  rfl

/-! ## The updates of a run -/

/-- The update of the client that a call makes, if it makes one. -/
def clientUpdate? (self : NimbleClientRealize L) : Operation L → Option (UpdateInput L)
  | .update input => some input
  | .realizeUpdate input =>
    if self.client.state ≠ .disconnected ∧ self.UpdatesClient then some input else none
  | _ => none

/-- The feeds that a call makes on its way. -/
def operationFeeds (self : NimbleClientRealize L) (operation : Operation L) :
    List (NimbleClient L × Datagram L) :=
  match clientUpdate? self operation with
  | some input => feeds (beginUpdate self.client input.now) input.queue
  | none => []

theorem operationFeeds_of_restarts (self : NimbleClientRealize L) {operation : Operation L}
    (h : operation.Restarts) : operationFeeds self operation = [] := by
  cases operation with
  | realizeUpdate input => exact h.elim
  | update input => exact h.elim
  | _ => rfl

theorem nimbleClientRealizeUpdate_of_disconnected {self : NimbleClientRealize L}
    (h : self.client.state = .disconnected) (input : UpdateInput L) :
    nimbleClientRealizeUpdate self input = ⟨{ self with state := .disconnected }, none⟩ :=
  if_pos h

theorem nimbleClientRealizeUpdate_of_updates {self : NimbleClientRealize L}
    (h : self.client.state ≠ .disconnected ∧ self.UpdatesClient) (input : UpdateInput L) :
    nimbleClientRealizeUpdate self input =
      ⟨followTarget (self.withClient (nimbleClientUpdate self.client input).client),
        some (nimbleClientUpdate self.client input)⟩ := by
  rw [nimbleClientRealizeUpdate]
  rw [if_neg h.1]
  exact if_pos h.2

theorem nimbleClientRealizeUpdate_of_not_updates {self : NimbleClientRealize L}
    (hstate : self.client.state ≠ .disconnected) (h : ¬self.UpdatesClient)
    (input : UpdateInput L) :
    nimbleClientRealizeUpdate self input = ⟨followTarget self, none⟩ := by
  rw [nimbleClientRealizeUpdate]
  rw [if_neg hstate]
  exact if_neg h

/-- What following the target makes of a realizer. -/
inductive TargetMove (self : NimbleClientRealize L) : NimbleClientRealize L → Prop
  | stay (h : self.targetState = .cleared → self.state = .cleared) : TargetMove self self
  | clear (htarget : self.targetState = .cleared) : TargetMove self { self with state := .cleared }
  | requestConnect (htarget : self.targetState = .synced) (hclient : self.client.state = .idle) :
      TargetMove self
        { self with client := { self.client with state := .requestingConnect, waitTime := 0 } }
  | requestState (htarget : self.targetState = .synced)
      (hclient : self.client.state = .connected) :
      TargetMove self { self with client := { self.client with
        state := .joiningRequestingState
        joinParticipantPhase := .joiningParticipant
        waitTime := 0 } }
  | sync (htarget : self.targetState = .synced) (hclient : self.client.state = .synced) :
      TargetMove self { self with state := .synced, client := { self.client with waitTime := 0 } }

theorem targetMove_followTarget (self : NimbleClientRealize L) :
    TargetMove self (followTarget self) := by
  rw [followTarget, moveTowardsTarget]
  split
  · rename_i hsame
    exact .stay fun htarget => hsame.symm.trans htarget
  · split
    case h_4 htarget =>
      split
      · have hclear : { self with state := self.targetState } =
            { self with state := .cleared } := by
          rw [htarget]
        exact hclear ▸ .clear htarget
      · exact .stay fun _ => not_not.mp ‹_›
    case h_5 htarget =>
      split
      case h_1 hclient => exact .requestConnect htarget hclient
      case h_2 hclient => exact .requestState htarget hclient
      case h_3 hclient => exact .sync htarget hclient
      all_goals exact .stay fun hcleared => by simp [htarget] at hcleared
    all_goals exact .stay fun hcleared => by simp_all

/-- Moving towards the target changes three fields of the client. -/
theorem client_followTarget (self : NimbleClientRealize L) :
    ∃ state phase waitTime, (followTarget self).client = { self.client with
      state := state
      joinParticipantPhase := phase
      waitTime := waitTime } := by
  have hmove := targetMove_followTarget self
  generalize followTarget self = after at hmove ⊢
  cases hmove <;> exact ⟨_, _, _, rfl⟩

theorem localFields_followTarget (self : NimbleClientRealize L) :
    (followTarget self).client.localFields = self.client.localFields := by
  obtain ⟨_, _, _, h⟩ := client_followTarget self
  rw [h]
  rfl

/-- The fields that a call writes apart from the update it makes. -/
structure CallFields (L : Libraries) where
  state : NimbleClientState
  joinParticipantPhase : NimbleJoiningState
  outSteps : L.NbsSteps
  authoritativeStepsFromServer : L.NbsSteps
  joinGameRequest : NimbleSerializeJoinGameRequest L.JoinGameOptions
  sending : SendFields L

/-- The client with other values in those fields. -/
def NimbleClient.withCallFields (self : NimbleClient L) (fields : CallFields L) :
    NimbleClient L :=
  { self.withSendFields fields.sending with
    state := fields.state
    joinParticipantPhase := fields.joinParticipantPhase
    outSteps := fields.outSteps
    authoritativeStepsFromServer := fields.authoritativeStepsFromServer
    joinGameRequest := fields.joinGameRequest }

/-- The client after the update that a call makes, if it makes one. -/
def updatedClient (self : NimbleClientRealize L) (operation : Operation L) : NimbleClient L :=
  match clientUpdate? self operation with
  | some input => (nimbleClientUpdate self.client input).client
  | none => self.client

theorem updatedClient_of_update {self : NimbleClientRealize L} {operation : Operation L}
    {input : UpdateInput L} (h : clientUpdate? self operation = some input) :
    updatedClient self operation = (nimbleClientUpdate self.client input).client := by
  rw [updatedClient, h]

theorem updatedClient_of_no_update {self : NimbleClientRealize L} {operation : Operation L}
    (h : clientUpdate? self operation = none) : updatedClient self operation = self.client := by
  rw [updatedClient, h]

/-- An update of the realizer moves the client that it has updated, if it has, towards the
target. -/
theorem client_realizeUpdate (self : NimbleClientRealize L) (input : UpdateInput L) :
    ∃ state phase waitTime, (performOperation self (.realizeUpdate input)).1.client =
      { updatedClient self (.realizeUpdate input) with
        state := state
        joinParticipantPhase := phase
        waitTime := waitTime } := by
  change ∃ state phase waitTime, (nimbleClientRealizeUpdate self input).realize.client = _
  by_cases hdisconnected : self.client.state = .disconnected
  · have hnone : clientUpdate? self (.realizeUpdate input) = none :=
      if_neg fun hc => hc.1 hdisconnected
    rw [nimbleClientRealizeUpdate_of_disconnected hdisconnected, updatedClient_of_no_update hnone]
    exact ⟨_, _, _, rfl⟩
  by_cases hupdates : self.UpdatesClient
  · have hsome : clientUpdate? self (.realizeUpdate input) = some input :=
      if_pos ⟨hdisconnected, hupdates⟩
    rw [nimbleClientRealizeUpdate_of_updates ⟨hdisconnected, hupdates⟩,
      updatedClient_of_update hsome]
    exact client_followTarget (self.withClient (nimbleClientUpdate self.client input).client)
  · have hnone : clientUpdate? self (.realizeUpdate input) = none :=
      if_neg fun hc => hupdates hc.2
    rw [nimbleClientRealizeUpdate_of_not_updates hdisconnected hupdates,
      updatedClient_of_no_update hnone]
    exact client_followTarget self

theorem exists_withCallFields (self : NimbleClient L) :
    ∃ fields, self = self.withCallFields fields :=
  ⟨⟨_, _, _, _, _, ⟨_, _, _, _, _, _, _⟩⟩, rfl⟩

/-- A call that does not start the client over writes these fields, and what its update writes. -/
theorem client_performOperation (self : NimbleClientRealize L) {operation : Operation L}
    (h : ¬operation.Restarts) :
    ∃ fields, (performOperation self operation).1.client =
      (updatedClient self operation).withCallFields fields := by
  cases operation with
  | realizeInit settings now => exact absurd trivial h
  | realizeReInit settings now => exact absurd trivial h
  | realizeReset now => exact absurd trivial h
  | reset now => exact absurd trivial h
  | reInit transport now => exact absurd trivial h
  | outgoing input =>
      obtain ⟨_, hsent⟩ := sendsTo_nimbleClientOutgoing self.client input
      change ∃ fields, (nimbleClientOutgoing self.client input).client = _
      rw [hsent]
      exact ⟨⟨_, _, _, _, _, ⟨_, _, _, _, _, _, _⟩⟩, rfl⟩
  | realizeUpdate input =>
      obtain ⟨_, _, _, hclient⟩ := client_realizeUpdate self input
      rw [hclient]
      exact ⟨⟨_, _, _, _, _, ⟨_, _, _, _, _, _, _⟩⟩, rfl⟩
  | update input => exact exists_withCallFields (nimbleClientUpdate self.client input).client
  | _ => exact ⟨⟨_, _, _, _, _, ⟨_, _, _, _, _, _, _⟩⟩, rfl⟩

/-- Following the target moves an idle client and a connected one. -/
theorem clientState_followTarget (self : NimbleClientRealize L) :
    (followTarget self).client.state = self.client.state ∨
      self.client.state = .idle ∧ (followTarget self).client.state = .requestingConnect ∨
      self.client.state = .connected ∧
        (followTarget self).client.state = .joiningRequestingState := by
  have hmove := targetMove_followTarget self
  generalize followTarget self = after at hmove ⊢
  cases hmove with
  | requestConnect _ hclient => exact Or.inr (Or.inl ⟨hclient, rfl⟩)
  | requestState _ hclient => exact Or.inr (Or.inr ⟨hclient, rfl⟩)
  | _ => exact Or.inl rfl

/-- So does a call that neither starts the client over nor disconnects it. -/
theorem state_performOperation (self : NimbleClientRealize L) {operation : Operation L}
    (hrestarts : ¬operation.Restarts) (hdisconnects : ¬operation.Disconnects) :
    (performOperation self operation).1.client.state = (updatedClient self operation).state ∨
      (updatedClient self operation).state = .idle ∧
        (performOperation self operation).1.client.state = .requestingConnect ∨
      (updatedClient self operation).state = .connected ∧
        (performOperation self operation).1.client.state = .joiningRequestingState := by
  cases operation with
  | realizeInit settings now => exact absurd trivial hrestarts
  | realizeReInit settings now => exact absurd trivial hrestarts
  | realizeReset now => exact absurd trivial hrestarts
  | reset now => exact absurd trivial hrestarts
  | reInit transport now => exact absurd trivial hrestarts
  | realizeQuitGame => exact absurd trivial hdisconnects
  | disconnect => exact absurd trivial hdisconnects
  | outgoing input =>
      have hsends := sendsTo_nimbleClientOutgoing self.client input
      exact Or.inl (congrArg ProtocolState.state hsends.protocolState_eq)
  | realizeUpdate input =>
      simp only [performOperation, updatedClient, clientUpdate?]
      by_cases hdisconnected : self.client.state = .disconnected
      · rw [nimbleClientRealizeUpdate_of_disconnected hdisconnected,
          if_neg fun hc => hc.1 hdisconnected]
        exact Or.inl rfl
      by_cases hupdates : self.UpdatesClient
      · rw [nimbleClientRealizeUpdate_of_updates ⟨hdisconnected, hupdates⟩,
          if_pos ⟨hdisconnected, hupdates⟩]
        exact clientState_followTarget
          (self.withClient (nimbleClientUpdate self.client input).client)
      · rw [nimbleClientRealizeUpdate_of_not_updates hdisconnected hupdates,
          if_neg fun hc => hupdates hc.2]
        exact clientState_followTarget self
  | _ => exact Or.inl rfl

/-- Only the calls that start the client over change its setup. -/
theorem setup_performOperation (self : NimbleClientRealize L) {operation : Operation L}
    (h : ¬operation.Restarts) :
    (performOperation self operation).1.client.setup = self.client.setup := by
  obtain ⟨_, hclient⟩ := client_performOperation self h
  rw [hclient, updatedClient]
  split
  · exact setup_nimbleClientUpdate self.client _
  · rfl

/-! ## What only datagrams write -/

/-- Apart from the calls that start the client over, only feeds write this part of it. -/
structure WrittenByFeeds {α : Type*} (part : NimbleClient L → α) : Prop where
  tick : ∀ client tickDuration isSet last count, part { client with
    tickDuration := tickDuration
    lastUpdateMonotonicMsIsSet := isSet
    lastUpdateMonotonicMs := last
    loggingTickCount := count } = part client
  countPacketIn : ∀ client, part client.countPacketIn = part client
  receivedUsableDatagram : ∀ client, part client.receivedUsableDatagram = part client
  withUpdateFields : ∀ client fields, part (client.withUpdateFields fields) = part client
  withCallFields : ∀ client fields, part (client.withCallFields fields) = part client

/-- A property of such a part that is preserved by the feeds that meet `guard` is preserved by the
calls whose feeds meet it, and holds in front of each of these feeds. -/
theorem WrittenByFeeds.invariant_of_guard {α : Type*} {part : NimbleClient L → α}
    (hpart : WrittenByFeeds part) {inv : α → Prop} {guard : NimbleClient L → Datagram L → Prop}
    (hfeed : ∀ c d, inv (part c) → guard c d → inv (part (nimbleClientFeed c d).2))
    {self : NimbleClientRealize L} {operation : Operation L} (hrestarts : ¬operation.Restarts)
    (hself : inv (part self.client))
    (hguard : ∀ f ∈ operationFeeds self operation, guard f.1 f.2) :
    inv (part (performOperation self operation).1.client) ∧
      ∀ f ∈ operationFeeds self operation, inv (part f.1) := by
  have hcount : ∀ c : NimbleClient L, inv (part c) → inv (part c.countPacketIn) := by
    intro c hc
    rwa [hpart.countPacketIn]
  have husable : ∀ c : NimbleClient L, inv (part c) → inv (part c.receivedUsableDatagram) := by
    intro c hc
    rwa [hpart.receivedUsableDatagram]
  obtain ⟨_, hclient⟩ := client_performOperation self hrestarts
  rw [hclient, hpart.withCallFields]
  cases hupdate : clientUpdate? self operation with
  | none =>
      rw [updatedClient_of_no_update hupdate, operationFeeds, hupdate]
      exact ⟨hself, by simp⟩
  | some input =>
      rw [operationFeeds, hupdate] at hguard ⊢
      obtain ⟨_, _, _, _, hbegin⟩ := beginUpdate_eq self.client input.now
      have hstart : inv (part (beginUpdate self.client input.now)) := by
        rwa [hbegin, hpart.tick]
      obtain ⟨_, hafter⟩ := client_nimbleClientUpdate self.client input
      rw [updatedClient_of_update hupdate, hafter, hpart.withUpdateFields]
      exact ⟨@receiveLoop_invariant_of_guard _ (fun c => inv (part c)) _ hcount husable hfeed _ _ 0
          hstart hguard,
        @feeds_invariant_of_guard _ (fun c => inv (part c)) _ hcount husable hfeed _ _ hstart
          hguard⟩

/-- What every initialization establishes and every call preserves holds of the reachable
realizers. -/
theorem Reachable.invariant {inv : NimbleClientRealize L → Prop}
    (hinit : ∀ memory settings now, inv (nimbleClientRealizeInit memory settings now))
    (hstep : ∀ self operation, inv self → inv (performOperation self operation).1)
    {self : NimbleClientRealize L} (h : Reachable self) : inv self := by
  obtain ⟨memory, settings, now, operations, rfl⟩ := h
  exact (realizer L).run_invariant hstep operations (hinit memory settings now)

theorem reachable_of_mem_visits {self : NimbleClientRealize L} (hself : Reachable self)
    {operations : List (Operation L)} {v : NimbleClientRealize L × Operation L}
    (h : v ∈ (realizer L).visits self operations) : Reachable v.1 := by
  obtain ⟨memory, settings, now, past, rfl⟩ := hself
  obtain ⟨before, after, _, hv⟩ := ((realizer L).mem_visits_iff _ _ _).mp h
  exact ⟨memory, settings, now, past ++ before, by rw [hv, Machine.run_append]⟩

theorem Reachable.step {self : NimbleClientRealize L} (h : Reachable self)
    (operation : Operation L) : Reachable (performOperation self operation).1 := by
  obtain ⟨memory, settings, now, past, rfl⟩ := h
  refine ⟨memory, settings, now, past ++ [operation], ?_⟩
  rw [Machine.run_append]
  rfl

end Nimble
