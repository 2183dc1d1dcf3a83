import Nimble.Verification.SequenceIds
import Nimble.Verification.Watchdog

/-! # Duplicated and reordered datagrams

An update is compared with the update on the queue from which every datagram that is stale at
its turn is removed. -/

namespace Nimble

variable {L : Libraries}

/-! ## Stale datagrams -/

/-- The ids that are not newer than the last one accepted, as the ordered-datagram library is
documented to treat them: they are refused, and leave no trace. -/
structure StaleIds (L : Libraries) where
  isStale : L.OrderedDatagramInLogic → FldInStream → Bool
  receive_le : ∀ logic inStream, isStale logic inStream = true →
    (L.orderedDatagramInLogicReceive logic inStream).1 ≤ 0
  receive_logic : ∀ logic inStream, isStale logic inStream = true →
    (L.orderedDatagramInLogicReceive logic inStream).2.1 = logic

section

variable (stale : StaleIds L)

/-- The datagram is stale for this client. -/
def StaleIds.IsStaleFor (self : NimbleClient L) (datagram : Datagram L) : Prop :=
  stale.isStale self.orderedDatagramIn datagram.inStream = true

instance (self : NimbleClient L) (datagram : Datagram L) :
    Decidable (stale.IsStaleFor self datagram) :=
  inferInstanceAs (Decidable (_ = true))

/-- The queue without the datagrams that are stale at their turn in the receive loop. What lies
behind the end of the loop has no turn. -/
def StaleIds.removeStale (self : NimbleClient L) : List (Received L) → List (Received L)
  | [] => []
  | .error code :: queue => .error code :: queue
  | .datagram datagram :: queue =>
    if datagram.octets = [] then .datagram datagram :: queue
    else if stale.IsStaleFor self datagram then removeStale self queue
    else .datagram datagram ::
      if (nimbleClientFeed self.countPacketIn datagram).1 < 0 then queue
      else removeStale (nimbleClientFeed self.countPacketIn datagram).2.receivedUsableDatagram
        queue

/-- The client at the turn of the first stale datagram, and the queue behind that datagram, if
the receive loop gets to one. -/
def StaleIds.staleTurn? (self : NimbleClient L) :
    List (Received L) → Option (NimbleClient L × List (Received L))
  | [] => none
  | .error _ :: _ => none
  | .datagram datagram :: queue =>
    if datagram.octets = [] then none
    else if stale.IsStaleFor self datagram then some (self, queue)
    else if (nimbleClientFeed self.countPacketIn datagram).1 < 0 then none
    else staleTurn? (nimbleClientFeed self.countPacketIn datagram).2.receivedUsableDatagram queue

variable {stale}

theorem readDatagramHeader_of_stale {self : NimbleClient L} {datagram : Datagram L}
    (h : stale.IsStaleFor self datagram) :
    (readDatagramHeader self datagram).1 < 0 ∧ (readDatagramHeader self datagram).2.1 = self := by
  have hcode := stale.receive_le _ _ h
  have hlogic := stale.receive_logic _ _ h
  have hcheck : (readAndCheckOrderedDatagram self.orderedDatagramIn datagram.inStream).1 = -91 ∧
      (readAndCheckOrderedDatagram self.orderedDatagramIn datagram.inStream).2.1 =
        self.orderedDatagramIn := by
    rw [readAndCheckOrderedDatagram]
    dsimp only
    rw [if_pos hcode]
    exact ⟨rfl, hlogic⟩
  have hneg : (readAndCheckOrderedDatagram self.orderedDatagramIn datagram.inStream).1 < 0 := by
    rw [hcheck.1]
    decide
  have hheader : readDatagramHeader self datagram =
      ((readAndCheckOrderedDatagram self.orderedDatagramIn datagram.inStream).1,
        { self with orderedDatagramIn :=
            (readAndCheckOrderedDatagram self.orderedDatagramIn datagram.inStream).2.1 },
        (readAndCheckOrderedDatagram self.orderedDatagramIn datagram.inStream).2.2) :=
    if_pos hneg
  rw [hheader, hcheck.2]
  exact ⟨hneg, rfl⟩

/-- A stale datagram fails its feed and changes nothing. -/
theorem nimbleClientFeed_of_stale {self : NimbleClient L} {datagram : Datagram L}
    (hstate : self.state ≠ .disconnected) (h : stale.IsStaleFor self datagram) :
    (nimbleClientFeed self datagram).1 < 0 ∧ (nimbleClientFeed self datagram).2 = self := by
  obtain ⟨hneg, hself⟩ := readDatagramHeader_of_stale h
  rw [nimbleClientFeed_eq]
  by_cases hlength : datagram.octets.length < 1
  · rw [if_pos hlength]
    exact ⟨show (-1 : Int) < 0 by decide, rfl⟩
  · rw [if_neg hlength, if_neg hstate, if_pos hneg]
    exact ⟨hneg, hself⟩

theorem removeStale_of_no_turn {self : NimbleClient L} {queue : List (Received L)}
    (h : stale.staleTurn? self queue = none) : stale.removeStale self queue = queue := by
  induction queue generalizing self with
  | nil => rfl
  | cons received queue ih =>
      cases received with
      | error code => rfl
      | datagram datagram =>
          simp only [StaleIds.staleTurn?, StaleIds.removeStale] at h ⊢
          by_cases hoctets : datagram.octets = []
          · rw [if_pos hoctets]
          rw [if_neg hoctets] at h ⊢
          split at h
          · cases h
          · rw [if_neg ‹_›]
            split at h
            · rw [if_pos ‹_›]
            · rw [if_neg ‹_›, ih h]

theorem length_removeStale_le (self : NimbleClient L) (queue : List (Received L)) :
    (stale.removeStale self queue).length ≤ queue.length := by
  induction queue generalizing self with
  | nil => exact Nat.le_refl _
  | cons received queue ih =>
      cases received with
      | error code => exact Nat.le_refl _
      | datagram datagram =>
          simp only [StaleIds.removeStale]
          split
          · exact Nat.le_refl _
          split
          · exact Nat.le_succ_of_le (ih self)
          · split
            · exact Nat.le_refl _
            · exact Nat.succ_le_succ (ih _)

/-- The loop stops at the first stale datagram. -/
theorem receiveLoop_of_turn {self : NimbleClient L} (hstate : self.state ≠ .disconnected)
    {queue : List (Received L)} {client : NimbleClient L} {rest : List (Received L)}
    (h : stale.staleTurn? self queue = some (client, rest)) (count : Nat) :
    client.state ≠ .disconnected ∧
      (receiveLoop self count queue).result < 0 ∧
      (receiveLoop self count queue).client = client.countPacketIn ∧
      (receiveLoop self count queue).queue = rest ∧
      ∃ more, receiveLoop self count (stale.removeStale self queue) =
        receiveLoop client more (stale.removeStale client rest) := by
  induction queue generalizing self count with
  | nil => cases h
  | cons received queue ih =>
      cases received with
      | error code => cases h
      | datagram datagram =>
          simp only [StaleIds.staleTurn?] at h
          split at h
          · cases h
          rename_i hoctets
          split at h
          · rename_i hstale
            obtain ⟨rfl, rfl⟩ := Prod.mk.inj (Option.some.inj h)
            have hstale' : stale.IsStaleFor self.countPacketIn datagram := hstale
            obtain ⟨hneg, hsame⟩ := nimbleClientFeed_of_stale
              (show self.countPacketIn.state ≠ .disconnected from hstate) hstale'
            rw [receiveLoop_datagram hoctets, if_pos hneg, StaleIds.removeStale, if_neg hoctets,
              if_pos hstale]
            exact ⟨hstate, hneg, hsame, rfl, count, rfl⟩
          · rename_i hstale
            split at h
            · cases h
            · rename_i hok
              have hnext : (nimbleClientFeed self.countPacketIn
                  datagram).2.receivedUsableDatagram.state ≠ .disconnected := by
                change ¬(nimbleClientFeed self.countPacketIn datagram).2.state = .disconnected
                rw [disconnected_nimbleClientFeed]
                exact hstate
              rw [receiveLoop_datagram hoctets, if_neg hok, StaleIds.removeStale, if_neg hoctets,
                if_neg hstale, if_neg hok, receiveLoop_datagram hoctets, if_neg hok]
              exact ih hnext h (count + 1)

end

/-- A receive loop takes something off a queue that is not empty. -/
theorem length_queue_receiveLoop (self : NimbleClient L) (count : Nat)
    {queue : List (Received L)} (h : queue ≠ []) :
    (receiveLoop self count queue).queue.length < queue.length := by
  induction queue generalizing self count with
  | nil => exact absurd rfl h
  | cons received queue ih =>
      cases received with
      | error code => exact Nat.lt_succ_self _
      | datagram datagram =>
          by_cases hoctets : datagram.octets = []
          · rw [receiveLoop_of_empty hoctets]
            exact Nat.lt_succ_self _
          rw [receiveLoop_datagram hoctets]
          split
          · exact Nat.lt_succ_self _
          · cases queue with
            | nil => exact Nat.succ_pos _
            | cons next queue => exact Nat.lt_succ_of_lt (ih _ _ (by simp))

/-! ## What is compared -/

/-- What decides, besides the protocol state, when the client sends next and what. -/
structure SenderState (L : Libraries) where
  waitTime : Int
  orderedDatagramOut : L.OrderedDatagramOutLogic
  blobStreamInLogic : L.BlobStreamLogicIn

def NimbleClient.senderState (self : NimbleClient L) : SenderState L where
  waitTime := self.waitTime
  orderedDatagramOut := self.orderedDatagramOut
  blobStreamInLogic := self.blobStreamInLogic

structure UpdateView (L : Libraries) where
  protocolState : ProtocolState L
  queue : List (Received L)
  watchdog : Watchdog
  sender : SenderState L
  sent : List (List UInt8)

def UpdateOutcome.view (outcome : UpdateOutcome L) : UpdateView L where
  protocolState := outcome.client.protocolState
  queue := outcome.queue
  watchdog := outcome.client.quality.watchdog
  sender := outcome.client.senderState
  sent := sentOctets outcome.events

/-- The acknowledgement that the blob stream is asked to write behind a header. -/
def NimbleClient.blobAck (self : NimbleClient L) (input : OutgoingInput) :
    WriteResult × L.BlobStreamLogicIn :=
  L.blobStreamLogicInSend self.blobStreamInLogic self.blobStreamIn
    ((headerStream self input.messageHeaderNow).write
      (L.nimbleSerializeWriteCommand .clientOutBlobStream))

/-- The blob stream refuses to write an acknowledgement, and the attempt leaves no trace in it
or in the logic of the ordered ids. -/
structure NimbleClient.RefusesBlobAck (client : NimbleClient L) (input : OutgoingInput) :
    Prop where
  refuses : (client.blobAck input).1.code < 0
  keepsBlobStream : (client.blobAck input).2 = client.blobStreamInLogic
  keepsOrderedIds : (L.orderedDatagramOutLogicPrepare client.orderedDatagramOut
    (fldOutStreamInit L)).2 = client.orderedDatagramOut

/-- Sending leaves no trace: the state asks for nothing, or for an acknowledgement of the blob
that is refused. -/
def NimbleClient.HasNothingToSend (self : NimbleClient L) (input : OutgoingInput) : Prop :=
  self.state = .idle ∨ self.state = .connected ∨
    self.state = .joiningDownloadingState ∧ self.RefusesBlobAck input

/-- The statistics of the update that is ending do not matter. -/
theorem hasNothingToSend_showStats_calcStats (self : NimbleClient L) (now : MonotonicTimeMs)
    (input : OutgoingInput) :
    (showStats (calcStats self now)).HasNothingToSend input ↔ self.HasNothingToSend input := by
  have hrefuses : (showStats (calcStats self now)).RefusesBlobAck input ↔
      self.RefusesBlobAck input :=
    ⟨fun h => ⟨h.refuses, h.keepsBlobStream, h.keepsOrderedIds⟩,
      fun h => ⟨h.refuses, h.keepsBlobStream, h.keepsOrderedIds⟩⟩
  exact or_congr Iff.rfl (or_congr Iff.rfl (and_congr Iff.rfl hrefuses))

/-- A first stale datagram does no harm when it is the last in the queue and meets a client that
is not synced, does not wait and has nothing to send. -/
def HarmlessTurn (input : UpdateInput L) (turn : NimbleClient L × List (Received L)) : Prop :=
  turn.2 = [] ∧ turn.1.state ≠ .synced ∧ turn.1.waitTime ≤ 0 ∧
    turn.1.HasNothingToSend input.outgoing

/-- A downloading client fails to put a message together when the blob stream refuses, and only
then. What it keeps of the attempt is what the libraries keep. -/
theorem outgoingMessage_refused_iff {self : NimbleClient L} {input : OutgoingInput}
    (hstate : self.state = .joiningDownloadingState) :
    (outgoingMessage self input).result < 0 ∧
        (outgoingMessage self input).client.senderState = self.senderState ↔
      self.RefusesBlobAck input := by
  rw [outgoingMessage_of_downloading hstate, sendBlobStreamCommands]
  dsimp only
  split
  · rename_i hrefused
    constructor
    · rintro ⟨_, hkeeps⟩
      exact ⟨hrefused, congrArg SenderState.blobStreamInLogic hkeeps,
        congrArg SenderState.orderedDatagramOut hkeeps⟩
    · rintro ⟨_, hblob, hids⟩
      refine ⟨hrefused, ?_⟩
      change SenderState.mk self.waitTime (L.orderedDatagramOutLogicPrepare
        self.orderedDatagramOut (fldOutStreamInit L)).2 (self.blobAck input).2 = self.senderState
      rw [hblob, hids]
      rfl
  · rename_i hwrites
    exact iff_of_false (fun h => Int.lt_irrefl 0 h.1) fun h => hwrites h.refuses

theorem sentOctets_sendMessageDatagram_ne_nil (hsizes : HeaderSizes L) {self : NimbleClient L}
    (hmessage : self.HasMessage) {input : OutgoingInput}
    (h : ¬(outgoingMessage self input).result < 0) :
    sentOctets (sendMessageDatagram self input).events ≠ [] := by
  have hpos := (pos_outgoingMessage hsizes self input).mpr hmessage
  rw [sentOctets_sendMessageDatagram_of_pos hpos h]
  exact List.cons_ne_nil _ _

theorem result_outgoingMessage_of_request {self : NimbleClient L}
    (h : self.state = .requestingConnect ∨ self.state = .joiningRequestingState)
    (input : OutgoingInput) : ¬(outgoingMessage self input).result < 0 := by
  have hstate : (nimbleClientWriteHeader self (fldOutStreamInit L)
      input.messageHeaderNow).1.state = self.state := rfl
  rw [outgoingMessage, sendMessageUsingStream]
  rw [hstate]
  rcases h with h | h
  · rw [h]
    exact Int.lt_irrefl 0
  · rw [h]
    exact Int.lt_irrefl 0

/-- A refused message goes no further. -/
theorem client_nimbleClientOutgoing_of_refused {self : NimbleClient L}
    (hstate : self.state = .joiningDownloadingState) {input : OutgoingInput}
    (h : (outgoingMessage self input).result < 0) :
    (nimbleClientOutgoing self input).client = (outgoingMessage self input).client := by
  have hhandled : handleState self input = sendMessageDatagram self input := by
    rw [handleState, hstate]
  have hmessage : sendMessageDatagram self input =
      ⟨(outgoingMessage self input).result, (outgoingMessage self input).client,
        .writeHeader self.remoteConnectionId :: (outgoingMessage self input).events⟩ := by
    rw [sendMessageDatagram_eq]
    exact if_pos h
  rw [nimbleClientOutgoing, hhandled, hmessage]
  dsimp only
  rw [if_pos h]

/-- A client that has nothing to send sends nothing. -/
theorem sendPackets_of_hasNothingToSend {self : NimbleClient L} {input : OutgoingInput}
    (h : self.HasNothingToSend input) :
    sentOctets (sendPackets self input).events = [] ∧
      (sendPackets self input).client.senderState = self.senderState := by
  rcases h with hstate | hstate | ⟨hstate, hrefuses⟩
  · have hsent : sendPackets self input = ⟨0, self, []⟩ := if_pos (Or.inl hstate)
    rw [hsent]
    exact ⟨rfl, rfl⟩
  · have hsent : sendPackets self input = nimbleClientOutgoing self input :=
      if_neg (by simp [hstate])
    have hhandled : handleState self input = ⟨0, self, []⟩ := by rw [handleState, hstate]
    rw [hsent, nimbleClientOutgoing, hhandled]
    exact ⟨rfl, rfl⟩
  · obtain ⟨hrefused, hkeeps⟩ := (outgoingMessage_refused_iff hstate).mpr hrefuses
    have hsent : sendPackets self input = nimbleClientOutgoing self input :=
      if_neg (by simp [hstate])
    have hhandled : handleState self input = sendMessageDatagram self input := by
      rw [handleState, hstate]
    rw [hsent, events_nimbleClientOutgoing, hhandled,
      client_nimbleClientOutgoing_of_refused hstate hrefused]
    exact ⟨sentOctets_sendMessageDatagram_of_fails hrefused, hkeeps⟩

/-- A client that could have sent something does, unless the blob stream refuses. -/
theorem hasNothingToSend_of_sendPackets (hsizes : HeaderSizes L) {self : NimbleClient L}
    (hsynced : self.state ≠ .synced) (hconnected : self.state ≠ .disconnected)
    {input : OutgoingInput} (hnone : sentOctets (sendPackets self input).events = [])
    (hkeeps : (sendPackets self input).client.senderState = self.senderState) :
    self.HasNothingToSend input := by
  by_cases hidle : self.state = .idle
  · exact Or.inl hidle
  have hsent : sendPackets self input = nimbleClientOutgoing self input :=
    if_neg (by rw [not_or]; exact ⟨hidle, hconnected⟩)
  rw [hsent] at hkeeps
  rw [hsent, events_nimbleClientOutgoing] at hnone
  rw [handleState] at hnone
  cases hstate : self.state with
  | idle => exact absurd hstate hidle
  | disconnected => exact absurd hstate hconnected
  | synced => exact absurd hstate hsynced
  | connected => exact Or.inr (Or.inl hstate)
  | requestingConnect =>
      rw [hstate] at hnone
      exact absurd hnone (sentOctets_sendMessageDatagram_ne_nil hsizes (Or.inl hstate)
        (result_outgoingMessage_of_request (Or.inl hstate) input))
  | joiningRequestingState =>
      rw [hstate] at hnone
      exact absurd hnone (sentOctets_sendMessageDatagram_ne_nil hsizes (Or.inr (Or.inl hstate))
        (result_outgoingMessage_of_request (Or.inr hstate) input))
  | joiningDownloadingState =>
      rw [hstate] at hnone
      have hrefused : (outgoingMessage self input).result < 0 := by
        by_contra hwrites
        exact sentOctets_sendMessageDatagram_ne_nil hsizes (Or.inr (Or.inr (Or.inl hstate)))
          hwrites hnone
      rw [client_nimbleClientOutgoing_of_refused hstate hrefused] at hkeeps
      exact Or.inr (Or.inr ⟨hstate, (outgoingMessage_refused_iff hstate).mp ⟨hrefused, hkeeps⟩⟩)

/-! ## The comparison -/

section

variable (stale : StaleIds L)

/-- The update with the stale datagrams taken out of the queue. -/
def StaleIds.withoutStale (self : NimbleClient L) (input : UpdateInput L) : UpdateInput L :=
  { input with queue := stale.removeStale (beginUpdate self input.now) input.queue }

/-- The first turn of a stale datagram in an update. -/
def StaleIds.firstTurn? (self : NimbleClient L) (input : UpdateInput L) :
    Option (NimbleClient L × List (Received L)) :=
  stale.staleTurn? (beginUpdate self input.now) input.queue

variable {stale}

theorem withoutStale_of_no_turn {self : NimbleClient L} {input : UpdateInput L}
    (h : stale.firstTurn? self input = none) : stale.withoutStale self input = input := by
  rw [StaleIds.withoutStale]
  rw [removeStale_of_no_turn h]

/-- An update that meets a stale datagram ends there. -/
theorem view_nimbleClientUpdate_of_turn {self : NimbleClient L}
    (hstate : self.state ≠ .disconnected) {input : UpdateInput L}
    {turn : NimbleClient L × List (Received L)} (h : stale.firstTurn? self input = some turn) :
    (nimbleClientUpdate self input).view =
      ⟨turn.1.protocolState, turn.2, turn.1.quality.watchdog, turn.1.senderState, []⟩ := by
  have hbegin : (beginUpdate self input.now).state ≠ .disconnected := by
    rw [state_beginUpdate]
    exact hstate
  obtain ⟨_, hneg, hclient, hqueue, _⟩ := receiveLoop_of_turn hbegin h 0
  have hcut : self.IsCutShort input := hneg
  have hclient' : (self.received input).client = turn.1.countPacketIn := hclient
  have hqueue' : (self.received input).queue = turn.2 := hqueue
  rw [nimbleClientUpdate_of_cutShort hcut, UpdateOutcome.view, hclient', hqueue']
  rfl

/-- The update without the stale datagrams goes on from there. -/
theorem received_withoutStale_of_turn {self : NimbleClient L} (hstate : self.state ≠ .disconnected)
    {input : UpdateInput L} {turn : NimbleClient L × List (Received L)}
    (h : stale.firstTurn? self input = some turn) :
    turn.1.state ≠ .disconnected ∧
      ∃ more, self.received (stale.withoutStale self input) =
        receiveLoop turn.1 more (stale.removeStale turn.1 turn.2) := by
  have hbegin : (beginUpdate self input.now).state ≠ .disconnected := by
    rw [state_beginUpdate]
    exact hstate
  obtain ⟨hturn, _, _, _, hmore⟩ := receiveLoop_of_turn hbegin h 0
  exact ⟨hturn, hmore⟩

end

/-- The end of an update of a client that is not synced and does not wait. -/
theorem view_finishUpdate_of_sends {self : NimbleClient L} (h : self.state ≠ .synced)
    (hwait : ¬0 < self.waitTime) (result : Int) (queue : List (Received L))
    (input : UpdateInput L) :
    let sent := sendPackets (showStats (calcStats self input.now)) input.outgoing
    (finishUpdate self result queue input).view =
      ⟨self.protocolState, queue, self.quality.watchdog, sent.client.senderState,
        sentOctets sent.events⟩ := by
  intro sent
  have hprotocol := protocolState_finishUpdate self result queue input
  have hquality := quality_finishUpdate self result queue input
  rw [watched_of_ne h] at hprotocol hquality
  have hfinish : finishUpdate self result queue input =
      ⟨result, sent.client, queue, sent.events⟩ := by
    rw [finishUpdate_eq, watched_of_ne h, if_neg hwait]
  rw [UpdateOutcome.view, hprotocol, hquality, hfinish]

/-- A client that waits at the end of an update has used up a tick of its wait. -/
theorem waitTime_finishUpdate_of_waits {self : NimbleClient L} (h : self.state ≠ .synced)
    (hwait : 0 < self.waitTime) (result : Int) (queue : List (Received L))
    (input : UpdateInput L) :
    (finishUpdate self result queue input).client.waitTime = self.waitTime - 1 := by
  rw [finishUpdate_eq, watched_of_ne h, if_pos hwait]

theorem Watchdog.receive_tick_ne (w : Watchdog) : w.receive .tick ≠ w := by
  have hticks : (w.receive .tick).ticksWithoutIncomingDatagrams =
      w.ticksWithoutIncomingDatagrams + 1 := by
    by_cases hgood : w.advance.recommend = .keepConnection
    · rw [receive_tick_of_good hgood]
      rfl
    by_cases hcounter : w.consideringDisconnectCounter < 60
    · rw [receive_tick_of_bad hgood hcounter]
      rfl
    · rw [receive_tick_of_last hgood (by omega)]
      rfl
  intro h
  rw [h] at hticks
  omega

/-- Taking the last stale datagram away changes nothing exactly when the client that would go on
is not synced, does not wait and has nothing to send. -/
theorem view_finishUpdate_eq_iff {self : NimbleClient L} (hstate : self.state ≠ .disconnected)
    (result : Int) (input : UpdateInput L) :
    ((self.state ≠ .synced ∧ self.waitTime ≤ 0 ∧ self.HasNothingToSend input.outgoing) →
      (finishUpdate self result [] input).view =
        ⟨self.protocolState, [], self.quality.watchdog, self.senderState, []⟩) ∧
    (HeaderSizes L →
      (finishUpdate self result [] input).view =
        ⟨self.protocolState, [], self.quality.watchdog, self.senderState, []⟩ →
      self.state ≠ .synced ∧ self.waitTime ≤ 0 ∧ self.HasNothingToSend input.outgoing) := by
  constructor
  · rintro ⟨hsynced, hwait, hnothing⟩
    obtain ⟨hsent, hkeeps⟩ := sendPackets_of_hasNothingToSend
      ((hasNothingToSend_showStats_calcStats self input.now input.outgoing).mpr hnothing)
    rw [view_finishUpdate_of_sends hsynced (not_lt.mpr hwait), hsent, hkeeps]
    rfl
  · intro hsizes hview
    have hsynced : self.state ≠ .synced := by
      intro hsynced
      have hwatchdog := congrArg UpdateView.watchdog hview
      change (finishUpdate self result [] input).client.quality.watchdog =
        self.quality.watchdog at hwatchdog
      rw [quality_finishUpdate, quality_watched_of_synced hsynced,
        watchdog_qualityTick] at hwatchdog
      exact Watchdog.receive_tick_ne _ hwatchdog
    have hwait : ¬0 < self.waitTime := by
      intro hwait
      have htick := congrArg (fun view : UpdateView L => view.sender.waitTime) hview
      change (finishUpdate self result [] input).client.waitTime = self.waitTime at htick
      rw [waitTime_finishUpdate_of_waits hsynced hwait] at htick
      omega
    rw [view_finishUpdate_of_sends hsynced hwait] at hview
    refine ⟨hsynced, not_lt.mp hwait, ?_⟩
    have hsender : (showStats (calcStats self input.now)).state = self.state :=
      congrArg ProtocolState.state (protocolState_showStats_calcStats self input.now)
    apply (hasNothingToSend_showStats_calcStats self input.now input.outgoing).mp
    exact hasNothingToSend_of_sendPackets hsizes (by rw [hsender]; exact hsynced)
      (by rw [hsender]; exact hstate) (congrArg UpdateView.sent hview)
      (congrArg UpdateView.sender hview)

/-- The stale datagrams of an update can be taken away without a trace when the first of them is
the last datagram in the queue and finds a client that is not synced, does not wait and has
nothing to send, or when there are none. In every other case they cost something: a datagram that
stays in the queue, a tick of the watchdog or of the wait, or a datagram that is not sent. -/
theorem stale_datagrams (stale : StaleIds L) {self : NimbleClient L}
    (hstate : self.state ≠ .disconnected) (input : UpdateInput L) :
    ((∀ turn, stale.firstTurn? self input = some turn → HarmlessTurn input turn) →
      (nimbleClientUpdate self input).view =
        (nimbleClientUpdate self (stale.withoutStale self input)).view) ∧
    (HeaderSizes L →
      (nimbleClientUpdate self input).view =
        (nimbleClientUpdate self (stale.withoutStale self input)).view →
      ∀ turn, stale.firstTurn? self input = some turn → HarmlessTurn input turn) := by
  cases hturn : stale.firstTurn? self input with
  | none => exact ⟨fun _ => by rw [withoutStale_of_no_turn hturn], fun _ _ turn h => nomatch h⟩
  | some turn =>
      obtain ⟨hconnected, more, hreceived⟩ := received_withoutStale_of_turn hstate hturn
      rw [view_nimbleClientUpdate_of_turn hstate hturn]
      by_cases hrest : turn.2 = []
      · have hdone : self.received (stale.withoutStale self input) = ⟨more, turn.1, []⟩ := by
          rw [hreceived, hrest]
          rfl
        have hcut : ¬self.IsCutShort (stale.withoutStale self input) := by
          rw [NimbleClient.IsCutShort]
          rw [hdone]
          exact Int.not_lt.mpr (Int.natCast_nonneg more)
        have hupdate : nimbleClientUpdate self (stale.withoutStale self input) =
            finishUpdate turn.1 more [] (stale.withoutStale self input) := by
          rw [nimbleClientUpdate_of_not_cutShort hcut, hdone]
        have hiff := view_finishUpdate_eq_iff hconnected more (stale.withoutStale self input)
        rw [hupdate, hrest]
        constructor
        · intro h
          exact (hiff.1 (h turn rfl).2).symm
        · rintro hsizes hview _ h
          cases h
          exact ⟨hrest, hiff.2 hsizes hview.symm⟩
      · constructor
        · intro h
          exact absurd (h turn rfl).1 hrest
        · intro _ hview
          have hqueue : turn.2 = (nimbleClientUpdate self (stale.withoutStale self input)).queue :=
            congrArg UpdateView.queue hview
          rw [queue_nimbleClientUpdate, hreceived] at hqueue
          have hle : (stale.removeStale turn.1 turn.2).length ≤ turn.2.length :=
            length_removeStale_le turn.1 turn.2
          by_cases hremoved : stale.removeStale turn.1 turn.2 = []
          · rw [hremoved] at hqueue
            exact absurd hqueue hrest
          · have hlt := length_queue_receiveLoop turn.1 more hremoved
            rw [← hqueue] at hlt
            omega

/-- The ids of the small implementation that are not newer. -/
def smallStaleIds : StaleIds smallLibraries where
  isStale logic inStream := decide ((Small.receiveOrdered logic inStream).1 ≤ 0)
  receive_le _ _ h := of_decide_eq_true h
  receive_logic logic inStream h := by
    have hle : (Small.receiveOrdered logic inStream).1 ≤ 0 := of_decide_eq_true h
    change (Small.receiveOrdered logic inStream).2.1 = logic
    unfold Small.receiveOrdered at hle ⊢
    dsimp only at hle ⊢
    split
    · rfl
    · rename_i hread
      rw [hread] at hle
      exact if_pos hle

namespace Small

/-- A client that is connected and has waited long enough, but has not been told to go on. -/
def connectedClient : NimbleClient smallLibraries :=
  ((realizer smallLibraries).run (freshRealizer 1)
    ((syncSession 10 5).take 2 ++ .update (updateWith [connectResponse 1]) ::
      List.replicate 4 (.update (updateWith [])))).client

/-- A duplicate of the last chunk, and a game step response behind it. -/
def duplicateAndSteps : UpdateInput smallLibraries :=
  updateWith [blobPart 3 5 0 0xaa, stepResponse 4 10 10 [1]]

end Small

open Nimble.Small

/-- A duplicate that comes alone to a connected client does no harm; one in front of a game step
response does. -/
theorem stale_datagrams_connected :
    (nimbleClientUpdate connectedClient (updateWith [connectResponse 1])).view =
        (nimbleClientUpdate connectedClient
          (smallStaleIds.withoutStale connectedClient (updateWith [connectResponse 1]))).view ∧
      (nimbleClientUpdate syncedRealizer.client duplicateAndSteps).view ≠
        (nimbleClientUpdate syncedRealizer.client
          (smallStaleIds.withoutStale syncedRealizer.client duplicateAndSteps)).view := by
  constructor
  · have hturn : (smallStaleIds.firstTurn? connectedClient (updateWith [connectResponse 1])).any
        (fun turn => turn.2.isEmpty ∧ turn.1.state = .connected ∧ turn.1.waitTime ≤ 0) = true := by
      decide +kernel
    obtain ⟨turn, hfirst, hharmless⟩ := Option.any_eq_true _ _ |>.mp hturn
    obtain ⟨hempty, hstate, hwait⟩ := of_decide_eq_true hharmless
    apply (stale_datagrams smallStaleIds (by decide +kernel) _).1
    intro other h
    obtain rfl := Option.some.inj (hfirst.symm.trans h)
    exact ⟨List.isEmpty_iff.mp hempty, by simp [hstate], hwait, Or.inr (Or.inl hstate)⟩
  · intro hview
    have hturn : (smallStaleIds.firstTurn? syncedRealizer.client duplicateAndSteps).any
        (fun turn => !turn.2.isEmpty) = true := by
      decide +kernel
    obtain ⟨turn, h, hrest⟩ := Option.any_eq_true _ _ |>.mp hturn
    obtain ⟨hempty, _⟩ := (stale_datagrams smallStaleIds (by decide +kernel) _).2
      headerSizes_smallLibraries hview turn h
    rw [hempty] at hrest
    cases hrest

/-- A duplicate in front of a game step response delays it: the response stays in the queue, and
there is no quality tick. -/
theorem stale_datagrams_counterexample :
    Reachable syncedRealizer ∧ syncedRealizer.client.state ≠ .disconnected ∧
      (nimbleClientUpdate syncedRealizer.client duplicateAndSteps).queue.length = 1 ∧
      (nimbleClientUpdate syncedRealizer.client
        (smallStaleIds.withoutStale syncedRealizer.client duplicateAndSteps)).queue.length = 0 ∧
      (nimbleClientUpdate syncedRealizer.client duplicateAndSteps).view ≠
        (nimbleClientUpdate syncedRealizer.client
          (smallStaleIds.withoutStale syncedRealizer.client duplicateAndSteps)).view := by
  have hleft : (nimbleClientUpdate syncedRealizer.client duplicateAndSteps).queue.length = 1 := by
    decide +kernel
  have hempty : (nimbleClientUpdate syncedRealizer.client
      (smallStaleIds.withoutStale syncedRealizer.client duplicateAndSteps)).queue.length = 0 := by
    decide +kernel
  refine ⟨reachable_syncedRealizer, by decide +kernel, hleft, hempty, fun hview => ?_⟩
  have hqueue := congrArg (fun view : UpdateView smallLibraries => view.queue.length) hview
  change (nimbleClientUpdate syncedRealizer.client duplicateAndSteps).queue.length =
    (nimbleClientUpdate syncedRealizer.client
      (smallStaleIds.withoutStale syncedRealizer.client duplicateAndSteps)).queue.length at hqueue
  omega

end Nimble
