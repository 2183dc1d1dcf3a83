import Nimble.Model.System

/-! # What feeding a datagram can do

A feed either stops in front of the command or dispatches it. The header changes statistics
only; behind it, each handler has one lemma for the message it accepts and one for the messages
it passes over. -/

namespace Nimble

variable {L : Libraries}

/-! ## The protocol state -/

/-- The part of the client that the protocol is about. -/
structure ProtocolState (L : Libraries) where
  state : NimbleClientState
  joinParticipantPhase : NimbleJoiningState
  localParticipantLookup : Vector NimbleClientParticipantEntry nimbleClientMaxLocalUsersCount
  localParticipantCount : Nat
  partyAndSessionSecret : L.NimbleSerializePartyAndSessionSecret
  joinStateChannel : NimbleSerializeBlobStreamChannelId
  joinStateId : StepId
  joinedGameState : NimbleClientGameState
  outSteps : L.NbsSteps
  authoritativePendingStepsFromServer : L.NbsPendingSteps
  authoritativeStepsFromServer : L.NbsSteps

def NimbleClient.protocolState (self : NimbleClient L) : ProtocolState L where
  state := self.state
  joinParticipantPhase := self.joinParticipantPhase
  localParticipantLookup := self.localParticipantLookup
  localParticipantCount := self.localParticipantCount
  partyAndSessionSecret := self.partyAndSessionSecret
  joinStateChannel := self.joinStateChannel
  joinStateId := self.joinStateId
  joinedGameState := self.joinedGameState
  outSteps := self.outSteps
  authoritativePendingStepsFromServer := self.authoritativePendingStepsFromServer
  authoritativeStepsFromServer := self.authoritativeStepsFromServer

/-- The counters that decide a disconnect. -/
structure Watchdog where
  ticksWithoutIncomingDatagrams : Nat
  ticksWithoutAuthoritativeSteps : Nat
  consideringDisconnectCounter : Nat
  reason : NimbleConnectionQualityDisconnectReason

def NimbleClientConnectionQuality.watchdog (self : NimbleClientConnectionQuality L) :
    Watchdog where
  ticksWithoutIncomingDatagrams := self.ticksWithoutIncomingDatagrams
  ticksWithoutAuthoritativeSteps := self.ticksWithoutAuthoritativeStepsFromInSerialize
  consideringDisconnectCounter := self.consideringDisconnectCounter
  reason := self.reason

/-! ## The header -/

/-- The stream that a feed reads. -/
def Datagram.inStream (datagram : Datagram L) : FldInStream :=
  { fldInStreamInit datagram.octets with readDebugInfo := true }

/-- The header of a datagram changes the ordered id and statistics, and nothing that the
watchdog counts. -/
theorem readDatagramHeader_client (self : NimbleClient L) (datagram : Datagram L) :
    ∃ orderedDatagramIn lagometer quality latencyMs latencyMsStat,
      (readDatagramHeader self datagram).2.1 = { self with
        orderedDatagramIn := orderedDatagramIn
        lagometer := lagometer
        quality := quality
        latencyMs := latencyMs
        latencyMsStat := latencyMsStat } ∧
      quality.watchdog = self.quality.watchdog := by
  simp only [readDatagramHeader, nimbleClientReceivePong, reportDropped]
  split
  · exact ⟨_, _, _, _, _, rfl, rfl⟩
  · split <;> split <;> exact ⟨_, _, _, _, _, rfl, rfl⟩

/-- The header of a datagram leaves this part of a client alone. -/
def HeaderKeeps {α : Type*} (part : NimbleClient L → α) : Prop :=
  ∀ self datagram, part (readDatagramHeader self datagram).2.1 = part self

theorem headerKeeps_of {α : Type*} {part : NimbleClient L → α}
    (h : ∀ self orderedDatagramIn lagometer quality latencyMs latencyMsStat,
      part { self with
        orderedDatagramIn := orderedDatagramIn
        lagometer := lagometer
        quality := quality
        latencyMs := latencyMs
        latencyMsStat := latencyMsStat } = part self) : HeaderKeeps part := by
  intro self datagram
  obtain ⟨_, _, _, _, _, hclient, _⟩ := readDatagramHeader_client self datagram
  rw [hclient, h]

theorem headerKeeps_protocolState : HeaderKeeps (@NimbleClient.protocolState L) :=
  headerKeeps_of fun _ _ _ _ _ _ => rfl

theorem headerKeeps_watchdog :
    HeaderKeeps fun self : NimbleClient L => self.quality.watchdog := by
  intro self datagram
  obtain ⟨_, _, _, _, _, hclient, hquality⟩ := readDatagramHeader_client self datagram
  rw [hclient]
  exact hquality

/-! ## Dispatch -/

/-- A command on its way to its handler: the client behind the header, the command octet and
the rest of the stream. -/
structure Dispatch (L : Libraries) where
  client : NimbleClient L
  cmd : UInt8
  inStream : FldInStream
  locals : FeedLocals L

/-- The command that `nimbleClientFeed` dispatches, if it gets that far. -/
def dispatch? (self : NimbleClient L) (datagram : Datagram L) : Option (Dispatch L) :=
  if datagram.octets.length < 1 ∨ self.state = .disconnected then none
  else
    let header := readDatagramHeader self datagram
    if header.1 < 0 then none
    else
      let command := readCommand header.2.2 datagram.locals
      some ⟨header.2.1, command.1, command.2, datagram.locals⟩

/-- The handler's return value and the client afterwards. -/
def Dispatch.outcome (x : Dispatch L) : Int × NimbleClient L :=
  dispatchCommand x.client x.cmd x.inStream x.locals

theorem nimbleClientFeed_eq (self : NimbleClient L) (datagram : Datagram L) :
    nimbleClientFeed self datagram =
      if datagram.octets.length < 1 then (-1, self)
      else if self.state = .disconnected then (0, self)
      else if (readDatagramHeader self datagram).1 < 0 then
        ((readDatagramHeader self datagram).1, (readDatagramHeader self datagram).2.1)
      else
        dispatchCommand (readDatagramHeader self datagram).2.1
          (readCommand (readDatagramHeader self datagram).2.2 datagram.locals).1
          (readCommand (readDatagramHeader self datagram).2.2 datagram.locals).2
          datagram.locals := rfl

theorem nimbleClientFeed_of_dispatch {self : NimbleClient L} {datagram : Datagram L}
    {x : Dispatch L} (h : dispatch? self datagram = some x) :
    nimbleClientFeed self datagram = x.outcome := by
  simp only [dispatch?] at h
  split at h
  · cases h
  · rename_i hearly
    split at h
    · cases h
    · rename_i hheader
      obtain rfl := Option.some.inj h
      rw [not_or] at hearly
      rw [nimbleClientFeed_eq, if_neg hearly.1, if_neg hearly.2, if_neg hheader]
      rfl

/-- A feed that does not dispatch returns from the header, or before it. -/
theorem nimbleClientFeed_of_dispatch_eq_none {self : NimbleClient L} {datagram : Datagram L}
    (h : dispatch? self datagram = none) :
    (nimbleClientFeed self datagram).2 = self ∨
      (nimbleClientFeed self datagram).1 < 0 ∧
        (nimbleClientFeed self datagram).2 = (readDatagramHeader self datagram).2.1 := by
  rw [nimbleClientFeed_eq]
  split
  · exact Or.inl rfl
  split
  · exact Or.inl rfl
  rename_i hlen hstate
  simp only [dispatch?, not_or.mpr ⟨hlen, hstate⟩, ↓reduceIte] at h
  split at h
  · rename_i hheader
    rw [if_pos hheader]
    exact Or.inr ⟨hheader, rfl⟩
  · cases h

theorem dispatch?_client {self : NimbleClient L} {datagram : Datagram L} {x : Dispatch L}
    (h : dispatch? self datagram = some x) :
    x.client = (readDatagramHeader self datagram).2.1 := by
  simp only [dispatch?] at h
  split at h
  · cases h
  · split at h
    · cases h
    · obtain rfl := Option.some.inj h
      rfl

theorem HeaderKeeps.of_dispatch {α : Type*} {part : NimbleClient L → α}
    (hkeeps : HeaderKeeps part) {self : NimbleClient L} {datagram : Datagram L} {x : Dispatch L}
    (h : dispatch? self datagram = some x) : part x.client = part self := by
  rw [dispatch?_client h, hkeeps]

theorem HeaderKeeps.of_dispatch_eq_none {α : Type*} {part : NimbleClient L → α}
    (hkeeps : HeaderKeeps part) {self : NimbleClient L} {datagram : Datagram L}
    (h : dispatch? self datagram = none) :
    part (nimbleClientFeed self datagram).2 = part self := by
  rcases nimbleClientFeed_of_dispatch_eq_none h with hself | ⟨_, hheader⟩
  · rw [hself]
  · rw [hheader, hkeeps]

theorem protocolState_of_dispatch {self : NimbleClient L} {datagram : Datagram L}
    {x : Dispatch L} (h : dispatch? self datagram = some x) :
    x.client.protocolState = self.protocolState :=
  headerKeeps_protocolState.of_dispatch h

theorem protocolState_feed_of_dispatch_eq_none {self : NimbleClient L} {datagram : Datagram L}
    (h : dispatch? self datagram = none) :
    (nimbleClientFeed self datagram).2.protocolState = self.protocolState :=
  headerKeeps_protocolState.of_dispatch_eq_none h

/-! ## Handlers -/

/-- The return code of the decoder and the connection a connect response offers. -/
def connectFields (inStream : FldInStream) (locals : FeedLocals L) :
    Int × NimbleSerializeConnectResponse :=
  let read := L.nimbleSerializeClientInConnectResponse inStream
  (read.code, read.value.getD locals.connectResponse)

theorem nimbleClientOnConnectResponse_snd (self : NimbleClient L) (inStream : FldInStream)
    (locals : FeedLocals L) :
    (nimbleClientOnConnectResponse self inStream locals).2 =
      if 0 ≤ (connectFields inStream locals).1 ∧ self.state = .requestingConnect then
        { self with
          state := .connected
          useDebugStreams := (connectFields inStream locals).2.useDebugStreams
          remoteConnectionId := (connectFields inStream locals).2.connectionId }
      else self := by
  simp only [nimbleClientOnConnectResponse, connectFields]
  split
  · exact (if_neg fun h => by omega).symm
  · split
    · exact (if_pos ⟨by omega, ‹_›⟩).symm
    · exact (if_neg fun h => absurd h.2 ‹_›).symm

/-- The fields of a game state response as its handler reads them. -/
structure GameStateFields where
  code : Int
  clientRequestId : UInt8
  stateId : StepId
  channelId : NimbleSerializeBlobStreamChannelId

def gameStateFields (inStream : FldInStream) (locals : FeedLocals L) : GameStateFields :=
  let request := L.fldInStreamReadUInt8 inStream
  let state := L.nimbleSerializeInStateId request.stream
  let channel := L.nimbleSerializeInBlobStreamChannelId state.stream
  { code := channel.code
    clientRequestId := request.value.getD locals.clientRequestId
    stateId := state.value.getD locals.stateId
    channelId := channel.value.getD locals.channelId }

/-- The guards of `nimbleClientOnDownloadGameStateResponse`. -/
def NimbleClient.AcceptsGameState (self : NimbleClient L) (fields : GameStateFields) : Prop :=
  0 ≤ fields.code ∧ fields.clientRequestId = self.downloadStateClientRequestId ∧
    fields.channelId ≠ self.joinStateChannel

instance (self : NimbleClient L) (fields : GameStateFields) :
    Decidable (self.AcceptsGameState fields) :=
  inferInstanceAs (Decidable (_ ∧ _ ∧ _))

/-- The client that has accepted a game state response. -/
def NimbleClient.startDownload (self : NimbleClient L) (fields : GameStateFields) :
    NimbleClient L :=
  { self with
    joinStateChannel := fields.channelId
    joinedGameState := { self.joinedGameState with stepId := fields.stateId }
    joinStateId := fields.stateId
    outSteps := L.nbsStepsReInit self.outSteps fields.stateId
    state := .joiningDownloadingState
    waitTime := 0 }

theorem nimbleClientOnDownloadGameStateResponse_eq (self : NimbleClient L)
    (inStream : FldInStream) (locals : FeedLocals L) :
    (nimbleClientOnDownloadGameStateResponse self inStream locals).2 =
      if self.AcceptsGameState (gameStateFields inStream locals) then
        self.startDownload (gameStateFields inStream locals)
      else self := by
  simp only [nimbleClientOnDownloadGameStateResponse, NimbleClient.AcceptsGameState,
    gameStateFields]
  split
  · exact (if_neg fun h => by omega).symm
  split
  · exact (if_neg fun h => absurd h.2.1 ‹_›).symm
  split
  · exact (if_neg fun h => absurd ‹_› h.2.2).symm
  · exact (if_pos ⟨by omega, not_not.mp ‹_›, ‹_›⟩).symm

/-- The return code of the decoder and the response it delivers. -/
def joinFields (inStream : FldInStream) (locals : FeedLocals L) :
    Int × NimbleSerializeJoinGameResponse L.NimbleSerializePartyAndSessionSecret :=
  let read := L.nimbleSerializeClientInJoinGameResponse inStream
  (read.code, read.value.getD locals.gameResponse)

/-- The client that has accepted a join response. -/
def NimbleClient.join (self : NimbleClient L)
    (response : NimbleSerializeJoinGameResponse L.NimbleSerializePartyAndSessionSecret) :
    NimbleClient L :=
  { self with
    partyAndSessionSecret := response.partyAndSessionSecret
    localParticipantCount := response.participantCount
    localParticipantLookup :=
      writeParticipants self.localParticipantLookup 0 response.participants
    joinParticipantPhase := .joinedParticipant
    waitTime := 0
    joinStateChannel := 0 }

theorem nimbleClientOnJoinGameResponse_snd (self : NimbleClient L) (inStream : FldInStream)
    (locals : FeedLocals L) :
    (nimbleClientOnJoinGameResponse self inStream locals).2 =
      if 0 ≤ (joinFields inStream locals).1 ∧
          self.joinParticipantPhase = .joiningParticipant then
        self.join (joinFields inStream locals).2
      else self := by
  simp only [nimbleClientOnJoinGameResponse, joinFields]
  split
  · exact (if_neg fun h => by omega).symm
  split
  · exact (if_neg fun h => absurd h.2 ‹_›).symm
  · exact (if_pos ⟨by omega, not_not.mp ‹_›⟩).symm

theorem nimbleClientOnJoinGameParticipantOutOfSpaceResponse_snd (self : NimbleClient L)
    (inStream : FldInStream) :
    (nimbleClientOnJoinGameParticipantOutOfSpaceResponse self inStream).2 =
      if 0 ≤ (L.nimbleSerializeInNonce inStream).code then
        { self with joinParticipantPhase := .outOfParticipantSlots }
      else self := by
  simp only [nimbleClientOnJoinGameParticipantOutOfSpaceResponse]
  split
  · exact (if_neg (by omega)).symm
  · exact (if_pos (by omega)).symm

/-- The channel a blob part names. -/
def partChannelId (inStream : FldInStream) (locals : FeedLocals L) :
    NimbleSerializeBlobStreamChannelId :=
  (L.nimbleSerializeInBlobStreamChannelId inStream).value.getD locals.partChannelId

/-- The blob stream routine's return value, and the client with the chunk taken in. -/
def NimbleClient.takePart (self : NimbleClient L) (inStream : FldInStream) :
    Int × NimbleClient L :=
  self.receiveBlob (L.nimbleSerializeInBlobStreamChannelId inStream).stream

theorem nimbleClientOnDownloadGameStatePart_of_ne {self : NimbleClient L}
    {inStream : FldInStream} {locals : FeedLocals L}
    (h : partChannelId inStream locals ≠ self.joinStateChannel) :
    nimbleClientOnDownloadGameStatePart self inStream locals = (0, self) :=
  if_pos h

theorem nimbleClientOnDownloadGameStatePart_of_eq {self : NimbleClient L}
    {inStream : FldInStream} {locals : FeedLocals L}
    (h : partChannelId inStream locals = self.joinStateChannel) :
    nimbleClientOnDownloadGameStatePart self inStream locals =
      if (self.takePart inStream).1 < 0 then self.takePart inStream
      else if L.blobStreamInIsComplete (self.takePart inStream).2.blobStreamIn then
        (0, trySetInitialGameState (self.takePart inStream).2)
      else (0, (self.takePart inStream).2) := by
  have hself : { self with joinStateChannel := partChannelId inStream locals } = self := by rw [h]
  have htaken : { self with joinStateChannel := partChannelId inStream locals }.receiveBlob
      (L.nimbleSerializeInBlobStreamChannelId inStream).stream = self.takePart inStream := by
    rw [hself]
    rfl
  rw [← htaken]
  exact if_neg (not_not.mpr h)

/-- The chunk of a part is taken in and completes the blob. -/
def NimbleClient.CompletesBlob (self : NimbleClient L) (inStream : FldInStream) : Prop :=
  0 ≤ (self.takePart inStream).1 ∧
    L.blobStreamInIsComplete (self.takePart inStream).2.blobStreamIn = true

instance (self : NimbleClient L) (inStream : FldInStream) :
    Decidable (self.CompletesBlob inStream) :=
  inferInstanceAs (Decidable (_ ∧ _))

theorem nimbleClientOnDownloadGameStatePart_snd (self : NimbleClient L)
    (inStream : FldInStream) (locals : FeedLocals L) :
    (nimbleClientOnDownloadGameStatePart self inStream locals).2 =
      if partChannelId inStream locals ≠ self.joinStateChannel then self
      else if self.CompletesBlob inStream then
        trySetInitialGameState (self.takePart inStream).2
      else (self.takePart inStream).2 := by
  by_cases hchannel : partChannelId inStream locals = self.joinStateChannel
  · rw [if_neg (not_not.mpr hchannel), nimbleClientOnDownloadGameStatePart_of_eq hchannel]
    split
    · exact (if_neg fun h : self.CompletesBlob inStream => by have := h.1; omega).symm
    · split
      · exact (if_pos ⟨by omega, ‹_›⟩).symm
      · exact (if_neg fun h : self.CompletesBlob inStream => absurd h.2 ‹_›).symm
  · rw [if_pos hchannel, nimbleClientOnDownloadGameStatePart_of_ne hchannel]

@[simp] theorem protocolState_takePart (self : NimbleClient L) (inStream : FldInStream) :
    (self.takePart inStream).2.protocolState = self.protocolState := rfl

/-- The client that has adopted its blob as its game state. -/
def NimbleClient.adoptBlob (self : NimbleClient L) : NimbleClient L :=
  let initialized := nimbleClientGameStateInit self.blobStreamAllocator self.joinStateId
    (L.blob self.blobStreamIn) (L.blobOctetCount self.blobStreamIn)
  { self with
    state := .synced
    joinedGameState := initialized.1
    blobStreamAllocator := initialized.2
    authoritativePendingStepsFromServer :=
      L.nbsPendingStepsReset self.authoritativePendingStepsFromServer self.joinStateId
    authoritativeStepsFromServer :=
      L.nbsStepsReInit self.authoritativeStepsFromServer self.joinStateId
    outSteps := L.nbsStepsReInit self.outSteps self.joinStateId }

theorem trySetInitialGameState_of_synced {self : NimbleClient L} (h : self.state = .synced) :
    trySetInitialGameState self = self :=
  if_pos h

theorem trySetInitialGameState_of_ne {self : NimbleClient L} (h : self.state ≠ .synced) :
    trySetInitialGameState self = self.adoptBlob :=
  if_neg h

/-- The stream of a game step response at the acknowledged id. -/
def behindDelta (inStream : FldInStream) : FldInStream :=
  (L.fldInStreamReadInt8 (L.fldInStreamReadUInt8 inStream).stream).stream

/-- The step id a game step response acknowledges. -/
def acknowledgedStepId (self : NimbleClient L) (inStream : FldInStream) (locals : FeedLocals L) :
    StepId :=
  (readGameStepHeader self inStream locals).2.1

/-- What `nbsPendingStepsInSerialize` gives for a game step response. -/
def serializeSteps (self : NimbleClient L) (inStream : FldInStream) (locals : FeedLocals L) :
    Int × L.NbsPendingSteps :=
  L.nbsPendingStepsInSerialize (readGameStepHeader self inStream locals).2.2
    self.authoritativePendingStepsFromServer

/-- The two authoritative buffers after a game step response. -/
def authoritativeBuffersAfter (self : NimbleClient L) (inStream : FldInStream)
    (locals : FeedLocals L) : L.NbsSteps × L.NbsPendingSteps :=
  let serialized := serializeSteps self inStream locals
  if serialized.1 < 0 then (self.authoritativeStepsFromServer, serialized.2)
  else (L.nbsPendingStepsCopy self.authoritativeStepsFromServer serialized.2).2

/-- The client behind the acknowledgement: statistics, and the acknowledged steps discarded. -/
def NimbleClient.discardAcknowledged (self : NimbleClient L) (inStream : FldInStream)
    (locals : FeedLocals L) : NimbleClient L :=
  { (readGameStepHeader self inStream locals).1 with
    outSteps := L.nbsStepsDiscardUpTo self.outSteps
      (acknowledgedStepId self inStream locals + 1) }

/-- Of the header of a game step response, all but the acknowledged id goes to statistics. -/
theorem discardAcknowledged_eq (self : NimbleClient L) (inStream : FldInStream)
    (locals : FeedLocals L) : ∃ stepCountStat bufferDeltaStat lagometer,
    self.discardAcknowledged inStream locals = { self with
      stepCountInIncomingBufferOnServerStat := stepCountStat
      authoritativeBufferDeltaStat := bufferDeltaStat
      lagometer := lagometer
      receivedStepIdByServerOnlyForDebug := acknowledgedStepId self inStream locals
      outSteps := L.nbsStepsDiscardUpTo self.outSteps
        (acknowledgedStepId self inStream locals + 1) } :=
  ⟨_, _, _, rfl⟩

/-- The client that has taken in the steps of a response. -/
def NimbleClient.takeSteps (self : NimbleClient L) (stepCount : Int) (steps : L.NbsSteps)
    (pending : L.NbsPendingSteps) : NimbleClient L :=
  { self with
    authoritativePendingStepsFromServer := pending
    authoritativeStepsFromServer := steps
    waitingStepsFromServer :=
      L.statsIntAdd self.waitingStepsFromServer (intCast (L.stepsCount steps))
    quality := nimbleClientConnectionQualityReceivedAuthoritativeSteps self.quality
      stepCount.toNat
    simulationStepsPerSecond :=
      L.statsIntPerSecondAdd self.simulationStepsPerSecond (intCast stepCount) }

theorem nimbleClientOnGameStepResponse_eq (self : NimbleClient L) (inStream : FldInStream)
    (locals : FeedLocals L) :
    nimbleClientOnGameStepResponse self inStream locals =
      if (serializeSteps self inStream locals).1 < 0 then
        ((serializeSteps self inStream locals).1,
          { self.discardAcknowledged inStream locals with
            authoritativePendingStepsFromServer := (serializeSteps self inStream locals).2 })
      else
        ((serializeSteps self inStream locals).1,
          (self.discardAcknowledged inStream locals).takeSteps
            (serializeSteps self inStream locals).1
            (authoritativeBuffersAfter self inStream locals).1
            (authoritativeBuffersAfter self inStream locals).2) := by
  have hbuffers : ¬(serializeSteps self inStream locals).1 < 0 →
      authoritativeBuffersAfter self inStream locals =
        (L.nbsPendingStepsCopy self.authoritativeStepsFromServer
          (serializeSteps self inStream locals).2).2 := fun h => if_neg h
  split
  · exact if_pos ‹_›
  · rw [hbuffers ‹_›]
    exact if_neg ‹_›

/-- A game step response changes the three step buffers and no other protocol state. -/
theorem protocolState_nimbleClientOnGameStepResponse (self : NimbleClient L)
    (inStream : FldInStream) (locals : FeedLocals L) :
    (nimbleClientOnGameStepResponse self inStream locals).2.protocolState =
      { self.protocolState with
        outSteps := L.nbsStepsDiscardUpTo self.outSteps
          (acknowledgedStepId self inStream locals + 1)
        authoritativeStepsFromServer := (authoritativeBuffersAfter self inStream locals).1
        authoritativePendingStepsFromServer :=
          (authoritativeBuffersAfter self inStream locals).2 } := by
  rw [nimbleClientOnGameStepResponse_eq]
  split
  · rw [authoritativeBuffersAfter, if_pos ‹_›]
    rfl
  · rfl

/-! ## The commands of a dispatch -/

def Dispatch.command (x : Dispatch L) : Option NimbleSerializeCmd :=
  L.nimbleSerializeCmd x.cmd

/-- A dispatched game state response that passes the guards of its handler. -/
def Dispatch.StartsDownload (x : Dispatch L) : Prop :=
  x.command = some .gameStateResponse ∧
    x.client.AcceptsGameState (gameStateFields x.inStream x.locals)

/-- A dispatched blob part on the channel of the client: its chunk goes to the blob stream. -/
def Dispatch.TakesPart (x : Dispatch L) : Prop :=
  x.command = some .serverOutBlobStream ∧
    partChannelId x.inStream x.locals = x.client.joinStateChannel

/-- A dispatched blob part that makes the client adopt the blob. -/
def Dispatch.AdoptsBlob (x : Dispatch L) : Prop :=
  x.TakesPart ∧ x.client.CompletesBlob x.inStream ∧ x.client.state ≠ .synced

/-- A dispatched connect response that connects the client. -/
def Dispatch.Connects (x : Dispatch L) : Prop :=
  x.command = some .connectResponse ∧ 0 ≤ (connectFields x.inStream x.locals).1 ∧
    x.client.state = .requestingConnect

/-- A dispatched join response that its handler accepts. -/
def Dispatch.Joins (x : Dispatch L) : Prop :=
  x.command = some .joinGameResponse ∧ 0 ≤ (joinFields x.inStream x.locals).1 ∧
    x.client.joinParticipantPhase = .joiningParticipant

/-- A dispatched game step response whose steps are taken in. -/
def Dispatch.TakesSteps (x : Dispatch L) : Prop :=
  x.command = some .gameStepResponse ∧ 0 ≤ (serializeSteps x.client x.inStream x.locals).1

instance (x : Dispatch L) : Decidable x.StartsDownload :=
  inferInstanceAs (Decidable (_ ∧ _))

instance (x : Dispatch L) : Decidable x.TakesPart :=
  inferInstanceAs (Decidable (_ ∧ _))

instance (x : Dispatch L) : Decidable x.AdoptsBlob :=
  inferInstanceAs (Decidable (_ ∧ _ ∧ _))

instance (x : Dispatch L) : Decidable x.Joins :=
  inferInstanceAs (Decidable (_ ∧ _ ∧ _))

instance (x : Dispatch L) : Decidable x.TakesSteps :=
  inferInstanceAs (Decidable (_ ∧ _))

theorem Dispatch.outcome_connectResponse {x : Dispatch L}
    (h : x.command = some .connectResponse) :
    x.outcome = nimbleClientOnConnectResponse x.client x.inStream x.locals := by
  change L.nimbleSerializeCmd x.cmd = _ at h
  simp only [outcome, dispatchCommand, h]

theorem Dispatch.outcome_serverOutBlobStream {x : Dispatch L}
    (h : x.command = some .serverOutBlobStream) :
    x.outcome = nimbleClientOnDownloadGameStatePart x.client x.inStream x.locals := by
  change L.nimbleSerializeCmd x.cmd = _ at h
  simp only [outcome, dispatchCommand, h]

theorem Dispatch.outcome_gameStepResponse {x : Dispatch L}
    (h : x.command = some .gameStepResponse) :
    x.outcome =
      (intCast (nimbleClientOnGameStepResponse x.client x.inStream x.locals).1,
        (nimbleClientOnGameStepResponse x.client x.inStream x.locals).2) := by
  change L.nimbleSerializeCmd x.cmd = _ at h
  simp only [outcome, dispatchCommand, h]

theorem Dispatch.outcome_joinGameResponse {x : Dispatch L}
    (h : x.command = some .joinGameResponse) :
    x.outcome = nimbleClientOnJoinGameResponse x.client x.inStream x.locals := by
  change L.nimbleSerializeCmd x.cmd = _ at h
  simp only [outcome, dispatchCommand, h]

theorem Dispatch.outcome_gameStateResponse {x : Dispatch L}
    (h : x.command = some .gameStateResponse) :
    x.outcome = nimbleClientOnDownloadGameStateResponse x.client x.inStream x.locals := by
  change L.nimbleSerializeCmd x.cmd = _ at h
  simp only [outcome, dispatchCommand, h]

theorem Dispatch.outcome_joinGameOutOfParticipantSlotsResponse {x : Dispatch L}
    (h : x.command = some .joinGameOutOfParticipantSlotsResponse) :
    x.outcome = nimbleClientOnJoinGameParticipantOutOfSpaceResponse x.client x.inStream := by
  change L.nimbleSerializeCmd x.cmd = _ at h
  simp only [outcome, dispatchCommand, h]

theorem Dispatch.outcome_of_adoptsBlob {x : Dispatch L} (h : x.AdoptsBlob) :
    x.outcome.2 = (x.client.takePart x.inStream).2.adoptBlob := by
  have hstate : (x.client.takePart x.inStream).2.state ≠ .synced := h.2.2
  rw [outcome_serverOutBlobStream h.1.1, nimbleClientOnDownloadGameStatePart_snd,
    if_neg (not_not.mpr h.1.2), if_pos h.2.1, trySetInitialGameState_of_ne hstate]

/-- The commands with a case in the `switch`. -/
def NimbleSerializeCmd.isHandled : NimbleSerializeCmd → Bool
  | .clientOutBlobStream => false
  | .downloadGameStateRequest => false
  | .gameStep => false
  | _ => true

/-- The six server commands, and everything else, which the `switch` rejects. -/
theorem Dispatch.command_cases (x : Dispatch L) :
    x.command = some .connectResponse ∨ x.command = some .serverOutBlobStream ∨
      x.command = some .gameStepResponse ∨ x.command = some .joinGameResponse ∨
      x.command = some .gameStateResponse ∨
      x.command = some .joinGameOutOfParticipantSlotsResponse ∨
      (∀ cmd, x.command = some cmd → cmd.isHandled = false) ∧ x.outcome = (-1, x.client) := by
  cases h : x.command with
  | none => simp_all [outcome, dispatchCommand, command]
  | some cmd => cases cmd <;> simp_all [outcome, dispatchCommand, command, NimbleSerializeCmd.isHandled]

/-- A dispatched datagram that is none of those that its handler acts on. -/
structure Dispatch.IsIgnored (x : Dispatch L) : Prop where
  connects : ¬x.Connects
  takesPart : ¬x.TakesPart
  steps : x.command ≠ some .gameStepResponse
  joins : ¬x.Joins
  startsDownload : ¬x.StartsDownload

/-- What a dispatched datagram makes of the client. -/
inductive Dispatch.Effect (x : Dispatch L) : NimbleClient L → Prop
  | connect (h : x.Connects) : x.Effect { x.client with
      state := .connected
      useDebugStreams := (connectFields x.inStream x.locals).2.useDebugStreams
      remoteConnectionId := (connectFields x.inStream x.locals).2.connectionId }
  | takePart (h : x.TakesPart) (hadopts : ¬x.AdoptsBlob) :
      x.Effect (x.client.takePart x.inStream).2
  | adoptBlob (h : x.AdoptsBlob) : x.Effect (x.client.takePart x.inStream).2.adoptBlob
  | failSteps (h : x.command = some .gameStepResponse) (htakes : ¬x.TakesSteps) :
      x.Effect { x.client.discardAcknowledged x.inStream x.locals with
        authoritativePendingStepsFromServer :=
          (serializeSteps x.client x.inStream x.locals).2 }
  | takeSteps (h : x.TakesSteps) :
      x.Effect ((x.client.discardAcknowledged x.inStream x.locals).takeSteps
        (serializeSteps x.client x.inStream x.locals).1
        (authoritativeBuffersAfter x.client x.inStream x.locals).1
        (authoritativeBuffersAfter x.client x.inStream x.locals).2)
  | join (h : x.Joins) : x.Effect (x.client.join (joinFields x.inStream x.locals).2)
  | startDownload (h : x.StartsDownload) :
      x.Effect (x.client.startDownload (gameStateFields x.inStream x.locals))
  | outOfSlots (h : x.command = some .joinGameOutOfParticipantSlotsResponse) :
      x.Effect { x.client with joinParticipantPhase := .outOfParticipantSlots }
  | ignore (h : x.IsIgnored) : x.Effect x.client

/-- A command that no handler acts on unless its own guard is met is ignored otherwise. -/
theorem Dispatch.isIgnored_of_command {x : Dispatch L} {cmd : NimbleSerializeCmd}
    (h : x.command = some cmd) (hsteps : cmd ≠ .gameStepResponse)
    (hconnects : cmd = .connectResponse → ¬x.Connects)
    (hpart : cmd = .serverOutBlobStream → ¬x.TakesPart)
    (hjoins : cmd = .joinGameResponse → ¬x.Joins)
    (hstarts : cmd = .gameStateResponse → ¬x.StartsDownload) : x.IsIgnored := by
  have hcommand : ∀ other, x.command = some other → cmd = other :=
    fun other hother => Option.some.inj (h.symm.trans hother)
  exact ⟨fun hx => hconnects (hcommand _ hx.1) hx, fun hx => hpart (hcommand _ hx.1) hx,
    fun hx => hsteps (hcommand _ hx), fun hx => hjoins (hcommand _ hx.1) hx,
    fun hx => hstarts (hcommand _ hx.1) hx⟩

theorem Dispatch.effect (x : Dispatch L) : x.Effect x.outcome.2 := by
  rcases x.command_cases with h | h | h | h | h | h | h
  · rw [outcome_connectResponse h, nimbleClientOnConnectResponse_snd]
    split
    · exact .connect ⟨h, ‹_›⟩
    · rename_i hrefused
      exact .ignore (isIgnored_of_command h (by simp) (fun _ hx => hrefused hx.2) (by simp)
        (by simp) (by simp))
  · rw [outcome_serverOutBlobStream h, nimbleClientOnDownloadGameStatePart_snd]
    split
    · rename_i hchannel
      exact .ignore (isIgnored_of_command h (by simp) (by simp) (fun _ hx => hchannel hx.2)
        (by simp) (by simp))
    have hpart : x.TakesPart := ⟨h, not_not.mp ‹_›⟩
    split
    · rename_i hcompletes
      by_cases hsynced : (x.client.takePart x.inStream).2.state = .synced
      · rw [trySetInitialGameState_of_synced hsynced]
        exact .takePart hpart fun hadopts => hadopts.2.2 hsynced
      · rw [trySetInitialGameState_of_ne hsynced]
        exact .adoptBlob ⟨hpart, hcompletes, hsynced⟩
    · exact .takePart hpart fun hadopts => absurd hadopts.2.1 ‹_›
  · rw [outcome_gameStepResponse h, nimbleClientOnGameStepResponse_eq]
    split
    · exact .failSteps h fun htakes => by have := htakes.2; omega
    · exact .takeSteps ⟨h, by omega⟩
  · rw [outcome_joinGameResponse h, nimbleClientOnJoinGameResponse_snd]
    split
    · exact .join ⟨h, ‹_›⟩
    · rename_i hrefused
      exact .ignore (isIgnored_of_command h (by simp) (by simp) (by simp)
        (fun _ hx => hrefused hx.2) (by simp))
  · rw [outcome_gameStateResponse h, nimbleClientOnDownloadGameStateResponse_eq]
    split
    · exact .startDownload ⟨h, ‹_›⟩
    · rename_i hrefused
      exact .ignore (isIgnored_of_command h (by simp) (by simp) (by simp) (by simp)
        (fun _ hx => hrefused hx.2))
  · rw [outcome_joinGameOutOfParticipantSlotsResponse h,
      nimbleClientOnJoinGameParticipantOutOfSpaceResponse_snd]
    split
    · exact .outOfSlots h
    · exact .ignore (isIgnored_of_command h (by simp) (by simp) (by simp) (by simp) (by simp))
  · have hnot : ∀ cmd, x.command = some cmd → cmd.isHandled ≠ true := by
      intro cmd hcmd
      simp [h.1 cmd hcmd]
    rw [h.2]
    exact .ignore ⟨fun hx => hnot _ hx.1 rfl, fun hx => hnot _ hx.1 rfl, fun hx => hnot _ hx rfl,
      fun hx => hnot _ hx.1 rfl, fun hx => hnot _ hx.1 rfl⟩

/-- Only three messages move the client's state, each in one way. -/
theorem Dispatch.state_outcome (x : Dispatch L) :
    x.outcome.2.state = x.client.state ∨ x.Connects ∧ x.outcome.2.state = .connected ∨
      x.StartsDownload ∧ x.outcome.2.state = .joiningDownloadingState ∨
      x.AdoptsBlob ∧ x.outcome.2.state = .synced := by
  have heffect := x.effect
  generalize x.outcome.2 = client at heffect ⊢
  cases heffect with
  | connect h => exact Or.inr (Or.inl ⟨h, rfl⟩)
  | startDownload h => exact Or.inr (Or.inr (Or.inl ⟨h, rfl⟩))
  | adoptBlob h => exact Or.inr (Or.inr (Or.inr ⟨h, rfl⟩))
  | _ => exact Or.inl rfl

/-! ## What no datagram changes -/

/-- What only initializing or resetting a client writes. -/
structure Setup (L : Libraries) where
  transport : L.DatagramTransport
  downloadStateClientRequestId : UInt8
  useStats : Bool
  memory : L.ImprintAllocator
  maximumSingleParticipantStepOctetCount : Nat
  maximumNumberOfParticipants : Nat
  applicationVersion : L.NimbleSerializeVersion
  connectRequestId : UInt8
  expectedTickDurationMs : Nat
  wantsDebugStreams : Bool

def NimbleClient.setup (self : NimbleClient L) : Setup L where
  transport := self.transport
  downloadStateClientRequestId := self.downloadStateClientRequestId
  useStats := self.useStats
  memory := self.memory
  maximumSingleParticipantStepOctetCount := self.maximumSingleParticipantStepOctetCount
  maximumNumberOfParticipants := self.maximumNumberOfParticipants
  applicationVersion := self.applicationVersion
  connectRequestId := self.connectRequestId
  expectedTickDurationMs := self.expectedTickDurationMs
  wantsDebugStreams := self.wantsDebugStreams

/-- The fields that only the application and the sending side write. -/
structure LocalFields (L : Libraries) where
  setup : Setup L
  joinGameRequest : NimbleSerializeJoinGameRequest L.JoinGameOptions
  orderedDatagramOut : L.OrderedDatagramOutLogic

def NimbleClient.localFields (self : NimbleClient L) : LocalFields L where
  setup := self.setup
  joinGameRequest := self.joinGameRequest
  orderedDatagramOut := self.orderedDatagramOut

theorem headerKeeps_localFields : HeaderKeeps (@NimbleClient.localFields L) :=
  headerKeeps_of fun _ _ _ _ _ _ => rfl

theorem Dispatch.localFields_outcome (x : Dispatch L) :
    x.outcome.2.localFields = x.client.localFields := by
  have heffect := x.effect
  generalize x.outcome.2 = client at heffect ⊢
  cases heffect <;> rfl

theorem localFields_nimbleClientFeed (self : NimbleClient L) (datagram : Datagram L) :
    (nimbleClientFeed self datagram).2.localFields = self.localFields := by
  cases h : dispatch? self datagram with
  | none => exact headerKeeps_localFields.of_dispatch_eq_none h
  | some x =>
      rw [nimbleClientFeed_of_dispatch h, x.localFields_outcome,
        headerKeeps_localFields.of_dispatch h]

end Nimble
