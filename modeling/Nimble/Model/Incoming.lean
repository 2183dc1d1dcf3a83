import Nimble.Model.Client

/-! # Incoming datagrams

The handlers of the server commands, the pong, `nimbleClientFeed` and the receive loop.
Log output is left out, and so is the position of the stream after a handler, which only a
log line uses. -/

namespace Nimble

variable {L : Libraries}

/-- What the local variables that a feed fills from the stream hold before it does. -/
structure FeedLocals (L : Libraries) where
  monotonicTimeShortMs : UInt16
  cmd : UInt8
  connectResponse : NimbleSerializeConnectResponse
  partChannelId : NimbleSerializeBlobStreamChannelId
  stepCountInIncomingBufferOnServer : UInt8
  deltaAgainstServerAuthoritativeBuffer : Int8
  serverReceivedPredictedStepId : UInt32
  gameResponse : NimbleSerializeJoinGameResponse L.NimbleSerializePartyAndSessionSecret
  clientRequestId : UInt8
  stateId : StepId
  channelId : NimbleSerializeBlobStreamChannelId

/-- A datagram as `nimbleClientFeed` meets it: its octets, the prior contents of the locals, and
the clock reading taken for its pong. -/
structure Datagram (L : Libraries) where
  octets : List UInt8
  locals : FeedLocals L
  now : MonotonicTimeMs

/-! ## Handlers -/

/-- `connect_response.c` -/
def nimbleClientOnConnectResponse (self : NimbleClient L) (inStream : FldInStream)
    (locals : FeedLocals L) : Int × NimbleClient L :=
  let read := L.nimbleSerializeClientInConnectResponse inStream
  let response := read.value.getD locals.connectResponse
  if read.code < 0 then (read.code, self)
  else if self.state = .requestingConnect then
    (0, { self with
      state := .connected
      useDebugStreams := response.useDebugStreams
      remoteConnectionId := response.connectionId })
  else (0, self)

/-- `trySetInitialGameState`: the completed blob becomes the game state, and the three step
buffers restart at its step. -/
def trySetInitialGameState (self : NimbleClient L) : NimbleClient L :=
  if self.state = .synced then self
  else
    let (joinedGameState, blobStreamAllocator) :=
      nimbleClientGameStateInit self.blobStreamAllocator self.joinStateId
        (L.blob self.blobStreamIn) (L.blobOctetCount self.blobStreamIn)
    { self with
      state := .synced
      joinedGameState := joinedGameState
      blobStreamAllocator := blobStreamAllocator
      authoritativePendingStepsFromServer :=
        L.nbsPendingStepsReset self.authoritativePendingStepsFromServer joinedGameState.stepId
      authoritativeStepsFromServer :=
        L.nbsStepsReInit self.authoritativeStepsFromServer joinedGameState.stepId
      outSteps := L.nbsStepsReInit self.outSteps joinedGameState.stepId }

/-- The blob stream of the client after a chunk was taken in. -/
def NimbleClient.receiveBlob (self : NimbleClient L) (inStream : FldInStream) :
    Int × NimbleClient L :=
  let (result, logic, blobStreamIn) :=
    L.blobStreamLogicInReceive self.blobStreamInLogic self.blobStreamIn inStream
  (result, { self with blobStreamInLogic := logic, blobStreamIn := blobStreamIn })

/-- `download_state_part.c` -/
def nimbleClientOnDownloadGameStatePart (self : NimbleClient L) (inStream : FldInStream)
    (locals : FeedLocals L) : Int × NimbleClient L :=
  let read := L.nimbleSerializeInBlobStreamChannelId inStream
  let channelId := read.value.getD locals.partChannelId
  if channelId ≠ self.joinStateChannel then (0, self)
  else
    let (result, self) := { self with joinStateChannel := channelId }.receiveBlob read.stream
    if result < 0 then (result, self)
    else if L.blobStreamInIsComplete self.blobStreamIn then (0, trySetInitialGameState self)
    else (0, self)

/-- The statistics and the lagometer packet of a game step response, with the step id the
server acknowledges and the rest of the stream. -/
def readGameStepHeader (self : NimbleClient L) (inStream : FldInStream)
    (locals : FeedLocals L) : NimbleClient L × UInt32 × FldInStream :=
  let count := L.fldInStreamReadUInt8 inStream
  let stepCountInIncomingBufferOnServer :=
    count.value.getD locals.stepCountInIncomingBufferOnServer
  let delta := L.fldInStreamReadInt8 count.stream
  let deltaAgainstServerAuthoritativeBuffer :=
    delta.value.getD locals.deltaAgainstServerAuthoritativeBuffer
  let received := L.fldInStreamReadUInt32 delta.stream
  let serverReceivedPredictedStepId := received.value.getD locals.serverReceivedPredictedStepId
  ({ self with
      stepCountInIncomingBufferOnServerStat :=
        if self.useStats then
          L.statsIntAdd self.stepCountInIncomingBufferOnServerStat
            stepCountInIncomingBufferOnServer.toNat
        else self.stepCountInIncomingBufferOnServerStat
      authoritativeBufferDeltaStat :=
        if self.useStats then
          L.statsIntAdd self.authoritativeBufferDeltaStat
            deltaAgainstServerAuthoritativeBuffer.toInt
        else self.authoritativeBufferDeltaStat
      lagometer := L.lagometerAddPacket self.lagometer ⟨.received, self.latencyMs, inStream.size⟩
      receivedStepIdByServerOnlyForDebug := serverReceivedPredictedStepId },
    serverReceivedPredictedStepId, received.stream)

/-- `game_step_response.c`. A failed copy is only logged. -/
def nimbleClientOnGameStepResponse (self : NimbleClient L) (inStream : FldInStream)
    (locals : FeedLocals L) : Int × NimbleClient L :=
  let (self, serverReceivedPredictedStepId, inStream) := readGameStepHeader self inStream locals
  let self := { self with
    outSteps := L.nbsStepsDiscardUpTo self.outSteps (serverReceivedPredictedStepId + 1) }
  let (stepCount, pending) :=
    L.nbsPendingStepsInSerialize inStream self.authoritativePendingStepsFromServer
  if stepCount < 0 then (stepCount, { self with authoritativePendingStepsFromServer := pending })
  else
    let (_, steps, pending) := L.nbsPendingStepsCopy self.authoritativeStepsFromServer pending
    (stepCount, { self with
      authoritativePendingStepsFromServer := pending
      authoritativeStepsFromServer := steps
      waitingStepsFromServer :=
        L.statsIntAdd self.waitingStepsFromServer (intCast (L.stepsCount steps))
      quality := nimbleClientConnectionQualityReceivedAuthoritativeSteps self.quality
        stepCount.toNat
      simulationStepsPerSecond :=
        L.statsIntPerSecondAdd self.simulationStepsPerSecond (intCast stepCount) })

/-- The entry made for one participant of a join response. -/
def participantEntry (participant : NimbleSerializeJoinGameResponseParticipant) :
    NimbleClientParticipantEntry where
  isUsed := true
  localUserDeviceIndex := UInt8.ofNat participant.localIndex
  participantId := UInt8.ofNat participant.participantId

/-- The write loop of `nimbleClientOnJoinGameResponse`, from index `i` on. Writing past the
table is undefined in C; here such a write is dropped. -/
def writeParticipants
    (table : Vector NimbleClientParticipantEntry nimbleClientMaxLocalUsersCount) (i : Nat) :
    List NimbleSerializeJoinGameResponseParticipant →
      Vector NimbleClientParticipantEntry nimbleClientMaxLocalUsersCount
  | [] => table
  | participant :: rest =>
    writeParticipants (table.setIfInBounds i (participantEntry participant)) (i + 1) rest

/-- `join_game_response.c` -/
def nimbleClientOnJoinGameResponse (self : NimbleClient L) (inStream : FldInStream)
    (locals : FeedLocals L) : Int × NimbleClient L :=
  let read := L.nimbleSerializeClientInJoinGameResponse inStream
  let gameResponse := read.value.getD locals.gameResponse
  if read.code < 0 then (read.code, self)
  else if self.joinParticipantPhase ≠ .joiningParticipant then (0, self)
  else
    (0, { self with
      partyAndSessionSecret := gameResponse.partyAndSessionSecret
      localParticipantCount := gameResponse.participantCount
      localParticipantLookup :=
        writeParticipants self.localParticipantLookup 0 gameResponse.participants
      joinParticipantPhase := .joinedParticipant
      waitTime := 0
      joinStateChannel := 0 })

/-- `download_state_response.c` -/
def nimbleClientOnDownloadGameStateResponse (self : NimbleClient L) (inStream : FldInStream)
    (locals : FeedLocals L) : Int × NimbleClient L :=
  let request := L.fldInStreamReadUInt8 inStream
  let clientRequestId := request.value.getD locals.clientRequestId
  let state := L.nimbleSerializeInStateId request.stream
  let stateId := state.value.getD locals.stateId
  let channel := L.nimbleSerializeInBlobStreamChannelId state.stream
  let channelId := channel.value.getD locals.channelId
  if channel.code < 0 then (channel.code, self)
  else if clientRequestId ≠ self.downloadStateClientRequestId then (0, self)
  else if channelId = self.joinStateChannel then (0, self)
  else
    (0, { self with
      joinStateChannel := channelId
      joinedGameState := { self.joinedGameState with stepId := stateId }
      joinStateId := stateId
      outSteps := L.nbsStepsReInit self.outSteps stateId
      state := .joiningDownloadingState
      waitTime := 0 })

/-- `join_game_participants_full.c`. The nonce is read and not compared. -/
def nimbleClientOnJoinGameParticipantOutOfSpaceResponse (self : NimbleClient L)
    (inStream : FldInStream) : Int × NimbleClient L :=
  let nonce := L.nimbleSerializeInNonce inStream
  if nonce.code < 0 then (nonce.code, self)
  else (0, { self with joinParticipantPhase := .outOfParticipantSlots })

/-! ## Feeding a datagram -/

/-- `pong.c` -/
def nimbleClientReceivePong (self : NimbleClient L) (inStream : FldInStream)
    (now : MonotonicTimeMs) (locals : FeedLocals L) : Int × NimbleClient L × FldInStream :=
  let read := L.fldInStreamReadUInt16 (L.fldInStreamCheckMarker inStream 0xdd)
  if read.code < 0 then (read.code, self, read.stream)
  else
    let sentAt := L.monotonicTimeMsFromLowerBits now
      (read.value.getD locals.monotonicTimeShortMs)
    let latencyMs := if now < sentAt then self.latencyMs else (now - sentAt).toNat
    (0,
      { self with
        latencyMs := latencyMs
        quality := nimbleClientConnectionQualityGameStepLatency self.quality latencyMs
        latencyMsStat :=
          if self.useStats then L.statsIntAdd self.latencyMsStat (intCast latencyMs)
          else self.latencyMsStat },
      read.stream)

/-- The return code, the logic afterwards and the rest of the stream. -/
def readAndCheckOrderedDatagram (inLogic : L.OrderedDatagramInLogic) (inStream : FldInStream) :
    Int × L.OrderedDatagramInLogic × FldInStream :=
  let (idDelta, inLogic, inStream) := L.orderedDatagramInLogicReceive inLogic inStream
  if idDelta ≤ 0 then (-91, inLogic, inStream) else (idDelta, inLogic, inStream)

/-- The datagrams that a jump of the ordered id shows to be lost. -/
def reportDropped (self : NimbleClient L) (delta : Int) : NimbleClient L :=
  if 1 < delta then
    { self with
      lagometer := (List.replicate (delta - 1).toNat ⟨.dropped, 0, 0⟩).foldl
        L.lagometerAddPacket self.lagometer
      quality := nimbleClientConnectionQualityDroppedDatagrams self.quality (delta - 1).toNat }
  else self

/-- The `switch` of `nimbleClientFeed`. -/
def dispatchCommand (self : NimbleClient L) (cmd : UInt8) (inStream : FldInStream)
    (locals : FeedLocals L) : Int × NimbleClient L :=
  match L.nimbleSerializeCmd cmd with
  | some .connectResponse => nimbleClientOnConnectResponse self inStream locals
  | some .serverOutBlobStream => nimbleClientOnDownloadGameStatePart self inStream locals
  | some .gameStepResponse =>
    let (result, self) := nimbleClientOnGameStepResponse self inStream locals
    (intCast result, self)
  | some .joinGameResponse => nimbleClientOnJoinGameResponse self inStream locals
  | some .gameStateResponse => nimbleClientOnDownloadGameStateResponse self inStream locals
  | some .joinGameOutOfParticipantSlotsResponse =>
    nimbleClientOnJoinGameParticipantOutOfSpaceResponse self inStream
  | _ => (-1, self)

/-- The part of `nimbleClientFeed` in front of the command: the ordered id and the pong. -/
def readDatagramHeader (self : NimbleClient L) (datagram : Datagram L) :
    Int × NimbleClient L × FldInStream :=
  let inStream := { fldInStreamInit datagram.octets with readDebugInfo := true }
  let (delta, orderedDatagramIn, inStream) :=
    readAndCheckOrderedDatagram self.orderedDatagramIn inStream
  let self := { self with orderedDatagramIn := orderedDatagramIn }
  if delta < 0 then (delta, self, inStream)
  else nimbleClientReceivePong (reportDropped self delta) inStream datagram.now datagram.locals

/-- The command octet of a datagram behind its header, and the rest of the stream. A failed
read leaves the local as it was. -/
def readCommand (inStream : FldInStream) (locals : FeedLocals L) : UInt8 × FldInStream :=
  let read := L.fldInStreamReadUInt8 inStream
  (read.value.getD locals.cmd, read.stream)

def nimbleClientFeed (self : NimbleClient L) (datagram : Datagram L) : Int × NimbleClient L :=
  if datagram.octets.length < 1 then (-1, self)
  else if self.state = .disconnected then (0, self)
  else
    let (err, self, inStream) := readDatagramHeader self datagram
    if err < 0 then (err, self)
    else
      let (cmd, inStream) := readCommand inStream datagram.locals
      dispatchCommand self cmd inStream datagram.locals

/-! ## The receive loop (`receive_transport.c`) -/

/-- What one call of the transport's receive function gives, as long as it gives something:
a datagram, or an error, which is a negative code. -/
inductive Received (L : Libraries)
  | datagram (d : Datagram L)
  | error (code : Nat)

/-- The code an error stands for. -/
def receiveError (code : Nat) : Int := -(code : Int) - 1

/-- The client as it is when a datagram taken from the transport is fed to it. -/
def NimbleClient.countPacketIn (self : NimbleClient L) : NimbleClient L :=
  { self with
    packetsPerSecondIn :=
      if self.useStats then L.statsIntPerSecondAdd self.packetsPerSecondIn 1
      else self.packetsPerSecondIn }

/-- The client after a feed that did not fail. -/
def NimbleClient.receivedUsableDatagram (self : NimbleClient L) : NimbleClient L :=
  { self with quality := nimbleClientConnectionQualityReceivedUsableDatagram self.quality }

/-- The outcome of a receive loop: the return value, the client and the transport's queue. -/
structure ReceiveOutcome (L : Libraries) where
  result : Int
  client : NimbleClient L
  queue : List (Received L)

/-- The loop with `count` datagrams received so far. Behind the end of the queue the transport
has nothing more to give. A queue is short enough for the count to keep its value as an `int`. -/
def receiveLoop (self : NimbleClient L) (count : Nat) :
    List (Received L) → ReceiveOutcome L
  | [] => ⟨count, self, []⟩
  | .error code :: queue => ⟨receiveError code, self, queue⟩
  | .datagram datagram :: queue =>
    -- an octet count of 0 breaks the loop, whether or not more datagrams wait
    if datagram.octets = [] then ⟨count, self, queue⟩
    else
      let (err, self) := nimbleClientFeed self.countPacketIn datagram
      if err < 0 then ⟨err, self, queue⟩
      else receiveLoop self.receivedUsableDatagram (count + 1) queue

def nimbleClientReceiveAllDatagramsFromTransport (self : NimbleClient L)
    (queue : List (Received L)) : ReceiveOutcome L :=
  receiveLoop self 0 queue

end Nimble
