import Nimble.Model.Incoming

/-! # Outgoing datagrams (`prepare_header.c`, `send_steps.c`, `outgoing.c`) -/

namespace Nimble

variable {L : Libraries}

/-- What the environment contributes to one call of `nimbleClientOutgoing`: the clock readings
for the two headers and the return values of the transport's send function. -/
structure OutgoingInput where
  stepsHeaderNow : MonotonicTimeMs
  stepsSendResult : Int
  messageHeaderNow : MonotonicTimeMs
  messageSendResult : Int

/-- What a call does besides changing the client, in order. -/
inductive OutgoingEvent (L : Libraries)
  /-- `nimbleClientWriteHeader` is called with this `remoteConnectionId`, which it asserts to be
  non-zero. -/
  | writeHeader (remoteConnectionId : UInt8)
  /-- `nimbleClientCommitHeader` commits the id of this logic. -/
  | commitHeader (logic : L.OrderedDatagramOutLogic)
  /-- `blobStreamLogicInSend` is run. -/
  | blobStreamSend
  /-- A datagram is handed to the transport's send function. -/
  | send (octets : List UInt8)

/-- The outcome of a call: the return value, the client and the events. -/
structure OutgoingOutcome (L : Libraries) where
  result : Int
  client : NimbleClient L
  events : List (OutgoingEvent L)

/-! ## The header -/

/-- Writes the ordered id and the time. -/
def nimbleClientWriteHeader (self : NimbleClient L) (outStream : FldOutStream)
    (now : MonotonicTimeMs) : NimbleClient L × FldOutStream :=
  let (written, orderedDatagramOut) :=
    L.orderedDatagramOutLogicPrepare self.orderedDatagramOut outStream
  let outStream := { outStream with octets := outStream.octets ++ written.octets }
  ({ self with orderedDatagramOut := orderedDatagramOut },
    outStream.write (L.fldOutStreamWriteUInt16 (L.monotonicTimeMsToLowerBits now)))

def nimbleClientCommitHeader (self : NimbleClient L) : NimbleClient L :=
  { self with orderedDatagramOut := L.orderedDatagramOutLogicCommit self.orderedDatagramOut }

/-- A fresh datagram buffer. -/
def fldOutStreamInit (L : Libraries) : FldOutStream := ⟨[], L.datagramTransportMaxSize, true⟩

/-! ## Steps -/

/-- The number of steps sent or a negative error, the client and the stream. -/
def sendStepsToStream (self : NimbleClient L) (stream : FldOutStream) :
    Int × NimbleClient L × FldOutStream :=
  let stream := stream.write (L.nimbleSerializeWriteCommand .gameStep)
  let (clientReceiveMask, expectedStepIdFromServer) :=
    L.nbsPendingStepsReceiveMask self.authoritativePendingStepsFromServer
  let header := L.nbsPendingStepsSerializeOutHeader expectedStepIdFromServer clientReceiveMask
  let serializeOutErr := (header stream).code
  let stream := stream.write header
  if serializeOutErr < 0 then (serializeOutErr, self, stream)
  else
    let steps := L.nbsStepsOutSerialize self.outSteps
    let stepsActuallySent := (steps stream).code
    let stream := stream.write steps
    if stepsActuallySent < 0 then (stepsActuallySent, self, stream)
    else
      let stepsInBuffer := max 0 (intCast (intCast (L.stepsCount self.outSteps) -
        intCast L.nimbleSerializeMaxRedundancyCount))
      (stepsActuallySent,
        { self with
          outgoingStepsInQueue := L.statsIntAdd self.outgoingStepsInQueue stepsInBuffer
          waitTime := 0 },
        stream)

/-- Sends nothing, and commits nothing, when there are no steps. -/
def nimbleClientSendStepsToServer (self : NimbleClient L) (input : OutgoingInput) :
    OutgoingOutcome L :=
  let written : OutgoingEvent L := .writeHeader self.remoteConnectionId
  let (self, outStream) := nimbleClientWriteHeader self (fldOutStreamInit L) input.stepsHeaderNow
  let (stepsSent, self, outStream) := sendStepsToStream self outStream
  if stepsSent ≤ 0 then ⟨intCast stepsSent, self, [written]⟩
  else
    let committed : OutgoingEvent L := .commitHeader self.orderedDatagramOut
    let self := nimbleClientCommitHeader self
    ⟨input.stepsSendResult,
      { self with
        sentStepsDatagramCountPerSecond :=
          L.statsIntPerSecondAdd self.sentStepsDatagramCountPerSecond 1
        packetsPerSecondOut := L.statsIntPerSecondAdd self.packetsPerSecondOut 1 },
      [written, committed, .send outStream.octets]⟩

/-! ## Messages -/

/-- The outcome of putting a message behind a header: the return value, the client, the stream
and whether the blob stream logic was run. -/
structure MessageOutcome (L : Libraries) where
  result : Int
  client : NimbleClient L
  stream : FldOutStream
  events : List (OutgoingEvent L)

def sendBlobStreamCommands (self : NimbleClient L) (stream : FldOutStream) : MessageOutcome L :=
  let stream := stream.write (L.nimbleSerializeWriteCommand .clientOutBlobStream)
  let (written, logic) :=
    L.blobStreamLogicInSend self.blobStreamInLogic self.blobStreamIn stream
  let stream := { stream with octets := stream.octets ++ written.octets }
  let self := { self with blobStreamInLogic := logic }
  if written.code < 0 then ⟨written.code, self, stream, [.blobStreamSend]⟩
  else ⟨0, { self with waitTime := 0 }, stream, [.blobStreamSend]⟩

def sendConnectRequest (self : NimbleClient L) (stream : FldOutStream) : MessageOutcome L :=
  let connectRequest : NimbleSerializeConnectRequest L.NimbleSerializeVersion :=
    { applicationVersion := self.applicationVersion
      useDebugStreams := self.wantsDebugStreams
      clientRequestId := self.connectRequestId }
  ⟨0, { self with waitTime := 4 },
    stream.write (L.nimbleSerializeClientOutConnectRequest connectRequest), []⟩

def sendStartDownloadStateRequest (self : NimbleClient L) (stream : FldOutStream) :
    MessageOutcome L :=
  let stream := stream.write (L.nimbleSerializeWriteCommand .downloadGameStateRequest)
  ⟨0, { self with waitTime := 4 },
    stream.write (L.fldOutStreamWriteUInt8 self.downloadStateClientRequestId), []⟩

def sendJoinGameRequest (self : NimbleClient L) (stream : FldOutStream) : MessageOutcome L :=
  ⟨0, { self with waitTime := 4 },
    stream.write (L.nimbleSerializeClientOutJoinGameRequest self.joinGameRequest), []⟩

def updateSyncedSubState (self : NimbleClient L) (stream : FldOutStream) : MessageOutcome L :=
  match self.joinParticipantPhase with
  | .joiningParticipant => sendJoinGameRequest self stream
  | .joinedParticipant => ⟨0, self, stream, []⟩
  | .outOfParticipantSlots => ⟨0, self, stream, []⟩

def sendMessageUsingStream (self : NimbleClient L) (stream : FldOutStream) : MessageOutcome L :=
  match self.state with
  | .requestingConnect => sendConnectRequest self stream
  | .connected => ⟨0, self, stream, []⟩
  | .joiningRequestingState => sendStartDownloadStateRequest self stream
  | .joiningDownloadingState => sendBlobStreamCommands self stream
  | .idle => ⟨0, self, stream, []⟩
  | .disconnected => ⟨0, self, stream, []⟩
  | .synced => updateSyncedSubState self stream

/-- The part of `handleState` behind the steps datagram: header, message, commit, and the
datagram unless it holds no more than the header. -/
def sendMessageDatagram (self : NimbleClient L) (input : OutgoingInput) : OutgoingOutcome L :=
  let written : OutgoingEvent L := .writeHeader self.remoteConnectionId
  let (self, outStream) :=
    nimbleClientWriteHeader self (fldOutStreamInit L) input.messageHeaderNow
  let message := sendMessageUsingStream self outStream
  if message.result < 0 then
    ⟨message.result, message.client, written :: message.events⟩
  else
    let committed : OutgoingEvent L := .commitHeader message.client.orderedDatagramOut
    let self := nimbleClientCommitHeader message.client
    if message.stream.pos ≤ 10 then ⟨0, self, written :: message.events ++ [committed]⟩
    else
      ⟨input.messageSendResult,
        { self with packetsPerSecondOut := L.statsIntPerSecondAdd self.packetsPerSecondOut 1 },
        written :: message.events ++ [committed, .send message.stream.octets]⟩

/-- `handleState` -/
def handleState (self : NimbleClient L) (input : OutgoingInput) : OutgoingOutcome L :=
  match self.state with
  | .idle => ⟨0, self, []⟩
  | .connected => ⟨0, self, []⟩
  | .disconnected => ⟨0, self, []⟩
  | .requestingConnect => sendMessageDatagram self input
  | .joiningRequestingState => sendMessageDatagram self input
  | .joiningDownloadingState => sendMessageDatagram self input
  | .synced =>
    let steps := nimbleClientSendStepsToServer self input
    if steps.result < 0 then steps
    else
      let message := sendMessageDatagram steps.client input
      { message with events := steps.events ++ message.events }

def nimbleClientOutgoing (self : NimbleClient L) (input : OutgoingInput) : OutgoingOutcome L :=
  let handled := handleState self input
  if handled.result < 0 then handled
  else { handled with result := 0, client := { handled.client with frame := handled.client.frame + 1 } }

end Nimble
