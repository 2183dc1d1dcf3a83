import Nimble.Model.System

/-! # A small implementation of the libraries

It behaves as the libraries are documented to, on a simple wire format: no debug markers, ids
and nonces of one octet, blob chunks and steps of one octet. Runs on fixed inputs use it. -/

namespace Nimble

namespace Small

/-! ## Octet streams -/

def readUInt8 (s : FldInStream) : ReadResult UInt8 :=
  match s.octets.drop s.pos with
  | octet :: _ => ⟨0, some octet, { s with pos := s.pos + 1 }⟩
  | [] => ⟨-1, none, s⟩

/-- Converts the value of a read that does not fail. -/
def mapRead {α β : Type} (f : α → β) (read : ReadResult α) : ReadResult β :=
  ⟨read.code, read.value.map f, read.stream⟩

def readUInt16 (s : FldInStream) : ReadResult UInt16 :=
  match s.octets.drop s.pos with
  | a :: b :: _ => ⟨0, some (UInt16.ofNat (a.toNat * 256 + b.toNat)), { s with pos := s.pos + 2 }⟩
  | _ => ⟨-1, none, s⟩

def readUInt32 (s : FldInStream) : ReadResult UInt32 :=
  match s.octets.drop s.pos with
  | a :: b :: c :: d :: _ =>
    ⟨0, some (UInt32.ofNat (((a.toNat * 256 + b.toNat) * 256 + c.toNat) * 256 + d.toNat)),
      { s with pos := s.pos + 4 }⟩
  | _ => ⟨-1, none, s⟩

/-- A writer of fixed octets. -/
def put (octets : List UInt8) : Writer := fun _ => ⟨0, octets⟩

def octetsOfUInt16 (v : UInt16) : List UInt8 := [UInt8.ofNat (v.toNat / 256), UInt8.ofNat v.toNat]

def octetsOfUInt32 (v : UInt32) : List UInt8 :=
  [UInt8.ofNat (v.toNat / 2 ^ 24), UInt8.ofNat (v.toNat / 2 ^ 16), UInt8.ofNat (v.toNat / 2 ^ 8),
    UInt8.ofNat v.toNat]

/-! ## Messages -/

def commandOctet : NimbleSerializeCmd → UInt8
  | .connectResponse => 1
  | .serverOutBlobStream => 2
  | .gameStepResponse => 3
  | .joinGameResponse => 4
  | .gameStateResponse => 5
  | .joinGameOutOfParticipantSlotsResponse => 6
  | .clientOutBlobStream => 7
  | .downloadGameStateRequest => 8
  | .gameStep => 9

def commandOfOctet (octet : UInt8) : Option NimbleSerializeCmd :=
  match octet.toNat with
  | 1 => some .connectResponse
  | 2 => some .serverOutBlobStream
  | 3 => some .gameStepResponse
  | 4 => some .joinGameResponse
  | 5 => some .gameStateResponse
  | 6 => some .joinGameOutOfParticipantSlotsResponse
  | 7 => some .clientOutBlobStream
  | 8 => some .downloadGameStateRequest
  | 9 => some .gameStep
  | _ => none

/-- A command is preceded by the magic of the protocol. -/
def putCommand (octet : UInt8) : List UInt8 := [0x6e, 0x69, 0x6d, 0x62, 0x6c, 0x65, 0x2d, octet]

def readConnectResponse (s : FldInStream) : ReadResult NimbleSerializeConnectResponse :=
  let debug := readUInt8 s
  match debug.value with
  | none => ⟨debug.code, none, debug.stream⟩
  | some debugOctet => mapRead (fun connectionId => ⟨debugOctet ≠ 0, connectionId⟩)
      (readUInt8 debug.stream)

/-- The participants of a join response are pairs of octets. -/
def participantsOfOctets : Nat → List UInt8 → Option (List NimbleSerializeJoinGameResponseParticipant)
  | 0, _ => some []
  | n + 1, localIndex :: participantId :: rest =>
    (participantsOfOctets n rest).map (⟨localIndex.toNat, participantId.toNat⟩ :: ·)
  | _ + 1, _ => none

def readJoinGameResponse (s : FldInStream) : ReadResult (NimbleSerializeJoinGameResponse UInt8) :=
  match s.octets.drop s.pos with
  | secret :: count :: rest =>
    match participantsOfOctets count.toNat rest with
    | some participants =>
      ⟨0, some ⟨secret, participants⟩, { s with pos := s.pos + 2 + 2 * count.toNat }⟩
    | none => ⟨-1, none, s⟩
  | _ => ⟨-1, none, s⟩

/-! ## Steps -/

/-- Consecutive steps and the id of the first. -/
structure Steps where
  expectedReadId : StepId
  steps : List (List UInt8)
  deriving DecidableEq

def Steps.expectedWriteId (s : Steps) : StepId := s.expectedReadId + UInt32.ofNat s.steps.length

def Steps.discardUpTo (s : Steps) (id : StepId) : Steps :=
  let count := min (id.toNat - s.expectedReadId.toNat) s.steps.length
  ⟨s.expectedReadId + UInt32.ofNat count, s.steps.drop count⟩

def Steps.write (s : Steps) (id : StepId) (octets : List UInt8) : Int × Steps :=
  if id = s.expectedWriteId then (octets.length, { s with steps := s.steps ++ [octets] })
  else (-2, s)

def Steps.read (s : Steps) (maxTarget : Nat) : Int × Option (StepId × List UInt8) × Steps :=
  match s.steps with
  | [] => (0, none, s)
  | octets :: rest =>
    if octets.length ≤ maxTarget then
      (octets.length, some (s.expectedReadId, octets), ⟨s.expectedReadId + 1, rest⟩)
    else (-3, none, s)

/-- Steps waiting to be copied, and the next id expected from the server. -/
structure PendingSteps where
  expectedId : StepId
  ready : List (List UInt8)
  deriving DecidableEq

/-- Takes in the steps from the expected id on and skips the ones before it. -/
def PendingSteps.accept (p : PendingSteps) (id : StepId) (octets : List UInt8) : PendingSteps :=
  let known := p.expectedId.toNat - id.toNat
  if id ≤ p.expectedId then
    let fresh := octets.drop known
    ⟨p.expectedId + UInt32.ofNat fresh.length, p.ready ++ fresh.map fun octet => [octet]⟩
  else p

def PendingSteps.inSerialize (s : FldInStream) (p : PendingSteps) : Int × PendingSteps :=
  let first := readUInt32 s
  match first.value, first.stream.octets.drop first.stream.pos with
  | some id, count :: rest =>
    if count.toNat ≤ rest.length then (count.toNat, p.accept id (rest.take count.toNat))
    else (-4, p)
  | _, _ => (-4, p)

def PendingSteps.copy (s : Steps) (p : PendingSteps) : Int × Steps × PendingSteps :=
  (p.ready.length, { s with steps := s.steps ++ p.ready }, { p with ready := [] })

/-! ## Blob streams -/

/-- A blob of `chunkCount` chunks of one octet, and the chunks received. -/
structure Blob where
  chunkCount : Nat
  chunks : List (Nat × UInt8)
  deriving DecidableEq

def Blob.receive (b : Blob) (s : FldInStream) : Int × Unit × Blob :=
  match s.octets.drop s.pos with
  | index :: octet :: _ =>
    if b.chunkCount ≤ index.toNat then (-5, (), b)
    else if (b.chunks.lookup index.toNat).isSome then (0, (), b)
    else (0, (), { b with chunks := (index.toNat, octet) :: b.chunks })
  | _ => (-5, (), b)

def Blob.isComplete (b : Blob) : Bool := 0 < b.chunkCount ∧ b.chunks.length = b.chunkCount

def Blob.octets (b : Blob) : List UInt8 :=
  (List.range b.chunkCount).filterMap fun index => b.chunks.lookup index

/-! ## Ordered datagrams -/

/-- `none` until a first datagram is accepted. -/
def receiveOrdered (last : Option UInt8) (s : FldInStream) : Int × Option UInt8 × FldInStream :=
  let read := readUInt8 s
  match read.value with
  | none => (-1, last, read.stream)
  | some id =>
    let delta := (last.map fun last => (id - last).toInt8.toInt).getD 1
    (delta, if delta ≤ 0 then last else some id, read.stream)

/-! ## Statistics -/

/-- An average over batches of `threshold` samples. -/
structure Stats where
  threshold : Nat
  count : Nat
  sum : Int
  avg : Int
  avgIsSet : Bool
  deriving DecidableEq

def Stats.add (s : Stats) (v : Int) : Stats :=
  if s.threshold ≤ s.count + 1 then
    { s with count := 0, sum := 0, avg := (s.sum + v).tdiv (s.count + 1), avgIsSet := true }
  else { s with count := s.count + 1, sum := s.sum + v }

end Small

open Nimble.Small in
/-- The small implementation. -/
abbrev smallLibraries : Libraries where
  NbsSteps := Steps
  NbsPendingSteps := PendingSteps
  BlobStreamIn := Blob
  BlobStreamLogicIn := Unit
  OrderedDatagramInLogic := Option UInt8
  OrderedDatagramOutLogic := UInt8
  StatsInt := Stats
  StatsIntPerSecond := Int
  StatsHoldPositive := Nat × Nat
  Lagometer := List LagometerPacket
  ImprintAllocator := Unit
  DatagramTransport := Unit
  NimbleSerializeVersion := UInt8
  NimbleSerializePartyAndSessionSecret := UInt8
  JoinGameOptions := UInt8
  nonceModulus := 256
  fldInStreamCheckMarker s _ := s
  fldInStreamReadUInt8 := readUInt8
  fldInStreamReadInt8 s := mapRead UInt8.toInt8 (readUInt8 s)
  fldInStreamReadUInt16 := readUInt16
  fldInStreamReadUInt32 := readUInt32
  fldOutStreamWriteUInt8 v := put [v]
  fldOutStreamWriteUInt16 v := put (octetsOfUInt16 v)
  datagramTransportMaxSize := 1200
  nimbleSerializeCmd := commandOfOctet
  nimbleSerializeInBlobStreamChannelId s := mapRead UInt16.toNat (readUInt16 s)
  nimbleSerializeInStateId := readUInt32
  nimbleSerializeInNonce s := mapRead UInt8.toNat (readUInt8 s)
  nimbleSerializeClientInConnectResponse := readConnectResponse
  nimbleSerializeClientInJoinGameResponse := readJoinGameResponse
  nimbleSerializeWriteCommand cmd := put (putCommand (commandOctet cmd))
  nimbleSerializeClientOutConnectRequest request :=
    put (putCommand 10 ++
      [request.applicationVersion, request.useDebugStreams.toUInt8, request.clientRequestId])
  nimbleSerializeClientOutJoinGameRequest request :=
    put (putCommand 11 ++ [UInt8.ofNat request.nonce, request.options])
  nimbleSerializeMaxRedundancyCount := 5
  nbsStepsOutSerializeCalculateCombinedSize participants octets := participants * octets
  nbsStepsInit _ _ := ⟨0, []⟩
  nbsStepsReset _ := ⟨0, []⟩
  nbsStepsReInit _ id := ⟨id, []⟩
  nbsStepsDiscardUpTo := Steps.discardUpTo
  nbsStepsWrite := Steps.write
  nbsStepsRead := Steps.read
  nbsStepsOutSerialize s _ :=
    ⟨s.steps.length, octetsOfUInt32 s.expectedReadId ++ UInt8.ofNat s.steps.length :: s.steps.flatten⟩
  stepsCount s := s.steps.length
  expectedWriteId := Steps.expectedWriteId
  nbsPendingStepsInit id := ⟨id, []⟩
  nbsPendingStepsReset _ id := ⟨id, []⟩
  nbsPendingStepsInSerialize := PendingSteps.inSerialize
  nbsPendingStepsCopy := PendingSteps.copy
  nbsPendingStepsReceiveMask p := (0, p.expectedId)
  nbsPendingStepsSerializeOutHeader id mask :=
    put (octetsOfUInt32 id ++ [UInt8.ofNat mask.toNat])
  blobStreamLogicInReceive _ := Blob.receive
  blobStreamInIsComplete := Blob.isComplete
  blobStreamLogicInSend _ b _ := (⟨0, [UInt8.ofNat b.chunks.length]⟩, ())
  blob := Blob.octets
  blobOctetCount := Blob.chunkCount
  orderedDatagramInLogicInit := none
  orderedDatagramInLogicReceive := receiveOrdered
  orderedDatagramOutLogicInit := 0
  orderedDatagramOutLogicPrepare id _ := (⟨0, [id]⟩, id)
  orderedDatagramOutLogicCommit id := id + 1
  statsIntInit threshold := ⟨threshold, 0, 0, 0, false⟩
  statsIntAdd := Stats.add
  avg := Stats.avg
  avgIsSet := Stats.avgIsSet
  statsIntPerSecondInit _ _ := 0
  statsIntPerSecondAdd count v := count + v
  statsIntPerSecondUpdate count _ := count
  statsHoldPositiveInit ticks := (ticks, 0)
  statsHoldPositiveAdd hold v := (hold.1, if v then hold.1 else hold.2 - 1)
  lagometerInit := []
  lagometerAddPacket packets packet := packets ++ [packet]
  monotonicTimeMsFromLowerBits now lowerBits := now - (now - lowerBits.toNat) % 2 ^ 16
  monotonicTimeMsToLowerBits now := UInt16.ofNat (now % 2 ^ 16).toNat

namespace Small

/-! ## Memory, settings and datagrams -/

def zeroStats : Stats := ⟨0, 0, 0, 0, false⟩

def zeroQuality : NimbleClientConnectionQuality smallLibraries where
  droppingDatagramWarning := (0, 0)
  impendingDisconnectWarning := (0, 0)
  latencyMsStat := zeroStats
  ratingStat := zeroStats
  lastLatencyMs := 0
  ticksWithoutIncomingDatagrams := 0
  ticksWithoutAuthoritativeStepsFromInSerialize := 0
  reason := .keepConnection
  consideringDisconnectCounter := 0
  qualityRating := 0
  droppedDatagramCounter := 0

def noAllocations : ImprintAllocatorWithFree := ⟨1, []⟩

/-- Zeroed memory, but for the blob stream. -/
def clientMemory (blobStreamIn : Blob) : NimbleClient smallLibraries where
  waitTime := 0
  state := .idle
  joinParticipantPhase := .joiningParticipant
  localParticipantLookup := Vector.replicate nimbleClientMaxLocalUsersCount ⟨false, 0, 0⟩
  localParticipantCount := 0
  transport := ()
  outSteps := ⟨0, []⟩
  authoritativePendingStepsFromServer := ⟨0, []⟩
  authoritativeStepsFromServer := ⟨0, []⟩
  receivedStepIdByServerOnlyForDebug := 0
  joinedGameState := ⟨none, 0, 0⟩
  joinStateChannel := 0
  blobStreamInLogic := ()
  blobStreamIn := blobStreamIn
  downloadStateClientRequestId := 0
  joinStateId := 0
  frame := 0
  useStats := false
  statsCounter := 0
  waitingStepsFromServer := zeroStats
  stepCountInIncomingBufferOnServerStat := zeroStats
  authoritativeBufferDeltaStat := zeroStats
  latencyMsStat := zeroStats
  outgoingStepsInQueue := zeroStats
  packetsPerSecondOut := (0 : Int)
  packetsPerSecondIn := (0 : Int)
  simulationStepsPerSecond := (0 : Int)
  sentStepsDatagramCountPerSecond := (0 : Int)
  memory := ()
  blobStreamAllocator := noAllocations
  partyAndSessionSecret := (0 : UInt8)
  joinGameRequest := ⟨0, (0 : UInt8)⟩
  orderedDatagramOut := (0 : UInt8)
  orderedDatagramIn := none
  maximumSingleParticipantStepOctetCount := 0
  maximumNumberOfParticipants := 0
  applicationVersion := (0 : UInt8)
  connectRequestId := 0
  lastUpdateMonotonicMsIsSet := false
  lastUpdateMonotonicMs := 0
  expectedTickDurationMs := 0
  tickDuration := zeroStats
  latencyMs := 0
  lagometer := []
  quality := zeroQuality
  useDebugStreams := false
  remoteConnectionId := 0
  wantsDebugStreams := false
  loggingTickCount := 0

def settings : NimbleClientRealizeSettings smallLibraries where
  transport := ()
  memory := ()
  blobMemory := noAllocations
  maximumSingleParticipantStepOctetCount := 4
  maximumNumberOfParticipants := 2
  applicationVersion := (1 : UInt8)
  wantsDebugStreams := false

def realizeMemory (blobStreamIn : Blob) : NimbleClientRealize smallLibraries where
  targetState := .init
  state := .init
  client := clientMemory blobStreamIn
  settings := settings
  joinGameRequestNonce := 0

/-- A realizer right after `nimbleClientRealizeInit`. The client leaves the blob stream to the
application, which has initialized it for a blob of `chunkCount` chunks. -/
def freshRealizer (chunkCount : Nat) : NimbleClientRealize smallLibraries :=
  nimbleClientRealizeInit (realizeMemory ⟨chunkCount, []⟩) settings 0

def zeroLocals : FeedLocals smallLibraries where
  monotonicTimeShortMs := 0
  cmd := 0
  connectResponse := ⟨false, 0⟩
  partChannelId := 0
  stepCountInIncomingBufferOnServer := 0
  deltaAgainstServerAuthoritativeBuffer := 0
  serverReceivedPredictedStepId := 0
  gameResponse := ⟨(0 : UInt8), []⟩
  clientRequestId := 0
  stateId := 0
  channelId := 0

/-- The datagram with an ordered id, a command and the octets behind it. -/
def packet (id : UInt8) (cmd : NimbleSerializeCmd) (payload : List UInt8) :
    Datagram smallLibraries :=
  ⟨id :: 0 :: 0 :: commandOctet cmd :: payload, zeroLocals, 0⟩

def connectResponse (id : UInt8) : Datagram smallLibraries :=
  packet id .connectResponse [0, 7]

/-- A game state response to request 1. -/
def gameStateResponse (id stateId channel : UInt8) : Datagram smallLibraries :=
  packet id .gameStateResponse [1, 0, 0, 0, stateId, 0, channel]

/-- A chunk of the blob on a channel. -/
def blobPart (id channel index octet : UInt8) : Datagram smallLibraries :=
  packet id .serverOutBlobStream [0, channel, index, octet]

/-- A join response that gives participant id `participant` to local player 0. -/
def joinResponse (id participant : UInt8) : Datagram smallLibraries :=
  packet id .joinGameResponse [9, 1, 0, participant]

/-- Authoritative steps from `first` on, acknowledging `acknowledged`. -/
def stepResponse (id acknowledged first : UInt8) (steps : List UInt8) :
    Datagram smallLibraries :=
  packet id .gameStepResponse
    ([0, 0] ++ [0, 0, 0, acknowledged] ++ [0, 0, 0, first, UInt8.ofNat steps.length] ++ steps)

/-- An update that finds these datagrams in the transport's queue, and whose sends succeed. -/
def updateWith (datagrams : List (Datagram smallLibraries)) : UpdateInput smallLibraries :=
  ⟨0, datagrams.map .datagram, ⟨0, 0, 0, 0⟩⟩

/-- The calls that take a fresh realizer to a synced client: the game is joined, and the
server's answers arrive one after another. -/
def syncSession (stateId channel : UInt8) : List (Operation smallLibraries) :=
  [.realizeJoinGame (0 : UInt8), .realizeUpdate (updateWith []),
    .realizeUpdate (updateWith [connectResponse 1]), .realizeUpdate (updateWith []),
    .realizeUpdate (updateWith [gameStateResponse 2 stateId channel]),
    .realizeUpdate (updateWith [blobPart 3 channel 0 0xaa])]

/-- A realizer whose client has just completed its download. -/
def syncedRealizer : NimbleClientRealize smallLibraries :=
  (realizer smallLibraries).run (freshRealizer 1) (syncSession 10 5)

/-- A realizer that is synced and whose join request has been answered. -/
def joinedRealizer : NimbleClientRealize smallLibraries :=
  (realizer smallLibraries).run (freshRealizer 1)
    (syncSession 10 5 ++ [.realizeUpdate (updateWith [joinResponse 4 3])])

theorem reachable_syncedRealizer : Reachable syncedRealizer :=
  ⟨_, _, _, _, rfl⟩

theorem reachable_joinedRealizer : Reachable joinedRealizer :=
  ⟨_, _, _, _, rfl⟩

end Small

end Nimble
