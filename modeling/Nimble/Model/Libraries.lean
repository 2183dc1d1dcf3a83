import Mathlib.Algebra.Group.Nat.Defs
import Mathlib.Algebra.Order.Group.Int

/-! # The libraries the client is built on

None of the libraries below is part of the repository, so each type and function the client
takes from one is a field of `Libraries`. A function keeps its C name. A pointer argument that
the callee writes through becomes a result, and an octet stream is the octets it holds. -/

namespace Nimble

/-- `StepId` is an unsigned 32-bit tick number. -/
abbrev StepId := UInt32

/-- `NIMBLE_STEP_MAX`, the largest step id, marks an unknown step. -/
def nimbleStepMax : StepId := 0xffffffff

/-- Milliseconds of the monotonic clock, a signed 64-bit value. -/
abbrev MonotonicTimeMs := Int

/-- Blob stream channels are only stored and compared. -/
abbrev NimbleSerializeBlobStreamChannelId := Nat

abbrev NimbleSerializeNonce := Nat

/-- Conversion to `int`: the value modulo `2 ^ 32`, read as a signed number. -/
def intCast (n : Int) : Int := n.bmod (2 ^ 32)

theorem intCast_mem (n : Int) : -2 ^ 31 ≤ intCast n ∧ intCast n < 2 ^ 31 := by
  rw [intCast, Int.bmod_def]
  split <;> omega

theorem intCast_of_mem {n : Int} (h0 : -2 ^ 31 ≤ n) (h : n < 2 ^ 31) : intCast n = n :=
  Int.bmod_eq_of_le (by omega) (by omega)

/-- Conversion of an `int` to `size_t`. -/
def sizeCast (n : Int) : Nat := (n % 2 ^ 64).toNat

theorem sizeCast_of_mem {n : Int} (h0 : 0 ≤ n) (h : n < 2 ^ 64) : sizeCast n = n.toNat := by
  rw [sizeCast, Int.emod_eq_of_lt h0 h]

/-! ## Octet streams -/

/-- A stream being read: the octets of one datagram and the position of the next one. -/
structure FldInStream where
  octets : List UInt8
  pos : Nat
  readDebugInfo : Bool
  deriving DecidableEq

def fldInStreamInit (data : List UInt8) : FldInStream := ⟨data, 0, false⟩

def FldInStream.size (s : FldInStream) : Nat := s.octets.length

/-- The effect of one read: the return code, the value stored through the pointer argument
(`none` when the target is left as it was) and the stream afterwards. -/
structure ReadResult (α : Type) where
  code : Int
  value : Option α
  stream : FldInStream

/-- A stream being written: the octets put in the datagram so far. -/
structure FldOutStream where
  octets : List UInt8
  size : Nat
  writeDebugInfo : Bool
  deriving DecidableEq

def FldOutStream.pos (s : FldOutStream) : Nat := s.octets.length

/-- The effect of one write: the return code and the octets appended. -/
structure WriteResult where
  code : Int
  octets : List UInt8

/-- A library routine that writes to a stream. -/
abbrev Writer := FldOutStream → WriteResult

/-- Run a writer on a stream. -/
def FldOutStream.write (s : FldOutStream) (w : Writer) : FldOutStream :=
  { s with octets := s.octets ++ (w s).octets }

@[simp] theorem FldOutStream.octets_write (s : FldOutStream) (w : Writer) :
    (s.write w).octets = s.octets ++ (w s).octets := rfl

/-! ## Messages -/

/-- The commands of the protocol that the client reads or writes. -/
inductive NimbleSerializeCmd
  | connectResponse
  | serverOutBlobStream
  | gameStepResponse
  | joinGameResponse
  | gameStateResponse
  | joinGameOutOfParticipantSlotsResponse
  | clientOutBlobStream
  | downloadGameStateRequest
  | gameStep
  deriving DecidableEq

structure NimbleSerializeConnectResponse where
  useDebugStreams : Bool
  connectionId : UInt8

/-- The index and the id are converted to octets by the client. -/
structure NimbleSerializeJoinGameResponseParticipant where
  localIndex : Nat
  participantId : Nat

structure NimbleSerializeJoinGameResponse (Secret : Type) where
  partyAndSessionSecret : Secret
  participants : List NimbleSerializeJoinGameResponseParticipant

/-- The decoder delivers as many participants as the count it read. -/
def NimbleSerializeJoinGameResponse.participantCount {Secret : Type}
    (response : NimbleSerializeJoinGameResponse Secret) : Nat :=
  response.participants.length

structure NimbleSerializeConnectRequest (Version : Type) where
  applicationVersion : Version
  useDebugStreams : Bool
  clientRequestId : UInt8

/-- A join request: the nonce the realizer stamps on it, and what the application asks for. -/
structure NimbleSerializeJoinGameRequest (Options : Type) where
  nonce : NimbleSerializeNonce
  options : Options

inductive LagometerPacketStatus
  | received
  | dropped
  deriving DecidableEq

structure LagometerPacket where
  status : LagometerPacketStatus
  latencyMs : Nat
  octetCount : Nat

/-! ## The library interfaces -/

structure Libraries where
  -- nimble-steps
  NbsSteps : Type
  NbsPendingSteps : Type
  -- blob-stream
  BlobStreamIn : Type
  BlobStreamLogicIn : Type
  -- ordered-datagram
  OrderedDatagramInLogic : Type
  OrderedDatagramOutLogic : Type
  -- stats
  StatsInt : Type
  StatsIntPerSecond : Type
  StatsHoldPositive : Type
  Lagometer : Type
  -- imprint and datagram-transport handles, which the client only passes on
  ImprintAllocator : Type
  DatagramTransport : Type
  -- nimble-serialize
  NimbleSerializeVersion : Type
  NimbleSerializePartyAndSessionSecret : Type
  JoinGameOptions : Type
  /-- The modulus of the unsigned nonce type. -/
  nonceModulus : Nat

  fldInStreamCheckMarker : FldInStream → UInt8 → FldInStream
  fldInStreamReadUInt8 : FldInStream → ReadResult UInt8
  fldInStreamReadInt8 : FldInStream → ReadResult Int8
  fldInStreamReadUInt16 : FldInStream → ReadResult UInt16
  fldInStreamReadUInt32 : FldInStream → ReadResult UInt32
  fldOutStreamWriteUInt8 : UInt8 → Writer
  fldOutStreamWriteUInt16 : UInt16 → Writer
  datagramTransportMaxSize : Nat

  /-- The enumerator an octet stands for; `none` for any other octet. -/
  nimbleSerializeCmd : UInt8 → Option NimbleSerializeCmd
  nimbleSerializeInBlobStreamChannelId :
    FldInStream → ReadResult NimbleSerializeBlobStreamChannelId
  nimbleSerializeInStateId : FldInStream → ReadResult StepId
  nimbleSerializeInNonce : FldInStream → ReadResult NimbleSerializeNonce
  nimbleSerializeClientInConnectResponse : FldInStream → ReadResult NimbleSerializeConnectResponse
  nimbleSerializeClientInJoinGameResponse : FldInStream →
    ReadResult (NimbleSerializeJoinGameResponse NimbleSerializePartyAndSessionSecret)
  nimbleSerializeWriteCommand : NimbleSerializeCmd → Writer
  nimbleSerializeClientOutConnectRequest :
    NimbleSerializeConnectRequest NimbleSerializeVersion → Writer
  nimbleSerializeClientOutJoinGameRequest : NimbleSerializeJoinGameRequest JoinGameOptions → Writer
  nimbleSerializeMaxRedundancyCount : Nat

  nbsStepsOutSerializeCalculateCombinedSize : Nat → Nat → Nat
  nbsStepsInit : ImprintAllocator → Nat → NbsSteps
  nbsStepsReset : NbsSteps → NbsSteps
  nbsStepsReInit : NbsSteps → StepId → NbsSteps
  nbsStepsDiscardUpTo : NbsSteps → StepId → NbsSteps
  nbsStepsWrite : NbsSteps → StepId → List UInt8 → Int × NbsSteps
  /-- The step popped from the buffer is its id and payload. -/
  nbsStepsRead : NbsSteps → Nat → Int × Option (StepId × List UInt8) × NbsSteps
  nbsStepsOutSerialize : NbsSteps → Writer
  stepsCount : NbsSteps → Nat
  expectedWriteId : NbsSteps → StepId
  nbsPendingStepsInit : StepId → NbsPendingSteps
  nbsPendingStepsReset : NbsPendingSteps → StepId → NbsPendingSteps
  nbsPendingStepsInSerialize : FldInStream → NbsPendingSteps → Int × NbsPendingSteps
  nbsPendingStepsCopy : NbsSteps → NbsPendingSteps → Int × NbsSteps × NbsPendingSteps
  nbsPendingStepsReceiveMask : NbsPendingSteps → UInt64 × StepId
  nbsPendingStepsSerializeOutHeader : StepId → UInt64 → Writer

  blobStreamLogicInReceive : BlobStreamLogicIn → BlobStreamIn → FldInStream →
    Int × BlobStreamLogicIn × BlobStreamIn
  blobStreamInIsComplete : BlobStreamIn → Bool
  blobStreamLogicInSend : BlobStreamLogicIn → BlobStreamIn → FldOutStream →
    WriteResult × BlobStreamLogicIn
  blob : BlobStreamIn → List UInt8
  blobOctetCount : BlobStreamIn → Nat

  orderedDatagramInLogicInit : OrderedDatagramInLogic
  orderedDatagramInLogicReceive : OrderedDatagramInLogic → FldInStream →
    Int × OrderedDatagramInLogic × FldInStream
  orderedDatagramOutLogicInit : OrderedDatagramOutLogic
  orderedDatagramOutLogicPrepare : OrderedDatagramOutLogic → FldOutStream →
    WriteResult × OrderedDatagramOutLogic
  orderedDatagramOutLogicCommit : OrderedDatagramOutLogic → OrderedDatagramOutLogic

  statsIntInit : Nat → StatsInt
  statsIntAdd : StatsInt → Int → StatsInt
  avg : StatsInt → Int
  avgIsSet : StatsInt → Bool
  statsIntPerSecondInit : MonotonicTimeMs → Int → StatsIntPerSecond
  statsIntPerSecondAdd : StatsIntPerSecond → Int → StatsIntPerSecond
  statsIntPerSecondUpdate : StatsIntPerSecond → MonotonicTimeMs → StatsIntPerSecond
  statsHoldPositiveInit : Nat → StatsHoldPositive
  statsHoldPositiveAdd : StatsHoldPositive → Bool → StatsHoldPositive
  lagometerInit : Lagometer
  lagometerAddPacket : Lagometer → LagometerPacket → Lagometer
  monotonicTimeMsFromLowerBits : MonotonicTimeMs → UInt16 → MonotonicTimeMs
  monotonicTimeMsToLowerBits : MonotonicTimeMs → UInt16

end Nimble
