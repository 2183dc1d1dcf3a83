import Nimble.Model.ConnectionQuality

/-! # The client (`client.h`, `game_state.c`)

Fields are in the order of `struct NimbleClient`. The log is left out, and the two things a
pointer leads to are held by value: the block of the joined game state and the allocator it
comes from. -/

namespace Nimble

inductive NimbleClientState
  | idle
  | requestingConnect
  | connected
  | joiningRequestingState
  | joiningDownloadingState
  | synced
  | disconnected
  deriving DecidableEq

inductive NimbleJoiningState
  | joiningParticipant
  | joinedParticipant
  | outOfParticipantSlots
  deriving DecidableEq

/-- `NIMBLE_CLIENT_MAX_LOCAL_USERS_COUNT` -/
abbrev nimbleClientMaxLocalUsersCount : Nat := 8

structure NimbleClientParticipantEntry where
  isUsed : Bool
  localUserDeviceIndex : UInt8
  participantId : UInt8
  deriving DecidableEq

/-! ## Game state blocks -/

/-- One entry of the ledger of game state blocks. -/
inductive LedgerEntry
  | alloc (block octetCount : Nat)
  | free (block : Nat)
  deriving DecidableEq

/-- The allocator as the client sees it: every allocation gives a new block, and the ledger
keeps the allocations and releases in order. -/
structure ImprintAllocatorWithFree where
  nextBlock : Nat
  ledger : List LedgerEntry
  deriving DecidableEq

/-- An allocated block; a null pointer is no block. -/
structure GameStateBlock where
  block : Nat
  octets : List UInt8
  deriving DecidableEq

structure NimbleClientGameState where
  gameState : Option GameStateBlock
  gameStateOctetCount : Nat
  stepId : StepId
  deriving DecidableEq

def nimbleClientGameStateInit (blobAllocator : ImprintAllocatorWithFree) (stepId : StepId)
    (gameState : List UInt8) (gameStateOctetCount : Nat) :
    NimbleClientGameState × ImprintAllocatorWithFree :=
  (⟨some ⟨blobAllocator.nextBlock, gameState.take gameStateOctetCount⟩, gameStateOctetCount,
      stepId⟩,
    ⟨blobAllocator.nextBlock + 1,
      blobAllocator.ledger ++ [.alloc blobAllocator.nextBlock gameStateOctetCount]⟩)

def nimbleClientGameStateDestroy (self : NimbleClientGameState)
    (blobAllocator : ImprintAllocatorWithFree) :
    NimbleClientGameState × ImprintAllocatorWithFree :=
  ({ self with gameState := none, gameStateOctetCount := 0 },
    { blobAllocator with
      ledger := blobAllocator.ledger ++ (self.gameState.toList.map fun b => .free b.block) })

/-! ## The client -/

structure NimbleClient (L : Libraries) where
  waitTime : Int
  state : NimbleClientState
  joinParticipantPhase : NimbleJoiningState
  localParticipantLookup : Vector NimbleClientParticipantEntry nimbleClientMaxLocalUsersCount
  localParticipantCount : Nat
  transport : L.DatagramTransport
  outSteps : L.NbsSteps
  authoritativePendingStepsFromServer : L.NbsPendingSteps
  authoritativeStepsFromServer : L.NbsSteps
  receivedStepIdByServerOnlyForDebug : StepId
  joinedGameState : NimbleClientGameState
  joinStateChannel : NimbleSerializeBlobStreamChannelId
  blobStreamInLogic : L.BlobStreamLogicIn
  blobStreamIn : L.BlobStreamIn
  downloadStateClientRequestId : UInt8
  joinStateId : StepId
  frame : Nat
  useStats : Bool
  statsCounter : Nat
  waitingStepsFromServer : L.StatsInt
  stepCountInIncomingBufferOnServerStat : L.StatsInt
  authoritativeBufferDeltaStat : L.StatsInt
  latencyMsStat : L.StatsInt
  outgoingStepsInQueue : L.StatsInt
  packetsPerSecondOut : L.StatsIntPerSecond
  packetsPerSecondIn : L.StatsIntPerSecond
  simulationStepsPerSecond : L.StatsIntPerSecond
  sentStepsDatagramCountPerSecond : L.StatsIntPerSecond
  memory : L.ImprintAllocator
  blobStreamAllocator : ImprintAllocatorWithFree
  partyAndSessionSecret : L.NimbleSerializePartyAndSessionSecret
  joinGameRequest : NimbleSerializeJoinGameRequest L.JoinGameOptions
  orderedDatagramOut : L.OrderedDatagramOutLogic
  orderedDatagramIn : L.OrderedDatagramInLogic
  maximumSingleParticipantStepOctetCount : Nat
  maximumNumberOfParticipants : Nat
  applicationVersion : L.NimbleSerializeVersion
  connectRequestId : UInt8
  lastUpdateMonotonicMsIsSet : Bool
  lastUpdateMonotonicMs : MonotonicTimeMs
  expectedTickDurationMs : Nat
  tickDuration : L.StatsInt
  latencyMs : Nat
  lagometer : L.Lagometer
  quality : NimbleClientConnectionQuality L
  useDebugStreams : Bool
  remoteConnectionId : UInt8
  wantsDebugStreams : Bool
  loggingTickCount : UInt32

variable {L : Libraries}

/-! ## Looking up participants -/

/-- The entry the search loop of `nimbleClientFindParticipantId` stops at. Reading past the
table is undefined in C; here such an index is passed over. -/
def findParticipant (self : NimbleClient L) (localUserDeviceIndex : UInt8) :
    Option NimbleClientParticipantEntry :=
  (List.range self.localParticipantCount).findSome? fun i =>
    (self.localParticipantLookup[i]?).filter fun entry =>
      entry.localUserDeviceIndex = localUserDeviceIndex

/-- The return code and the participant id handed out. -/
def nimbleClientFindParticipantId (self : NimbleClient L) (localUserDeviceIndex : UInt8) :
    Int × UInt8 :=
  match findParticipant self localUserDeviceIndex with
  | some entry => (1, entry.participantId)
  | none => (-1, 0xff)

/-! ## Authoritative steps -/

/-- The return code and the step that was read, if any. -/
def nimbleClientReadStep (self : NimbleClient L) (maxTarget : Nat) :
    Int × Option (StepId × List UInt8) × NimbleClient L :=
  let (result, step, steps) := L.nbsStepsRead self.authoritativeStepsFromServer maxTarget
  (result, step, { self with authoritativeStepsFromServer := steps })

/-! ## Prediction (`client_utils.c`) -/

def maximumBufferDeltaInfluenceInTicks : Nat := 5

def minimumBufferDelta : Int := 2

/-- `none` when no estimation can be made. -/
def calculateOptimalSendPredictionTickCount (self : NimbleClient L) : Option Nat :=
  if L.avgIsSet self.latencyMsStat then
    let unsignedLatency := (max (L.avg self.latencyMsStat) 0).toNat
    let latencyInTicksRoundedUp := unsignedLatency / self.expectedTickDurationMs + 1
    let bufferDeltaAverage :=
      if L.avgIsSet self.authoritativeBufferDeltaStat then L.avg self.authoritativeBufferDeltaStat
      else 0
    let bufferDeltaAddTickCount :=
      if bufferDeltaAverage < minimumBufferDelta then
        min (sizeCast (intCast (minimumBufferDelta - bufferDeltaAverage)))
          maximumBufferDeltaInfluenceInTicks
      else 0
    some ((latencyInTicksRoundedUp + bufferDeltaAddTickCount) % 2 ^ 64)
  else none

/-- The return value, `*outStepId`, and what is stored in `*outDiff` if anything. -/
def nimbleClientOptimalStepIdToSend (self : NimbleClient L) : Bool × StepId × Option Nat :=
  match calculateOptimalSendPredictionTickCount self with
  | none => (false, nimbleStepMax, none)
  | some outDiff =>
    (true, L.expectedWriteId self.authoritativeStepsFromServer + UInt32.ofNat outDiff,
      some outDiff)

end Nimble
