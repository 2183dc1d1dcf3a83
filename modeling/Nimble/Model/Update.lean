import Nimble.Model.Outgoing

/-! # Resetting, initializing and updating the client (`client.c`) -/

namespace Nimble

variable {L : Libraries}

/-! ## Reset and initialization -/

/-- Frees the joined game state, if there is one. -/
def NimbleClient.freeGameState (self : NimbleClient L) : NimbleClient L :=
  if self.joinedGameState.gameState.isSome then
    let (joinedGameState, blobStreamAllocator) :=
      nimbleClientGameStateDestroy self.joinedGameState self.blobStreamAllocator
    { self with joinedGameState := joinedGameState, blobStreamAllocator := blobStreamAllocator }
  else self

/-- `now` is the clock reading taken for the per-second statistics. -/
def nimbleClientReset (self : NimbleClient L) (now : MonotonicTimeMs) : NimbleClient L :=
  let combinedStepOctetCount := L.nbsStepsOutSerializeCalculateCombinedSize
    self.maximumNumberOfParticipants self.maximumSingleParticipantStepOctetCount
  let self := { self with
    outSteps := L.nbsStepsReset self.outSteps
    authoritativePendingStepsFromServer :=
      L.nbsPendingStepsReset self.authoritativePendingStepsFromServer 0
    authoritativeStepsFromServer := L.nbsStepsInit self.memory combinedStepOctetCount
    receivedStepIdByServerOnlyForDebug := nimbleStepMax
    localParticipantCount := 0
    localParticipantLookup := Vector.replicate nimbleClientMaxLocalUsersCount ⟨false, 0, 0⟩
    waitingStepsFromServer := L.statsIntInit 20
    outgoingStepsInQueue := L.statsIntInit 20
    stepCountInIncomingBufferOnServerStat := L.statsIntInit 20
    tickDuration := L.statsIntInit 20
    latencyMsStat := L.statsIntInit 20
    lastUpdateMonotonicMsIsSet := false
    authoritativeBufferDeltaStat := L.statsIntInit 10
    packetsPerSecondOut := L.statsIntPerSecondInit now 1000
    packetsPerSecondIn := L.statsIntPerSecondInit now 1000
    simulationStepsPerSecond := L.statsIntPerSecondInit now 1000
    sentStepsDatagramCountPerSecond := L.statsIntPerSecondInit now 1000
    useStats := true
    state := .idle }
  { self.freeGameState with
    downloadStateClientRequestId := 1
    quality := nimbleClientConnectionQualityReset self.quality
    orderedDatagramIn := L.orderedDatagramInLogicInit
    orderedDatagramOut := L.orderedDatagramOutLogicInit
    lagometer := L.lagometerInit }

def nimbleClientReInit (self : NimbleClient L) (transport : L.DatagramTransport)
    (now : MonotonicTimeMs) : NimbleClient L :=
  nimbleClientReset { self with transport := transport } now

/-- The parameters of `nimbleClientInit`, which are also the settings of the realizer. -/
structure NimbleClientRealizeSettings (L : Libraries) where
  transport : L.DatagramTransport
  memory : L.ImprintAllocator
  blobMemory : ImprintAllocatorWithFree
  maximumSingleParticipantStepOctetCount : Nat
  maximumNumberOfParticipants : Nat
  applicationVersion : L.NimbleSerializeVersion
  wantsDebugStreams : Bool

/-- `self` is the memory the client is placed in: fields that are not written keep what it
holds. Sizes out of range are only logged. -/
def nimbleClientInit (self : NimbleClient L) (settings : NimbleClientRealizeSettings L)
    (now : MonotonicTimeMs) : NimbleClient L :=
  let combinedStepOctetCount := L.nbsStepsOutSerializeCalculateCombinedSize
    settings.maximumNumberOfParticipants settings.maximumSingleParticipantStepOctetCount
  let self := { self with
    useDebugStreams := false
    wantsDebugStreams := settings.wantsDebugStreams
    applicationVersion := settings.applicationVersion
    connectRequestId := 0
    remoteConnectionId := 0
    memory := settings.memory
    expectedTickDurationMs := 16
    blobStreamAllocator := settings.blobMemory
    joinedGameState := { self.joinedGameState with gameState := none }
    maximumSingleParticipantStepOctetCount := settings.maximumSingleParticipantStepOctetCount
    maximumNumberOfParticipants := settings.maximumNumberOfParticipants
    state := .idle
    transport := settings.transport
    outSteps := L.nbsStepsInit settings.memory combinedStepOctetCount
    authoritativePendingStepsFromServer := L.nbsPendingStepsInit 0
    authoritativeStepsFromServer := L.nbsStepsInit settings.memory combinedStepOctetCount }
  let self := nimbleClientReInit self settings.transport now
  { self with quality := nimbleClientConnectionQualityInit self.quality }

def nimbleClientDestroy (self : NimbleClient L) : NimbleClient L :=
  self.freeGameState

def nimbleClientDisconnect (self : NimbleClient L) : NimbleClient L :=
  { self with state := .disconnected }

/-! ## Update -/

/-- What the environment contributes to one call of `nimbleClientUpdate`. -/
structure UpdateInput (L : Libraries) where
  now : MonotonicTimeMs
  queue : List (Received L)
  outgoing : OutgoingInput

/-- The outcome of an update: the return value, the client, what is left in the transport's
queue and what was sent. -/
structure UpdateOutcome (L : Libraries) where
  result : Int
  client : NimbleClient L
  queue : List (Received L)
  events : List (OutgoingEvent L)

def checkTickInterval (self : NimbleClient L) (now : MonotonicTimeMs) : NimbleClient L :=
  if self.lastUpdateMonotonicMsIsSet then
    let encounteredTickDuration := now - self.lastUpdateMonotonicMs
    if encounteredTickDuration + 10 < intCast self.expectedTickDurationMs then self
    else
      { self with
        tickDuration := L.statsIntAdd self.tickDuration (intCast encounteredTickDuration)
        lastUpdateMonotonicMs := now }
  else { self with lastUpdateMonotonicMsIsSet := true, lastUpdateMonotonicMs := now }

/-- The watchdog only counts while the client is synced. -/
def nimbleClientConnectionQualityUpdate (self : NimbleClient L) : NimbleClient L :=
  if self.state ≠ .synced then self else { self with quality := qualityTick self.quality }

def checkIfDisconnectIsNeeded (self : NimbleClient L) : NimbleClient L :=
  if self.state ≠ .synced then self
  else if nimbleClientConnectionQualityShouldDisconnect self.quality then
    { self with state := .disconnected }
  else self

def calcStats (self : NimbleClient L) (now : MonotonicTimeMs) : NimbleClient L :=
  { self with
    packetsPerSecondOut := L.statsIntPerSecondUpdate self.packetsPerSecondOut now
    packetsPerSecondIn := L.statsIntPerSecondUpdate self.packetsPerSecondIn now
    simulationStepsPerSecond := L.statsIntPerSecondUpdate self.simulationStepsPerSecond now
    sentStepsDatagramCountPerSecond :=
      L.statsIntPerSecondUpdate self.sentStepsDatagramCountPerSecond now }

/-- Everything but the counter is log output. -/
def showStats (self : NimbleClient L) : NimbleClient L :=
  { self with statsCounter := self.statsCounter + 1 }

/-- The caller ignores the return value. -/
def sendPackets (self : NimbleClient L) (input : OutgoingInput) : OutgoingOutcome L :=
  if self.state = .idle ∨ self.state = .disconnected then ⟨0, self, []⟩
  else nimbleClientOutgoing self input

/-- The client as it enters the receive loop of an update. -/
def beginUpdate (self : NimbleClient L) (now : MonotonicTimeMs) : NimbleClient L :=
  checkTickInterval { self with loggingTickCount := self.loggingTickCount + 1 } now

/-- The part of an update behind the receive loop, which returned `result`. -/
def finishUpdate (self : NimbleClient L) (result : Int) (queue : List (Received L))
    (input : UpdateInput L) : UpdateOutcome L :=
  let self := checkIfDisconnectIsNeeded (nimbleClientConnectionQualityUpdate self)
  if 0 < self.waitTime then ⟨0, { self with waitTime := self.waitTime - 1 }, queue, []⟩
  else
    let sent := sendPackets (showStats (calcStats self input.now)) input.outgoing
    ⟨result, sent.client, queue, sent.events⟩

def nimbleClientUpdate (self : NimbleClient L) (input : UpdateInput L) : UpdateOutcome L :=
  let received :=
    nimbleClientReceiveAllDatagramsFromTransport (beginUpdate self input.now) input.queue
  if received.result < 0 then ⟨received.result, received.client, received.queue, []⟩
  else finishUpdate received.client received.result received.queue input

end Nimble
