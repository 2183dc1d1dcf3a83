import Nimble.Model.Libraries
import Mathlib.Data.Rat.Floor

/-! # Connection quality (`connection_quality.c`)

The watchdog of a synced client. The float arithmetic of the rating is read over the rationals;
the disconnect decision uses the integer counters alone. -/

namespace Nimble

inductive NimbleConnectionQualityDisconnectReason
  | keepConnection
  | notReceivingStepsFromServer
  | notReceivingDatagramsFromServer
  deriving DecidableEq

structure NimbleClientConnectionQuality (L : Libraries) where
  droppingDatagramWarning : L.StatsHoldPositive
  impendingDisconnectWarning : L.StatsHoldPositive
  latencyMsStat : L.StatsInt
  ratingStat : L.StatsInt
  lastLatencyMs : Nat
  ticksWithoutIncomingDatagrams : Nat
  ticksWithoutAuthoritativeStepsFromInSerialize : Nat
  reason : NimbleConnectionQualityDisconnectReason
  consideringDisconnectCounter : Nat
  qualityRating : Nat
  droppedDatagramCounter : Nat

variable {L : Libraries}

/-- The rating is not among the values that are reset. -/
def nimbleClientConnectionQualityReset (self : NimbleClientConnectionQuality L) :
    NimbleClientConnectionQuality L :=
  { self with
    droppingDatagramWarning := L.statsHoldPositiveInit 20
    impendingDisconnectWarning := L.statsHoldPositiveInit 20
    latencyMsStat := L.statsIntInit 3
    ratingStat := L.statsIntInit 10
    lastLatencyMs := 0
    ticksWithoutAuthoritativeStepsFromInSerialize := 0
    ticksWithoutIncomingDatagrams := 0
    consideringDisconnectCounter := 0
    droppedDatagramCounter := 0
    reason := .keepConnection }

def nimbleClientConnectionQualityInit (self : NimbleClientConnectionQuality L) :
    NimbleClientConnectionQuality L :=
  nimbleClientConnectionQualityReset self

def degradeLowIsBetter (v divisor lowerThreshold : Nat) : ℚ :=
  if v < lowerThreshold then 1
  else if v > divisor then 0
  else 1 - ((v - lowerThreshold : Nat) : ℚ) / ((divisor - lowerThreshold : Nat) : ℚ)

def maxTicksWithoutDatagrams : Nat := 40

def maxTicksWithoutSteps : Nat := 15

/-- The latency part of `evaluate`: the degradations for jitter and for latency, and the
average to remember for the next evaluation. -/
def evaluateLatency (self : NimbleClientConnectionQuality L) : ℚ × ℚ × Nat :=
  if L.avgIsSet self.latencyMsStat then
    let latencyAvg := sizeCast (L.avg self.latencyMsStat)
    let latencyDiff := intCast (intCast latencyAvg - intCast self.lastLatencyMs)
    (if 3 < latencyDiff.natAbs then 9 / 10 else 1, degradeLowIsBetter latencyAvg 250 60,
      latencyAvg)
  else (1, 1, self.lastLatencyMs)

/-- The product of the five degradations, on the scale from 0 to 5. -/
def evaluateRating (self : NimbleClientConnectionQuality L) : Nat :=
  let ticksWithoutDatagramsDegrade :=
    degradeLowIsBetter self.ticksWithoutIncomingDatagrams maxTicksWithoutDatagrams 10
  let ticksWithoutStepsDegrade :=
    degradeLowIsBetter self.ticksWithoutAuthoritativeStepsFromInSerialize maxTicksWithoutSteps 10
  let droppingPacketsDegrade := degradeLowIsBetter self.droppedDatagramCounter 10 1
  let (highJitterDegrade, latencyDegrade, _) := evaluateLatency self
  let totalDegrade := ticksWithoutDatagramsDegrade * ticksWithoutStepsDegrade * latencyDegrade *
    highJitterDegrade * droppingPacketsDegrade
  (totalDegrade * 5).floor.toNat

/-- The disconnect recommendation for the current tick counters. -/
def evaluateReason (self : NimbleClientConnectionQuality L) :
    NimbleConnectionQualityDisconnectReason :=
  if maxTicksWithoutDatagrams ≤ self.ticksWithoutIncomingDatagrams then
    .notReceivingDatagramsFromServer
  else if maxTicksWithoutSteps < self.ticksWithoutAuthoritativeStepsFromInSerialize then
    .notReceivingStepsFromServer
  else .keepConnection

/-- Rates the connection, which updates the rating and the remembered latency, and recommends
whether to keep it. -/
def evaluate (self : NimbleClientConnectionQuality L) :
    NimbleConnectionQualityDisconnectReason × NimbleClientConnectionQuality L :=
  (evaluateReason self,
    { self with
      lastLatencyMs := (evaluateLatency self).2.2
      qualityRating := evaluateRating self
      ratingStat := L.statsIntAdd self.ratingStat (evaluateRating self) })

/-- What `nimbleClientConnectionQualityDescribe` puts in its text. -/
structure QualityDescription where
  reason : NimbleConnectionQualityDisconnectReason
  ticks : Nat
  rating : Nat

/-- Describing evaluates again. -/
def nimbleClientConnectionQualityDescribe (self : NimbleClientConnectionQuality L) :
    QualityDescription × NimbleClientConnectionQuality L :=
  let (reason, self) := evaluate self
  (match reason with
    | .keepConnection => ⟨reason, 0, self.qualityRating⟩
    | .notReceivingStepsFromServer =>
      ⟨reason, self.ticksWithoutAuthoritativeStepsFromInSerialize, self.qualityRating⟩
    | .notReceivingDatagramsFromServer =>
      ⟨reason, self.ticksWithoutIncomingDatagrams, self.qualityRating⟩,
    self)

/-- The counters a quality tick advances before it evaluates. -/
def countTick (self : NimbleClientConnectionQuality L) : NimbleClientConnectionQuality L :=
  { self with
    ticksWithoutAuthoritativeStepsFromInSerialize :=
      self.ticksWithoutAuthoritativeStepsFromInSerialize + 1
    ticksWithoutIncomingDatagrams := self.ticksWithoutIncomingDatagrams + 1
    droppedDatagramCounter := self.droppedDatagramCounter - 1 }

/-- What a quality tick does with the recommendation. The notices of the logging build, which
describe the quality, are left out. -/
def considerDisconnect (reason : NimbleConnectionQualityDisconnectReason)
    (self : NimbleClientConnectionQuality L) : NimbleClientConnectionQuality L :=
  if reason = .keepConnection then
    { self with consideringDisconnectCounter := self.consideringDisconnectCounter - 1 }
  else if self.consideringDisconnectCounter + 1 > 60 then
    { self with
      consideringDisconnectCounter := self.consideringDisconnectCounter + 1
      reason := reason }
  else { self with consideringDisconnectCounter := self.consideringDisconnectCounter + 1 }

/-- The part of `nimbleClientConnectionQualityUpdate` behind its test of the client state. -/
def qualityTick (self : NimbleClientConnectionQuality L) : NimbleClientConnectionQuality L :=
  let (reason, self) := evaluate (countTick self)
  considerDisconnect reason self

/-- A notice of the build with `CLOG_LOG_ENABLED`, whose text describes the quality. -/
def noticeQuality (issued : Bool) (self : NimbleClientConnectionQuality L) :
    NimbleClientConnectionQuality L :=
  if issued then (nimbleClientConnectionQualityDescribe self).2 else self

/-- What the build with `CLOG_LOG_ENABLED` does with the recommendation. -/
def considerDisconnectLogging (reason : NimbleConnectionQualityDisconnectReason)
    (self : NimbleClientConnectionQuality L) : NimbleClientConnectionQuality L :=
  if reason = .keepConnection then
    { self with consideringDisconnectCounter := self.consideringDisconnectCounter - 1 }
  else
    let self := { self with consideringDisconnectCounter := self.consideringDisconnectCounter + 1 }
    let self := noticeQuality (self.consideringDisconnectCounter = 1) self
    let self := noticeQuality (self.consideringDisconnectCounter % 20 = 0) self
    if self.consideringDisconnectCounter > 60 then
      noticeQuality true { self with reason := reason }
    else self

def qualityTickLogging (self : NimbleClientConnectionQuality L) :
    NimbleClientConnectionQuality L :=
  let (reason, self) := evaluate (countTick self)
  considerDisconnectLogging reason self

def nimbleClientConnectionQualityDroppedDatagrams (self : NimbleClientConnectionQuality L)
    (delta : Nat) : NimbleClientConnectionQuality L :=
  { self with
    droppedDatagramCounter := self.droppedDatagramCounter + delta
    droppingDatagramWarning := L.statsHoldPositiveAdd self.droppingDatagramWarning (1 < delta) }

def nimbleClientConnectionQualityReceivedUsableDatagram
    (self : NimbleClientConnectionQuality L) : NimbleClientConnectionQuality L :=
  { self with
    ticksWithoutIncomingDatagrams := 0
    droppingDatagramWarning := L.statsHoldPositiveAdd self.droppingDatagramWarning false }

/-- The number of steps is not used. -/
def nimbleClientConnectionQualityReceivedAuthoritativeSteps
    (self : NimbleClientConnectionQuality L) (_delta : Nat) : NimbleClientConnectionQuality L :=
  { self with ticksWithoutAuthoritativeStepsFromInSerialize := 0 }

def nimbleClientConnectionQualityGameStepLatency (self : NimbleClientConnectionQuality L)
    (latencyInMs : Nat) : NimbleClientConnectionQuality L :=
  { self with latencyMsStat := L.statsIntAdd self.latencyMsStat (intCast latencyInMs) }

def nimbleClientConnectionQualityShouldDisconnect (self : NimbleClientConnectionQuality L) :
    Bool :=
  self.reason ≠ .keepConnection

end Nimble
