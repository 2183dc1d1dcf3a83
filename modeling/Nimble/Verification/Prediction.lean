import Mathlib.Order.Bounds.Basic
import Nimble.Verification.AuthoritativeSteps
import Nimble.Verification.Sessions

/-! # The prediction distance

How many ticks ahead a client predicts, and the id of the step it is told to send. -/

namespace Nimble

open ReorderBuffer

variable {L : Libraries}

/-! ## The distance -/

/-- The latency that the calculation starts from: the average, or zero for a negative one. -/
def latencyAverage (self : NimbleClient L) : Nat :=
  (max (L.avg self.latencyMsStat) 0).toNat

/-- The buffer delta that it starts from, zero if there is no average. -/
def bufferDeltaAverage (self : NimbleClient L) : Int :=
  if L.avgIsSet self.authoritativeBufferDeltaStat then L.avg self.authoritativeBufferDeltaStat
  else 0

/-- The latency part of the distance. -/
def latencyTicks (self : NimbleClient L) : Nat :=
  latencyAverage self / self.expectedTickDurationMs + 1

/-- The part that makes up for a low buffer delta. -/
def bufferDeltaTicks (self : NimbleClient L) : Nat :=
  min (minimumBufferDelta - bufferDeltaAverage self).toNat maximumBufferDeltaInfluenceInTicks

/-- The client has a latency average, a tick duration and averages in range: an `int` for the
latency, and an `int8_t` for the buffer delta. -/
structure CanPredict (client : NimbleClient L) : Prop where
  latencyIsSet : L.avgIsSet client.latencyMsStat = true
  latency_lt : L.avg client.latencyMsStat < 2 ^ 31
  tickDuration_pos : 0 < client.expectedTickDurationMs
  bufferDelta : L.avgIsSet client.authoritativeBufferDeltaStat = true →
    -128 ≤ L.avg client.authoritativeBufferDeltaStat ∧ L.avg client.authoritativeBufferDeltaStat ≤ 127

theorem CanPredict.bufferDelta_mem {self : NimbleClient L} (h : CanPredict self) :
    -128 ≤ bufferDeltaAverage self ∧ bufferDeltaAverage self ≤ 127 := by
  rw [bufferDeltaAverage]
  split
  · exact h.bufferDelta ‹_›
  · decide

theorem CanPredict.latencyAverage_lt {self : NimbleClient L} (h : CanPredict self) :
    latencyAverage self < 2 ^ 31 := by
  have := h.latency_lt
  rw [latencyAverage]
  omega

theorem bufferDeltaTicks_le (self : NimbleClient L) : bufferDeltaTicks self ≤ 5 :=
  Nat.min_le_right _ _

theorem CanPredict.latencyTicks_le {self : NimbleClient L} (h : CanPredict self) :
    latencyTicks self ≤ 2 ^ 31 := by
  have hlatency := h.latencyAverage_lt
  have hdiv := Nat.div_le_self (latencyAverage self) self.expectedTickDurationMs
  rw [latencyTicks]
  omega

/-- Every value on the way to the distance keeps within its type: nothing is divided by zero,
overflows or wraps, and no conversion changes a value. -/
structure PredictionInRange (client : NimbleClient L) : Prop where
  divisor : client.expectedTickDurationMs ≠ 0
  unsignedLatency : sizeCast (max (L.avg client.latencyMsStat) 0) = latencyAverage client
  latencyTicks_lt : latencyTicks client < 2 ^ 64
  difference : intCast (minimumBufferDelta - bufferDeltaAverage client) =
    minimumBufferDelta - bufferDeltaAverage client
  bufferDeltaAddTickCount : bufferDeltaAverage client < minimumBufferDelta →
    (sizeCast (minimumBufferDelta - bufferDeltaAverage client) : Int) =
      minimumBufferDelta - bufferDeltaAverage client
  sum_lt : latencyTicks client + bufferDeltaTicks client < 2 ^ 64
  /-- The conversion to a step id. -/
  stepCount_lt : latencyTicks client + bufferDeltaTicks client < 2 ^ 32

theorem CanPredict.inRange {self : NimbleClient L} (h : CanPredict self) :
    PredictionInRange self := by
  obtain ⟨hlow, hhigh⟩ := h.bufferDelta_mem
  have hlatency := h.latency_lt
  have hticks := h.latencyTicks_le
  have hadded := bufferDeltaTicks_le self
  have hminimum : minimumBufferDelta = 2 := rfl
  refine ⟨Nat.pos_iff_ne_zero.mp h.tickDuration_pos, ?_, by omega, ?_, fun hbelow => ?_, by omega,
    by omega⟩
  · rw [sizeCast_of_mem (by omega) (by omega), latencyAverage]
  · exact intCast_of_mem (by omega) (by omega)
  · rw [sizeCast_of_mem (by omega) (by omega)]
    omega

/-- The distance is the sum of its two parts. -/
theorem calculateOptimalSendPredictionTickCount_eq {self : NimbleClient L} (h : CanPredict self) :
    calculateOptimalSendPredictionTickCount self =
      some (latencyTicks self + bufferDeltaTicks self) := by
  have hrange := h.inRange
  have hadded : (if bufferDeltaAverage self < minimumBufferDelta then
      min (sizeCast (intCast (minimumBufferDelta - bufferDeltaAverage self)))
        maximumBufferDeltaInfluenceInTicks
      else 0) = bufferDeltaTicks self := by
    rw [bufferDeltaTicks]
    split
    · have hsize := hrange.bufferDeltaAddTickCount ‹_›
      rw [hrange.difference]
      congr 1
      omega
    · rw [Int.toNat_of_nonpos (by omega), Nat.zero_min]
  have hcalculated : calculateOptimalSendPredictionTickCount self =
      some ((latencyTicks self + if bufferDeltaAverage self < minimumBufferDelta then
        min (sizeCast (intCast (minimumBufferDelta - bufferDeltaAverage self)))
          maximumBufferDeltaInfluenceInTicks
        else 0) % 2 ^ 64) := if_pos h.latencyIsSet
  rw [hcalculated, hadded, Nat.mod_eq_of_lt hrange.sum_lt]

theorem nimbleClientOptimalStepIdToSend_of_canPredict {self : NimbleClient L}
    (h : CanPredict self) :
    nimbleClientOptimalStepIdToSend self =
      (true, L.expectedWriteId self.authoritativeStepsFromServer +
        UInt32.ofNat (latencyTicks self + bufferDeltaTicks self),
        some (latencyTicks self + bufferDeltaTicks self)) := by
  rw [nimbleClientOptimalStepIdToSend]
  rw [calculateOptimalSendPredictionTickCount_eq h]

/-! ## Laws of the distance -/

/-- The distance covers the round trip, and exceeds it by six ticks at most. -/
theorem CanPredict.distance_mem {self : NimbleClient L} (h : CanPredict self) :
    latencyAverage self < (latencyTicks self + bufferDeltaTicks self) *
        self.expectedTickDurationMs ∧
      (latencyTicks self + bufferDeltaTicks self) * self.expectedTickDurationMs ≤
        latencyAverage self + 6 * self.expectedTickDurationMs := by
  have hcovers : latencyAverage self < latencyTicks self * self.expectedTickDurationMs := by
    rw [latencyTicks, Nat.mul_comm]
    exact Nat.lt_mul_div_succ _ h.tickDuration_pos
  have hfloor := Nat.div_mul_le_self (latencyAverage self) self.expectedTickDurationMs
  have hadded : bufferDeltaTicks self * self.expectedTickDurationMs ≤
      5 * self.expectedTickDurationMs := Nat.mul_le_mul_right _ (bufferDeltaTicks_le self)
  have hticks : latencyTicks self * self.expectedTickDurationMs =
      latencyAverage self / self.expectedTickDurationMs * self.expectedTickDurationMs +
        self.expectedTickDurationMs := Nat.succ_mul _ _
  rw [Nat.add_mul]
  omega

section

variable {self other : NimbleClient L}

theorem latencyTicks_mono (htick : other.expectedTickDurationMs = self.expectedTickDurationMs)
    (h : latencyAverage self ≤ latencyAverage other) :
    latencyTicks self ≤ latencyTicks other := by
  rw [latencyTicks, latencyTicks, htick]
  exact Nat.succ_le_succ (Nat.div_le_div_right h)

theorem bufferDeltaTicks_anti (h : bufferDeltaAverage self ≤ bufferDeltaAverage other) :
    bufferDeltaTicks other ≤ bufferDeltaTicks self := by
  rw [bufferDeltaTicks, bufferDeltaTicks]
  omega

theorem bufferDeltaTicks_of_ample (h : 2 ≤ bufferDeltaAverage self) :
    bufferDeltaTicks self = 0 := by
  have hminimum : minimumBufferDelta = 2 := rfl
  rw [bufferDeltaTicks]
  omega

theorem latencyTicks_add_mul (hpos : 0 < self.expectedTickDurationMs)
    (htick : other.expectedTickDurationMs = self.expectedTickDurationMs) {ticks : Nat}
    (h : latencyAverage other = latencyAverage self + ticks * self.expectedTickDurationMs) :
    latencyTicks other = latencyTicks self + ticks := by
  rw [latencyTicks, latencyTicks, htick, h, Nat.add_mul_div_right _ _ hpos]
  omega

end

/-- How the distances of two clients with the same tick duration compare. -/
structure DistanceLaws (client other : NimbleClient L) (outDiff otherDiff : Nat) : Prop where
  latency : L.avg client.latencyMsStat ≤ L.avg other.latencyMsStat →
    bufferDeltaAverage other = bufferDeltaAverage client → outDiff ≤ otherDiff
  bufferDelta : L.avg other.latencyMsStat = L.avg client.latencyMsStat →
    bufferDeltaAverage client ≤ bufferDeltaAverage other → otherDiff ≤ outDiff
  ampleBufferDelta : L.avg other.latencyMsStat = L.avg client.latencyMsStat →
    2 ≤ bufferDeltaAverage client → 2 ≤ bufferDeltaAverage other → otherDiff = outDiff
  shift : ∀ ticks, latencyAverage other =
      latencyAverage client + ticks * client.expectedTickDurationMs →
    bufferDeltaAverage other = bufferDeltaAverage client → otherDiff = outDiff + ticks

theorem CanPredict.distanceLaws {self other : NimbleClient L} (h : CanPredict self)
    (htick : other.expectedTickDurationMs = self.expectedTickDurationMs) :
    DistanceLaws self other (latencyTicks self + bufferDeltaTicks self)
      (latencyTicks other + bufferDeltaTicks other) where
  latency hlatency hdelta := by
    have haverage : latencyAverage self ≤ latencyAverage other := by
      rw [latencyAverage, latencyAverage]
      omega
    exact Nat.add_le_add (latencyTicks_mono htick haverage) (bufferDeltaTicks_anti hdelta.le)
  bufferDelta hlatency hdelta := by
    have haverage : latencyAverage other = latencyAverage self := by
      rw [latencyAverage, hlatency, latencyAverage]
    exact Nat.add_le_add (latencyTicks_mono htick.symm haverage.le) (bufferDeltaTicks_anti hdelta)
  ampleBufferDelta hlatency hself hother := by
    have haverage : latencyAverage other = latencyAverage self := by
      rw [latencyAverage, hlatency, latencyAverage]
    rw [bufferDeltaTicks_of_ample hself, bufferDeltaTicks_of_ample hother, latencyTicks, haverage,
      htick, latencyTicks]
  shift ticks hlatency hdelta := by
    have hticks := latencyTicks_add_mul h.tickDuration_pos htick hlatency
    have hadded : bufferDeltaTicks other = bufferDeltaTicks self := by
      rw [bufferDeltaTicks, hdelta, bufferDeltaTicks]
    omega

/-- What `*outDiff` is set to, if anything. -/
def optimalOutDiff (self : NimbleClient L) : Option Nat :=
  (nimbleClientOptimalStepIdToSend self).2.2

/-- The distance covers the round trip and is bounded, nothing on the way to it leaves its type,
and it follows the two averages. Without a latency average there is none. The client is a constant
argument, so there is nothing in it to change. -/
theorem prediction_distance_laws :
    (∀ self : NimbleClient L, CanPredict self → ∃ outDiff,
      (nimbleClientOptimalStepIdToSend self).1 = true ∧ optimalOutDiff self = some outDiff ∧
        latencyAverage self < outDiff * self.expectedTickDurationMs ∧
        outDiff * self.expectedTickDurationMs ≤
          latencyAverage self + 6 * self.expectedTickDurationMs ∧
        outDiff = latencyTicks self + bufferDeltaTicks self ∧ PredictionInRange self) ∧
    (∀ self other : NimbleClient L, CanPredict self → CanPredict other →
      other.expectedTickDurationMs = self.expectedTickDurationMs →
      ∀ outDiff ∈ optimalOutDiff self, ∀ otherDiff ∈ optimalOutDiff other,
        DistanceLaws self other outDiff otherDiff) ∧
    ∀ self : NimbleClient L, L.avgIsSet self.latencyMsStat = false →
      nimbleClientOptimalStepIdToSend self = (false, nimbleStepMax, none) := by
  have houtDiff : ∀ self : NimbleClient L, CanPredict self →
      optimalOutDiff self = some (latencyTicks self + bufferDeltaTicks self) := by
    intro self hself
    rw [optimalOutDiff, nimbleClientOptimalStepIdToSend_of_canPredict hself]
  refine ⟨fun self hself => ?_, fun self other hself hother htick => ?_, fun self hnone => ?_⟩
  · obtain ⟨hcovers, hbounded⟩ := hself.distance_mem
    refine ⟨_, ?_, houtDiff self hself, hcovers, hbounded, rfl, hself.inRange⟩
    rw [nimbleClientOptimalStepIdToSend_of_canPredict hself]
  · rw [houtDiff self hself, houtDiff other hother]
    intro outDiff hself' otherDiff hother'
    obtain rfl := Option.some.inj hself'
    obtain rfl := Option.some.inj hother'
    exact hself.distanceLaws htick
  · have hcalculated : calculateOptimalSendPredictionTickCount self = none :=
      if_neg (by simp [hnone])
    rw [nimbleClientOptimalStepIdToSend]
    rw [hcalculated]

namespace Small

/-- A client with these averages. -/
def predictingClient (latency bufferDelta : Int) : NimbleClient smallLibraries :=
  { clientMemory ⟨1, []⟩ with
    expectedTickDurationMs := 16
    latencyMsStat := (⟨20, 0, 0, latency, true⟩ : Stats)
    authoritativeBufferDeltaStat := (⟨10, 0, 0, bufferDelta, true⟩ : Stats) }

theorem canPredict_predictingClient {latency bufferDelta : Int} (hlatency : latency < 2 ^ 31)
    (hlow : -128 ≤ bufferDelta) (hhigh : bufferDelta ≤ 127) :
    CanPredict (predictingClient latency bufferDelta) :=
  ⟨rfl, hlatency, Nat.zero_lt_succ 15, fun _ => ⟨hlow, hhigh⟩⟩

end Small

open Nimble.Small in
/-- Two ticks more of latency, and no average. -/
theorem prediction_distance_laws_predicting :
    (∃ outDiff, (nimbleClientOptimalStepIdToSend (predictingClient 100 (-1))).1 = true ∧
      optimalOutDiff (predictingClient 100 (-1)) = some outDiff ∧
      latencyAverage (predictingClient 100 (-1)) < outDiff * 16 ∧
      outDiff * 16 ≤ latencyAverage (predictingClient 100 (-1)) + 6 * 16 ∧
      outDiff = latencyTicks (predictingClient 100 (-1)) +
        bufferDeltaTicks (predictingClient 100 (-1)) ∧
      PredictionInRange (predictingClient 100 (-1))) ∧
    DistanceLaws (predictingClient 100 (-1)) (predictingClient 132 (-1)) 10 12 ∧
    nimbleClientOptimalStepIdToSend (clientMemory ⟨1, []⟩) = (false, nimbleStepMax, none) := by
  have hshort : CanPredict (predictingClient 100 (-1)) :=
    canPredict_predictingClient (by decide) (by decide) (by decide)
  have hlong : CanPredict (predictingClient 132 (-1)) :=
    canPredict_predictingClient (by decide) (by decide) (by decide)
  obtain ⟨hdistance, hlaws, hnone⟩ := @prediction_distance_laws smallLibraries
  exact ⟨hdistance _ hshort, hlaws _ _ hshort hlong rfl 10 (by decide) 12 (by decide),
    hnone _ rfl⟩

/-! ## The step to send -/

/-- The authoritative steps received since an adoption: the ones the application has read, and the
ones that wait for it. -/
def StepOrder.received (order : StepOrder L) (events : List (BufferEvent L)) (steps : L.NbsSteps) :
    List (StepId × List UInt8) :=
  stepsRead events ++ order.contents steps

/-- The run ends with a synced client that has received steps since its last adoption, the latest
of them under this id. -/
structure StepOrder.HasReceived (order : StepOrder L) (start : NimbleClientRealize L)
    (operations : List (Operation L)) (lastReceived : StepId) : Prop where
  reachable : Reachable start
  synced : ((realizer L).run start operations).client.state = .synced
  sinceAdoption : ∃ past client datagram segment payload,
    runBufferEvents start operations = past ++ .feed client datagram :: segment ∧
      (BufferEvent.feed client datagram).Ends ∧ (∀ event ∈ segment, ¬event.Ends) ∧
      (order.received segment
        ((realizer L).run start operations).client.authoritativeStepsFromServer).getLast? =
          some (lastReceived, payload)

/-- The next expected id follows the step received last. -/
theorem StepOrder.HasReceived.expectedWriteId_eq {order : StepOrder L} (hlaws : order.Laws)
    {start : NimbleClientRealize L} {operations : List (Operation L)} {lastReceived : StepId}
    (h : order.HasReceived start operations lastReceived) :
    L.expectedWriteId ((realizer L).run start operations).client.authoritativeStepsFromServer =
      lastReceived + 1 := by
  obtain ⟨past, client, datagram, segment, payload, hrun, hadopts, hlasts, hlast⟩ :=
    h.sinceAdoption
  have hsince : SinceAdoption start operations client datagram segment :=
    ⟨⟨past, [], by rw [hrun, List.append_nil]⟩, hadopts, hlasts⟩
  have hstart := aligned_of_reset hlaws (L.nbsStepsReInit client.outSteps client.joinStateId)
    client.authoritativePendingStepsFromServer client.authoritativeStepsFromServer
    client.joinStateId
  rw [← hsince.buffersAfter_nil] at hstart
  have haligned := hsince.trace.invariant_of_guard
    (fun _ _ _ _ haligned hstep hlasts => haligned.step hlaws hstep hlasts) hstart hlasts
  have htrace := trace_run start operations
  rw [hrun] at htrace
  obtain ⟨_, _, hfrom⟩ := htrace.split
  obtain ⟨_, ⟨_, rfl⟩, hsegment⟩ := hfrom.head
  rw [← eq_buffersAfter hsegment] at haligned
  obtain ⟨earlier, hreceived⟩ := List.getLast?_eq_some_iff.mp hlast
  have hconsecutive := haligned.delivers.consecutive
  change Consecutive _ _ (order.received segment
    ((realizer L).run start operations).client.authoritativeStepsFromServer) _ at hconsecutive
  rw [hreceived] at hconsecutive
  exact haligned.expected.symm.trans hconsecutive.last_eq_next

/-- What is documented of the step to send: it is `outDiff` steps ahead of the last received
authoritative step, the latency part of `outDiff` is the latency in ticks rounded up, and the id
neither wraps nor is the marker of an unknown step. -/
structure IsDocumentedStepId (client : NimbleClient L) (lastReceived stepId : StepId)
    (outDiff : Nat) : Prop where
  ahead : stepId = lastReceived + UInt32.ofNat outDiff
  roundedUp : IsLeast {ticks | latencyAverage client ≤ ticks * client.expectedTickDurationMs}
    (latencyTicks client)
  noWrap : stepId.toNat = lastReceived.toNat + outDiff
  notMarker : stepId ≠ nimbleStepMax

/-- A tick is added to the quotient, which rounds up unless the division is exact. -/
theorem roundedUp_iff {self : NimbleClient L} (hpos : 0 < self.expectedTickDurationMs) :
    IsLeast {ticks | latencyAverage self ≤ ticks * self.expectedTickDurationMs}
        (latencyTicks self) ↔ ¬self.expectedTickDurationMs ∣ latencyAverage self := by
  have hcovers : latencyAverage self < latencyTicks self * self.expectedTickDurationMs := by
    rw [latencyTicks, Nat.mul_comm]
    exact Nat.lt_mul_div_succ _ hpos
  constructor
  · rintro ⟨_, hleast⟩ hdvd
    have hexact := hleast (Nat.div_mul_cancel hdvd).ge
    rw [latencyTicks] at hexact
    omega
  · refine fun hdvd => ⟨hcovers.le, fun ticks hticks => ?_⟩
    by_contra hfewer
    have hfloor : ticks * self.expectedTickDurationMs ≤
        latencyAverage self / self.expectedTickDurationMs * self.expectedTickDurationMs :=
      Nat.mul_le_mul_right _ (by rw [latencyTicks] at hfewer; omega)
    have hfloor' := Nat.div_mul_le_self (latencyAverage self) self.expectedTickDurationMs
    have hexact := Nat.le_antisymm (hticks.trans hfloor) hfloor'
    exact hdvd ⟨_, by rw [Nat.mul_comm]; exact hexact⟩

/-- The next expected id is taken for the last received one, so the step is always one further
ahead than documented; the latency part of the distance is right except at exact multiples of a
tick. -/
theorem step_id_to_send (order : StepOrder L) (hlaws : order.Laws)
    {start : NimbleClientRealize L} {operations : List (Operation L)} {lastReceived : StepId}
    (h : order.HasReceived start operations lastReceived) {client : NimbleClient L}
    (hclient : client = ((realizer L).run start operations).client) {stepId : StepId}
    {outDiff : Nat}
    (hworked : nimbleClientOptimalStepIdToSend client = (true, stepId, some outDiff)) :
    ¬IsDocumentedStepId client lastReceived stepId outDiff ∧
      stepId = lastReceived + 1 + UInt32.ofNat outDiff ∧
      (IsLeast {ticks | latencyAverage client ≤ ticks * client.expectedTickDurationMs}
        (latencyTicks client) ↔ ¬16 ∣ latencyAverage client) ∧
      (CanPredict client → outDiff = latencyTicks client + bufferDeltaTicks client) := by
  have hnext := h.expectedWriteId_eq hlaws
  rw [← hclient] at hnext
  have hstepId : stepId = lastReceived + 1 + UInt32.ofNat outDiff := by
    rw [nimbleClientOptimalStepIdToSend] at hworked
    split at hworked
    · cases hworked
    · rw [hnext] at hworked
      cases hworked
      rfl
  have htick : client.expectedTickDurationMs = 16 := by
    obtain ⟨memory, settings, now, past, rfl⟩ := h.reachable
    have hreachable : Reachable ((realizer L).run
        ((realizer L).run (nimbleClientRealizeInit memory settings now) past) operations) :=
      ⟨memory, settings, now, past ++ operations, (Machine.run_append _ _ _ _).symm⟩
    rw [hclient]
    exact hreachable.isInitialized.expectedTickDurationMs
  refine ⟨fun hdocumented => ?_, hstepId, ?_, fun hpredicts => ?_⟩
  · have hahead := hstepId.symm.trans hdocumented.ahead
    have hone : lastReceived + 1 = lastReceived := (UInt32.add_left_inj _).mp hahead
    simp at hone
  · rw [roundedUp_iff (by omega), htick]
  · rw [nimbleClientOptimalStepIdToSend_of_canPredict hpredicts] at hworked
    cases hworked
    rfl

/-! ## A run on fixed inputs -/

namespace Reordering

/-- The step 10, and enough datagrams behind it for the averages. -/
def steppingCalls : List (Operation reorderingLibraries) :=
  [update (Small.stepResponse 4 0 10 [1] ::
    (List.range 16).map fun i => Small.stepResponse (UInt8.ofNat (5 + i)) 0 11 [])]

/-- The calls of a client that has received the step 10. -/
def steppingSession : List (Operation reorderingLibraries) :=
  downloadSession 10 ++ .update lastPartInput :: steppingCalls

/-- A client that has received the step 10. -/
def steppingClient : NimbleClient reorderingLibraries :=
  ((realizer reorderingLibraries).run freshRealizer steppingSession).client

theorem hasReceived_steppingSession : stepOrder.HasReceived freshRealizer steppingSession 10 where
  reachable := ⟨_, _, _, [], rfl⟩
  synced := by decide +kernel
  sinceAdoption := ⟨_, adoptingClient, lastPart, segment steppingCalls, [1],
    runBufferEvents_of_update steppingCalls rfl rfl (by decide), by decide +kernel, by decide +kernel,
    by decide +kernel⟩

end Reordering

open Reordering

/-- The latency is zero ticks, rounded up to one. -/
theorem step_id_to_send_stepping :
    ¬IsDocumentedStepId steppingClient 10 14 3 ∧ (14 : StepId) = 10 + 1 + UInt32.ofNat 3 ∧
      (IsLeast {ticks | latencyAverage steppingClient ≤
          ticks * steppingClient.expectedTickDurationMs} (latencyTicks steppingClient) ↔
        ¬16 ∣ latencyAverage steppingClient) ∧
      (CanPredict steppingClient →
        3 = latencyTicks steppingClient + bufferDeltaTicks steppingClient) := by
  have hworked : nimbleClientOptimalStepIdToSend steppingClient = (true, 14, some 3) := by
    decide +kernel
  have hclient : steppingClient =
      ((realizer reorderingLibraries).run freshRealizer steppingSession).client := rfl
  exact @step_id_to_send _ stepOrder laws_stepOrder _ _ _ hasReceived_steppingSession _ hclient _ _
    hworked

/-- The step 10 is the last one received and 3 is the distance, but 14 is the step to send. -/
theorem step_id_to_send_counterexample :
    nimbleClientOptimalStepIdToSend steppingClient = (true, 14, some 3) ∧
      stepOrder.HasReceived freshRealizer steppingSession 10 ∧
      ¬IsDocumentedStepId steppingClient 10 14 3 := by
  refine ⟨by decide +kernel, hasReceived_steppingSession, fun hdocumented => ?_⟩
  exact absurd hdocumented.ahead (by decide)

end Nimble
