import Nimble.Library.Score
import Nimble.Model.SmallLibraries

/-! # The quality rating

What the rating of `evaluate` says about the counters and the latency it is made of. -/

namespace Nimble

open Score

variable {L : Libraries}

/-! ## The factors -/

theorem degradeLowIsBetter_eq_falling (v : Nat) {divisor lowerThreshold : Nat}
    (h : lowerThreshold < divisor) :
    degradeLowIsBetter v divisor lowerThreshold =
      falling (lowerThreshold : ℚ) (divisor : ℚ) (v : ℚ) := by
  simp only [degradeLowIsBetter, falling, gt_iff_lt, Nat.cast_lt]
  split
  · rfl
  split
  · rfl
  · rw [Nat.cast_sub (not_lt.mp ‹¬v < lowerThreshold›), Nat.cast_sub h.le]

theorem degradeLowIsBetter_mem (v : Nat) {divisor lowerThreshold : Nat}
    (h : lowerThreshold < divisor) :
    0 ≤ degradeLowIsBetter v divisor lowerThreshold ∧
      degradeLowIsBetter v divisor lowerThreshold ≤ 1 := by
  rw [degradeLowIsBetter_eq_falling v h]
  exact ⟨falling_nonneg (Nat.cast_lt.mpr h) _, falling_le_one (Nat.cast_lt.mpr h) _⟩

theorem degradeLowIsBetter_antitone {v w divisor lowerThreshold : Nat}
    (h : lowerThreshold < divisor) (hvw : v ≤ w) :
    degradeLowIsBetter w divisor lowerThreshold ≤ degradeLowIsBetter v divisor lowerThreshold := by
  rw [degradeLowIsBetter_eq_falling v h, degradeLowIsBetter_eq_falling w h]
  exact falling_antitone (Nat.cast_lt.mpr h) (Nat.cast_le.mpr hvw)

theorem degradeLowIsBetter_eq_one_iff (v : Nat) {divisor lowerThreshold : Nat}
    (h : lowerThreshold < divisor) :
    degradeLowIsBetter v divisor lowerThreshold = 1 ↔ v ≤ lowerThreshold := by
  rw [degradeLowIsBetter_eq_falling v h, falling_eq_one_iff (Nat.cast_lt.mpr h), Nat.cast_le]

theorem degradeLowIsBetter_eq_zero {v divisor lowerThreshold : Nat} (h : lowerThreshold < divisor)
    (hv : divisor ≤ v) : degradeLowIsBetter v divisor lowerThreshold = 0 := by
  rw [degradeLowIsBetter_eq_falling v h]
  exact falling_eq_zero (Nat.cast_lt.mpr h) (Nat.cast_le.mpr hv)

/-- The factors of the rating, in the order of `evaluate`. -/
def ratingFactors (self : NimbleClientConnectionQuality L) : List ℚ :=
  [degradeLowIsBetter self.ticksWithoutIncomingDatagrams maxTicksWithoutDatagrams 10,
    degradeLowIsBetter self.ticksWithoutAuthoritativeStepsFromInSerialize maxTicksWithoutSteps 10,
    (evaluateLatency self).2.1, (evaluateLatency self).1,
    degradeLowIsBetter self.droppedDatagramCounter 10 1]

/-- The product is not negative, so no digit is lost where the floor becomes a natural number. -/
theorem evaluateRating_eq_score (self : NimbleClientConnectionQuality L) :
    evaluateRating self = score 5 (ratingFactors self) := by
  simp only [evaluateRating, score, ratingFactors, List.prod_cons, List.prod_nil, mul_one,
    ← mul_assoc]
  rw [← Int.floor_toNat]
  rfl

theorem evaluateLatency_mem (self : NimbleClientConnectionQuality L) :
    (0 ≤ (evaluateLatency self).2.1 ∧ (evaluateLatency self).2.1 ≤ 1) ∧
      0 ≤ (evaluateLatency self).1 ∧ (evaluateLatency self).1 ≤ 1 := by
  rw [evaluateLatency]
  split
  · refine ⟨degradeLowIsBetter_mem _ (by decide), ?_⟩
    dsimp only
    split <;> norm_num
  · norm_num

theorem areFactors_ratingFactors (self : NimbleClientConnectionQuality L) :
    AreFactors (ratingFactors self) := by
  intro x hx
  simp only [ratingFactors, List.mem_cons, List.not_mem_nil, or_false] at hx
  rcases hx with rfl | rfl | rfl | rfl | rfl
  · exact degradeLowIsBetter_mem _ (by decide)
  · exact degradeLowIsBetter_mem _ (by decide)
  · exact (evaluateLatency_mem self).1
  · exact (evaluateLatency_mem self).2
  · exact degradeLowIsBetter_mem _ (by decide)

/-! ## The latency -/

/-- The latency average, if there is one, is a non-negative `int`. -/
def LatencyInRange (self : NimbleClientConnectionQuality L) : Prop :=
  L.avgIsSet self.latencyMsStat = true →
    0 ≤ L.avg self.latencyMsStat ∧ L.avg self.latencyMsStat < 2 ^ 31

/-- The latency, if it is known, is at most 60 ms and close to the one of the last evaluation,
which is compared as an `int`. -/
def LatencyIsGood (self : NimbleClientConnectionQuality L) : Prop :=
  L.avgIsSet self.latencyMsStat = true → L.avg self.latencyMsStat ≤ 60 ∧
    |L.avg self.latencyMsStat - intCast self.lastLatencyMs| ≤ 3

/-- The difference wraps only where it is far from zero. -/
theorem natAbs_intCast_sub_le_iff {latency : Int} (h0 : 0 ≤ latency) (h : latency ≤ 60)
    (last : Int) :
    ¬3 < (intCast (latency - intCast last)).natAbs ↔ |latency - intCast last| ≤ 3 := by
  obtain ⟨hlow, hhigh⟩ := intCast_mem last
  generalize intCast last = l at hlow hhigh ⊢
  rw [abs_le, intCast, Int.bmod_def]
  split <;> omega

theorem latencyIsGood_iff {self : NimbleClientConnectionQuality L} (h : LatencyInRange self) :
    LatencyIsGood self ↔ (evaluateLatency self).2.1 = 1 ∧ (evaluateLatency self).1 = 1 := by
  rw [LatencyIsGood, evaluateLatency]
  by_cases hset : L.avgIsSet self.latencyMsStat = true
  · obtain ⟨h0, hlt⟩ := h hset
    have hsize : sizeCast (L.avg self.latencyMsStat) = (L.avg self.latencyMsStat).toNat :=
      sizeCast_of_mem h0 (by omega)
    have hcast : intCast (sizeCast (L.avg self.latencyMsStat)) = L.avg self.latencyMsStat := by
      rw [hsize, Int.toNat_of_nonneg h0, intCast_of_mem (by omega) hlt]
    rw [if_pos hset]
    dsimp only
    rw [degradeLowIsBetter_eq_one_iff _ (by decide), hcast, hsize]
    have hjitter : (if 3 < (intCast (L.avg self.latencyMsStat -
        intCast self.lastLatencyMs)).natAbs then (9 / 10 : ℚ) else 1) = 1 ↔
          ¬3 < (intCast (L.avg self.latencyMsStat - intCast self.lastLatencyMs)).natAbs := by
      split <;> norm_num [*]
    rw [hjitter, forall_prop_of_true hset, Int.toNat_le]
    exact and_congr_right fun hle => (natAbs_intCast_sub_le_iff h0 hle _).symm
  · rw [if_neg hset]
    simp [hset]

/-! ## The rating -/

/-- The same latency, and no counter lower. -/
structure CountsMore (quality other : NimbleClientConnectionQuality L) : Prop where
  latencyMsStat : other.latencyMsStat = quality.latencyMsStat
  lastLatencyMs : other.lastLatencyMs = quality.lastLatencyMs
  datagrams : quality.ticksWithoutIncomingDatagrams ≤ other.ticksWithoutIncomingDatagrams
  steps : quality.ticksWithoutAuthoritativeStepsFromInSerialize ≤
    other.ticksWithoutAuthoritativeStepsFromInSerialize
  dropped : quality.droppedDatagramCounter ≤ other.droppedDatagramCounter

theorem evaluateRating_le (self : NimbleClientConnectionQuality L) : evaluateRating self ≤ 5 := by
  rw [evaluateRating_eq_score]
  exact (areFactors_ratingFactors self).score_le

theorem CountsMore.evaluateRating_le {self other : NimbleClientConnectionQuality L}
    (h : CountsMore self other) : evaluateRating other ≤ evaluateRating self := by
  have hlatency : evaluateLatency other = evaluateLatency self := by
    rw [evaluateLatency, evaluateLatency, h.latencyMsStat, h.lastLatencyMs]
  obtain ⟨hdegrade, hjitter⟩ := evaluateLatency_mem self
  have hfactor : ∀ {v w divisor lowerThreshold : Nat}, lowerThreshold < divisor → v ≤ w →
      0 ≤ degradeLowIsBetter w divisor lowerThreshold ∧
        degradeLowIsBetter w divisor lowerThreshold ≤
          degradeLowIsBetter v divisor lowerThreshold :=
    fun hlt hvw => ⟨(degradeLowIsBetter_mem _ hlt).1, degradeLowIsBetter_antitone hlt hvw⟩
  rw [evaluateRating_eq_score, evaluateRating_eq_score]
  apply score_mono
  rw [ratingFactors, ratingFactors, hlatency]
  exact .cons (hfactor (by decide) h.datagrams) (.cons (hfactor (by decide) h.steps)
    (.cons ⟨hdegrade.1, le_rfl⟩ (.cons ⟨hjitter.1, le_rfl⟩
      (.cons (hfactor (by decide) h.dropped) .nil))))

/-- The thresholds of the two disconnect tests are where their factors have fallen to zero. -/
theorem evaluateRating_eq_zero {self : NimbleClientConnectionQuality L}
    (h : evaluateReason self ≠ .keepConnection) : evaluateRating self = 0 := by
  rw [evaluateRating_eq_score]
  apply score_eq_zero
  rw [evaluateReason] at h
  by_cases hdatagrams : maxTicksWithoutDatagrams ≤ self.ticksWithoutIncomingDatagrams
  · rw [ratingFactors, degradeLowIsBetter_eq_zero (by decide) hdatagrams]
    exact List.mem_cons_self
  · rw [if_neg hdatagrams] at h
    have hsteps : maxTicksWithoutSteps < self.ticksWithoutAuthoritativeStepsFromInSerialize := by
      by_contra hfew
      exact h (if_neg hfew)
    rw [ratingFactors, degradeLowIsBetter_eq_zero (by decide) hsteps.le]
    exact List.mem_cons_of_mem _ List.mem_cons_self

theorem evaluateRating_eq_five_iff {self : NimbleClientConnectionQuality L}
    (h : LatencyInRange self) :
    evaluateRating self = 5 ↔ self.ticksWithoutIncomingDatagrams ≤ 10 ∧
      self.ticksWithoutAuthoritativeStepsFromInSerialize ≤ 10 ∧
      self.droppedDatagramCounter ≤ 1 ∧ LatencyIsGood self := by
  rw [evaluateRating_eq_score, (areFactors_ratingFactors self).score_eq_scale_iff (by decide),
    latencyIsGood_iff h]
  simp only [ratingFactors, List.forall_mem_cons, List.not_mem_nil, false_imp_iff, implies_true,
    and_true]
  rw [degradeLowIsBetter_eq_one_iff _ (by decide), degradeLowIsBetter_eq_one_iff _ (by decide),
    degradeLowIsBetter_eq_one_iff _ (by decide)]
  tauto

/-- Evaluating keeps the remembered latency an `int`. -/
theorem lastLatencyMs_evaluate_lt {self : NimbleClientConnectionQuality L}
    (h : LatencyInRange self) (hlast : self.lastLatencyMs < 2 ^ 31) :
    (evaluate self).2.lastLatencyMs < 2 ^ 31 := by
  change (evaluateLatency self).2.2 < 2 ^ 31
  rw [evaluateLatency]
  split
  · obtain ⟨h0, hlt⟩ := h ‹_›
    dsimp only
    rw [sizeCast_of_mem h0 (by omega)]
    omega
  · exact hlast

/-- The rating is on a scale from 0 to 5, falls with each counter, is 0 when a disconnect is
recommended, and 5 exactly in the states that have nothing to complain about. A remembered latency
that is an `int` is compared as it is, and remains one. -/
theorem quality_rating (self : NimbleClientConnectionQuality L) (h : LatencyInRange self) :
    (evaluate self).2.qualityRating ≤ 5 ∧
      (∀ other, CountsMore self other →
        (evaluate other).2.qualityRating ≤ (evaluate self).2.qualityRating) ∧
      ((evaluate self).1 ≠ .keepConnection → (evaluate self).2.qualityRating = 0) ∧
      ((evaluate self).2.qualityRating = 5 ↔ self.ticksWithoutIncomingDatagrams ≤ 10 ∧
        self.ticksWithoutAuthoritativeStepsFromInSerialize ≤ 10 ∧
        self.droppedDatagramCounter ≤ 1 ∧ LatencyIsGood self) ∧
      (self.lastLatencyMs < 2 ^ 31 → intCast self.lastLatencyMs = self.lastLatencyMs ∧
        (evaluate self).2.lastLatencyMs < 2 ^ 31) :=
  ⟨evaluateRating_le self, fun _ hmore => hmore.evaluateRating_le, evaluateRating_eq_zero,
    evaluateRating_eq_five_iff h, fun hlast => ⟨intCast_of_mem (by omega) (by omega),
      lastLatencyMs_evaluate_lt h hlast⟩⟩

/-! ## Fixed states -/

namespace Small

/-- A state with a latency average of 60 ms and another latency to compare it with. -/
def qualityAfterLatency (lastLatencyMs : Nat) : NimbleClientConnectionQuality smallLibraries :=
  { zeroQuality with
    latencyMsStat := { zeroStats with avg := 60, avgIsSet := true }
    lastLatencyMs := lastLatencyMs }

end Small

open Nimble.Small

/-- A jump of the latency by 4 ms costs the full rating. -/
theorem quality_rating_jitter : (evaluate (qualityAfterLatency 56)).2.qualityRating ≠ 5 := by
  have hiff := (quality_rating (qualityAfterLatency 56) (fun _ => by decide)).2.2.2.1
  rw [Ne, hiff]
  rintro ⟨_, _, _, hgood⟩
  exact absurd (hgood rfl).2 (by decide)

/-- A remembered latency past the range of `int` is compared modulo `2 ^ 32`. -/
theorem quality_rating_counterexample :
    LatencyInRange (qualityAfterLatency (2 ^ 32 + 60)) ∧
      (evaluate (qualityAfterLatency (2 ^ 32 + 60))).2.qualityRating = 5 ∧
      ¬|smallLibraries.avg (qualityAfterLatency (2 ^ 32 + 60)).latencyMsStat -
        (qualityAfterLatency (2 ^ 32 + 60)).lastLatencyMs| ≤ 3 := by
  refine ⟨fun _ => by decide, ?_, by decide⟩
  exact (evaluateRating_eq_five_iff (fun _ => by decide)).mpr
    ⟨by decide, by decide, by decide, fun _ => by decide⟩

end Nimble
