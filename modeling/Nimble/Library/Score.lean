import Mathlib.Algebra.BigOperators.Ring.List
import Mathlib.Algebra.Order.Field.Basic
import Mathlib.Algebra.Order.Floor.Semiring

/-! # Scores

A score is a product of factors between 0 and 1, on a scale and rounded down. A measurement that is
better the lower it is gives the factor 1 up to a bound, 0 from another bound on, and falls evenly
between them. -/

namespace Score

variable {K : Type*} [Field K] [LinearOrder K] [IsStrictOrderedRing K]

/-! ## Falling factors -/

/-- The factor of a measurement `v`. -/
def falling (lower upper v : K) : K :=
  if v < lower then 1 else if upper < v then 0 else 1 - (v - lower) / (upper - lower)

variable {lower upper : K}

/-- The two bounds cut off the line through them. -/
theorem falling_eq_clamp (h : lower < upper) (v : K) :
    falling lower upper v = max 0 (min 1 ((upper - v) / (upper - lower))) := by
  have hpos : 0 < upper - lower := sub_pos.mpr h
  rw [falling]
  split
  · have hone : 1 ≤ (upper - v) / (upper - lower) := by
      rw [one_le_div hpos]
      exact sub_le_sub_left (le_of_lt ‹v < lower›) upper
    rw [min_eq_left hone, max_eq_right zero_le_one]
  have hlower : lower ≤ v := not_lt.mp ‹_›
  split
  · have hneg : (upper - v) / (upper - lower) ≤ 0 :=
      div_nonpos_of_nonpos_of_nonneg (sub_nonpos.mpr (le_of_lt ‹upper < v›)) hpos.le
    rw [min_eq_right (hneg.trans zero_le_one), max_eq_left hneg]
  · have hline : 1 - (v - lower) / (upper - lower) = (upper - v) / (upper - lower) := by
      rw [one_sub_div hpos.ne', sub_sub_sub_cancel_right]
    have hle : (upper - v) / (upper - lower) ≤ 1 := by
      rw [div_le_one hpos]
      exact sub_le_sub_left hlower upper
    have hnonneg : 0 ≤ (upper - v) / (upper - lower) :=
      div_nonneg (sub_nonneg.mpr (not_lt.mp ‹¬upper < v›)) hpos.le
    rw [hline, min_eq_right hle, max_eq_right hnonneg]

theorem falling_nonneg (h : lower < upper) (v : K) : 0 ≤ falling lower upper v := by
  rw [falling_eq_clamp h]
  exact le_max_left _ _

theorem falling_le_one (h : lower < upper) (v : K) : falling lower upper v ≤ 1 := by
  rw [falling_eq_clamp h]
  exact max_le zero_le_one (min_le_left _ _)

theorem falling_antitone (h : lower < upper) : Antitone (falling lower upper) := by
  intro v w hvw
  rw [falling_eq_clamp h, falling_eq_clamp h]
  have hpos : 0 < upper - lower := sub_pos.mpr h
  gcongr

theorem falling_eq_one_iff (h : lower < upper) (v : K) :
    falling lower upper v = 1 ↔ v ≤ lower := by
  have hpos : 0 < upper - lower := sub_pos.mpr h
  rw [falling_eq_clamp h]
  constructor
  · intro hone
    have hle : 1 ≤ (upper - v) / (upper - lower) := by
      by_contra hlt
      rw [not_le] at hlt
      have : max 0 (min 1 ((upper - v) / (upper - lower))) < 1 :=
        max_lt zero_lt_one ((min_le_right _ _).trans_lt hlt)
      exact this.ne hone
    rw [one_le_div hpos] at hle
    exact (sub_le_sub_iff_left upper).mp hle
  · intro hv
    have hle : 1 ≤ (upper - v) / (upper - lower) := by
      rw [one_le_div hpos]
      exact sub_le_sub_left hv upper
    rw [min_eq_left hle, max_eq_right zero_le_one]

theorem falling_eq_zero (h : lower < upper) {v : K} (hv : upper ≤ v) :
    falling lower upper v = 0 := by
  have hneg : (upper - v) / (upper - lower) ≤ 0 :=
    div_nonpos_of_nonpos_of_nonneg (sub_nonpos.mpr hv) (sub_pos.mpr h).le
  rw [falling_eq_clamp h]
  exact max_eq_left ((min_le_right _ _).trans hneg)

/-! ## Products of factors -/

/-- All of these are between 0 and 1. -/
def AreFactors (factors : List K) : Prop := ∀ x ∈ factors, 0 ≤ x ∧ x ≤ 1

theorem AreFactors.prod_mem {factors : List K} (h : AreFactors factors) :
    0 ≤ factors.prod ∧ factors.prod ≤ 1 := by
  induction factors with
  | nil => simp
  | cons x factors ih =>
      obtain ⟨hx, hfactors⟩ := List.forall_mem_cons.mp h
      obtain ⟨hnonneg, hle⟩ := ih hfactors
      rw [List.prod_cons]
      exact ⟨mul_nonneg hx.1 hnonneg, mul_le_one₀ hx.2 hnonneg hle⟩

/-- A product of factors is 1 only if all of them are. -/
theorem AreFactors.prod_eq_one_iff {factors : List K} (h : AreFactors factors) :
    factors.prod = 1 ↔ ∀ x ∈ factors, x = 1 := by
  induction factors with
  | nil => simp
  | cons x factors ih =>
      obtain ⟨hx, hfactors⟩ := List.forall_mem_cons.mp h
      have hprod := AreFactors.prod_mem hfactors
      rw [List.prod_cons, List.forall_mem_cons, ← ih hfactors]
      constructor
      · intro hone
        have hx' : x = 1 := by
          apply hx.2.antisymm
          rw [← hone]
          exact mul_le_of_le_one_right hx.1 hprod.2
        rw [hx', one_mul] at hone
        exact ⟨hx', hone⟩
      · rintro ⟨rfl, hone⟩
        rw [hone, one_mul]

/-! ## Scores -/

variable [FloorSemiring K]

/-- The score of some factors. -/
def score (scale : ℕ) (factors : List K) : ℕ := ⌊factors.prod * scale⌋₊

variable {scale : ℕ}

theorem AreFactors.score_le {factors : List K} (h : AreFactors factors) :
    score scale factors ≤ scale := by
  apply Nat.floor_le_of_le
  exact mul_le_of_le_one_left (Nat.cast_nonneg scale) h.prod_mem.2

/-- Lower factors give no higher score. -/
theorem score_mono {factors more : List K}
    (h : List.Forall₂ (fun x y => 0 ≤ x ∧ x ≤ y) factors more) :
    score scale factors ≤ score scale more := by
  have hprod : 0 ≤ factors.prod ∧ factors.prod ≤ more.prod := by
    induction h with
    | nil => simp
    | cons hxy _ ih =>
        rw [List.prod_cons, List.prod_cons]
        exact ⟨mul_nonneg hxy.1 ih.1, mul_le_mul hxy.2 ih.2 ih.1 (hxy.1.trans hxy.2)⟩
  exact Nat.floor_mono (mul_le_mul_of_nonneg_right hprod.2 (Nat.cast_nonneg scale))

theorem score_eq_zero {factors : List K} (h : 0 ∈ factors) : score scale factors = 0 := by
  rw [score, List.prod_eq_zero h, zero_mul, Nat.floor_zero]

/-- The full score is for factors that are all 1. -/
theorem AreFactors.score_eq_scale_iff {factors : List K} (h : AreFactors factors)
    (hscale : 0 < scale) : score scale factors = scale ↔ ∀ x ∈ factors, x = 1 := by
  have hpos : (0 : K) < scale := Nat.cast_pos.mpr hscale
  rw [← h.prod_eq_one_iff]
  constructor
  · intro hfull
    have hle : (scale : K) ≤ factors.prod * scale := by
      rw [← Nat.le_floor_iff (mul_nonneg h.prod_mem.1 hpos.le)]
      exact hfull.ge
    exact h.prod_mem.2.antisymm ((le_mul_iff_one_le_left hpos).mp hle)
  · intro hone
    rw [score, hone, one_mul, Nat.floor_natCast]

end Score
