import Mathlib

/-! # Gaps in a sequence of ids

A receiver that takes in increasing ids sees the distance of each to the one before. The ids it
misses are counted by these distances. -/

namespace SequenceGaps

/-- The distance of each id to the one before, which is `first` for the first of them. -/
def distances (first : ℤ) : List ℤ → List ℤ
  | [] => []
  | id :: ids => (id - first) :: distances id ids

/-- The ids behind `first`, up to the last one that is there, that are not there. -/
noncomputable def missing (first : ℤ) (ids : List ℤ) : Finset ℤ :=
  (Finset.Ioc first (ids.getLastD first)).filter fun id => id ∉ ids

/-- What a distance says is missing. -/
def gap (distance : ℤ) : ℕ := (distance - 1).toNat

theorem lt_of_mem {first : ℤ} {ids : List ℤ} (h : ∀ d ∈ distances first ids, 0 < d) :
    ∀ id ∈ ids, first < id := by
  induction ids generalizing first with
  | nil => simp
  | cons next ids ih =>
      rw [distances, List.forall_mem_cons] at h
      have hnext : first < next := by omega
      have hrest := ih h.2
      rw [List.forall_mem_cons]
      exact ⟨hnext, fun id hid => hnext.trans (hrest id hid)⟩

theorem le_getLastD {first : ℤ} {ids : List ℤ} (h : ∀ d ∈ distances first ids, 0 < d) :
    first ≤ ids.getLastD first := by
  cases ids with
  | nil => simp
  | cons next ids =>
      apply le_of_lt
      apply lt_of_mem h
      rw [List.getLastD_eq_getLast?, List.getLast?_eq_some_getLast (List.cons_ne_nil next ids)]
      exact List.getLast_mem (List.cons_ne_nil next ids)

theorem missing_cons {first next : ℤ} {ids : List ℤ}
    (h : ∀ d ∈ distances first (next :: ids), 0 < d) :
    missing first (next :: ids) = Finset.Ioo first next ∪ missing next ids := by
  rw [distances, List.forall_mem_cons] at h
  have hnext : first < next := by omega
  have hlast := le_getLastD h.2
  ext id
  simp only [missing, Finset.mem_union, Finset.mem_filter, Finset.mem_Ioc, Finset.mem_Ioo,
    List.getLastD_cons, List.mem_cons, not_or]
  constructor
  · rintro ⟨⟨hfirst, hle⟩, hne, hmissing⟩
    rcases lt_or_gt_of_ne hne with hlt | hgt
    · exact Or.inl ⟨hfirst, hlt⟩
    · exact Or.inr ⟨⟨hgt, hle⟩, hmissing⟩
  · rintro (⟨hfirst, hlt⟩ | ⟨⟨hgt, hle⟩, hmissing⟩)
    · refine ⟨⟨hfirst, by omega⟩, by omega, fun hid => ?_⟩
      have := lt_of_mem h.2 id hid
      omega
    · exact ⟨⟨by omega, hle⟩, by omega, hmissing⟩

/-- As many ids are missing as the distances say. -/
theorem card_missing {first : ℤ} {ids : List ℤ} (h : ∀ d ∈ distances first ids, 0 < d) :
    (missing first ids).card = ((distances first ids).map gap).sum := by
  induction ids generalizing first with
  | nil => simp [missing, distances]
  | cons next ids ih =>
      have hdisjoint : Disjoint (Finset.Ioo first next) (missing next ids) := by
        rw [Finset.disjoint_left]
        intro id hbefore hbehind
        simp only [missing, Finset.mem_filter, Finset.mem_Ioc, Finset.mem_Ioo] at hbefore hbehind
        omega
      rw [missing_cons h, Finset.card_union_of_disjoint hdisjoint, Int.card_Ioo]
      rw [distances, List.forall_mem_cons] at h
      rw [ih h.2, distances, List.map_cons, List.sum_cons]
      rfl

end SequenceGaps
