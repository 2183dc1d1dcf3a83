import Mathlib.Data.List.Infix
import Mathlib.Algebra.Order.Group.Int

/-! # Counters that saturate at zero

A counter that goes up on `true` and down on `false`, but not below zero, equals the largest
surplus of `true` over `false` among the suffixes of what it has read. It follows that it
reaches a level along the way exactly when some contiguous block has that surplus. -/

namespace UpDown

/-- The counter after a list of verdicts. -/
def count (start : ℕ) : List Bool → ℕ
  | [] => start
  | true :: verdicts => count (start + 1) verdicts
  | false :: verdicts => count (start - 1) verdicts

/-- The number of `true` verdicts minus the number of `false` ones. -/
def surplus (verdicts : List Bool) : ℤ :=
  (verdicts.count true : ℤ) - verdicts.count false

@[simp] theorem count_nil (start : ℕ) : count start [] = start := rfl

@[simp] theorem count_cons_true (start : ℕ) (verdicts : List Bool) :
    count start (true :: verdicts) = count (start + 1) verdicts := rfl

@[simp] theorem count_cons_false (start : ℕ) (verdicts : List Bool) :
    count start (false :: verdicts) = count (start - 1) verdicts := rfl

@[simp] theorem surplus_nil : surplus [] = 0 := rfl

@[simp] theorem surplus_cons_true (verdicts : List Bool) :
    surplus (true :: verdicts) = surplus verdicts + 1 := by
  simp [surplus]
  omega

@[simp] theorem surplus_cons_false (verdicts : List Bool) :
    surplus (false :: verdicts) = surplus verdicts - 1 := by
  simp [surplus]
  omega

theorem count_append (start : ℕ) (before after : List Bool) :
    count start (before ++ after) = count (count start before) after := by
  induction before generalizing start with
  | nil => rfl
  | cons b before ih => cases b <;> exact ih _

@[simp] theorem count_replicate_false (start k : ℕ) :
    count start (List.replicate k false) = start - k := by
  induction k generalizing start with
  | zero => rfl
  | succ k ih =>
      rw [List.replicate_succ, count_cons_false, ih]
      omega

@[simp] theorem count_replicate_true (start k : ℕ) :
    count start (List.replicate k true) = start + k := by
  induction k generalizing start with
  | zero => rfl
  | succ k ih =>
      rw [List.replicate_succ, count_cons_true, ih]
      omega

/-- The counter is the larger of what the whole list leads to from `start` and the largest
surplus of a suffix. -/
theorem le_count_iff (n start : ℕ) (verdicts : List Bool) :
    n ≤ count start verdicts ↔
      (n : ℤ) ≤ start + surplus verdicts ∨ ∃ s, s <:+ verdicts ∧ (n : ℤ) ≤ surplus s := by
  induction verdicts generalizing start with
  | nil => simp; omega
  | cons b verdicts ih =>
      cases b with
      | true =>
          rw [count_cons_true, ih, surplus_cons_true]
          constructor
          · rintro (h | ⟨s, hs, h⟩)
            · exact Or.inl (by omega)
            · exact Or.inr ⟨s, hs.trans (List.suffix_cons _ _), h⟩
          · rintro (h | ⟨s, hs, h⟩)
            · exact Or.inl (by omega)
            · rcases List.suffix_cons_iff.mp hs with rfl | hs
              · exact Or.inl (by rw [surplus_cons_true] at h; omega)
              · exact Or.inr ⟨s, hs, h⟩
      | false =>
          rw [count_cons_false, ih, surplus_cons_false]
          constructor
          · rintro (h | ⟨s, hs, h⟩)
            · rcases Nat.eq_zero_or_pos start with h0 | hpos
              · exact Or.inr ⟨verdicts, List.suffix_cons _ _, by omega⟩
              · exact Or.inl (by omega)
            · exact Or.inr ⟨s, hs.trans (List.suffix_cons _ _), h⟩
          · rintro (h | ⟨s, hs, h⟩)
            · exact Or.inl (by omega)
            · rcases List.suffix_cons_iff.mp hs with rfl | hs
              · exact Or.inl (by rw [surplus_cons_false] at h; omega)
              · exact Or.inr ⟨s, hs, h⟩

/-- From zero, the counter is the largest surplus of a suffix. -/
theorem le_count_zero_iff (n : ℕ) (verdicts : List Bool) :
    n ≤ count 0 verdicts ↔ ∃ s, s <:+ verdicts ∧ (n : ℤ) ≤ surplus s := by
  rw [le_count_iff]
  constructor
  · rintro (h | h)
    · exact ⟨verdicts, List.suffix_refl _, by simpa using h⟩
    · exact h
  · exact Or.inr

/-- Some contiguous block has a surplus of at least `n`. -/
def HasBlock (n : ℕ) (verdicts : List Bool) : Prop :=
  ∃ block, block <:+: verdicts ∧ (n : ℤ) ≤ surplus block

/-- The counter reaches a level at some point of the list exactly when a contiguous block has
that surplus. -/
theorem hasBlock_iff (n : ℕ) (verdicts : List Bool) :
    HasBlock n verdicts ↔ ∃ reached, reached <+: verdicts ∧ n ≤ count 0 reached := by
  constructor
  · rintro ⟨block, ⟨before, after, rfl⟩, h⟩
    refine ⟨before ++ block, ⟨after, by simp⟩, ?_⟩
    exact (le_count_zero_iff n _).mpr ⟨block, List.suffix_append _ _, h⟩
  · rintro ⟨reached, hreached, h⟩
    obtain ⟨block, hblock, hn⟩ := (le_count_zero_iff n _).mp h
    exact ⟨block, hblock.isInfix.trans hreached.isInfix, hn⟩

theorem HasBlock.mono {n : ℕ} {verdicts more : List Bool} (h : HasBlock n verdicts)
    (hblocks : verdicts <:+: more) : HasBlock n more := by
  obtain ⟨block, hblock, hn⟩ := h
  exact ⟨block, hblock.trans hblocks, hn⟩

theorem count_lt_of_not_hasBlock {n : ℕ} {verdicts : List Bool} (h : ¬HasBlock n verdicts) :
    count 0 verdicts < n := by
  by_contra hle
  exact h ((hasBlock_iff n verdicts).mpr ⟨verdicts, List.prefix_refl _, by omega⟩)

theorem not_hasBlock_of_forall_false {n : ℕ} (hn : 0 < n) {verdicts : List Bool}
    (h : ∀ b ∈ verdicts, b = false) : ¬HasBlock n verdicts := by
  rw [hasBlock_iff]
  rintro ⟨reached, hreached, hcount⟩
  have hfalse : reached = List.replicate reached.length false :=
    List.eq_replicate_of_mem fun b hb => h b (hreached.subset hb)
  rw [hfalse, count_replicate_false] at hcount
  omega

/-- After a list without a block the next verdict completes one exactly when it takes the
counter to the level. -/
theorem hasBlock_concat_iff {n : ℕ} {verdicts : List Bool} (h : ¬HasBlock n verdicts)
    (b : Bool) : HasBlock n (verdicts ++ [b]) ↔ n ≤ count 0 (verdicts ++ [b]) := by
  rw [hasBlock_iff]
  constructor
  · rintro ⟨reached, hreached, hn⟩
    rcases List.prefix_concat_iff.mp hreached with rfl | hbefore
    · exact hn
    · exact absurd ((hasBlock_iff n verdicts).mpr ⟨reached, hbefore, hn⟩) h
  · intro hn
    exact ⟨_, List.prefix_refl _, hn⟩

/-- A prefix of a concatenation ends in its first part or in its second. -/
theorem prefix_append_cases {α : Type*} {l before after : List α} (h : l <+: before ++ after) :
    l <+: before ∨ ∃ rest, l = before ++ rest ∧ rest <+: after := by
  obtain ⟨tail, htail⟩ := h
  rcases List.append_eq_append_iff.mp htail with ⟨rest, rfl, _⟩ | ⟨rest, rfl, hrest⟩
  · exact Or.inl (List.prefix_append _ _)
  · exact Or.inr ⟨rest, rfl, ⟨tail, hrest.symm⟩⟩

/-- Blocks do not reach across `k` times `false` when their surplus is at most `k + 1`. -/
theorem hasBlock_append_replicate_false {n k : ℕ} (hk : n ≤ k + 1)
    (before after : List Bool) :
    HasBlock n (before ++ (List.replicate k false ++ after)) ↔
      HasBlock n before ∨ HasBlock n after := by
  constructor
  · intro h
    by_cases hbefore : HasBlock n before
    · exact Or.inl hbefore
    have hcount := count_lt_of_not_hasBlock hbefore
    obtain ⟨reached, hreached, hle⟩ := (hasBlock_iff _ _).mp h
    rcases prefix_append_cases hreached with hpre | ⟨rest, rfl, hrest⟩
    · exact Or.inl ((hasBlock_iff _ _).mpr ⟨reached, hpre, hle⟩)
    rw [count_append] at hle
    rcases prefix_append_cases hrest with hpre | ⟨tail, rfl, htail⟩
    · rw [List.prefix_replicate_iff.mp hpre |>.2, count_replicate_false] at hle
      omega
    · rw [count_append, count_replicate_false, Nat.sub_eq_zero_of_le (by omega)] at hle
      exact Or.inr ((hasBlock_iff _ _).mpr ⟨tail, htail, hle⟩)
  · rintro (h | h)
    · exact h.mono (List.infix_append' [] before _)
    · exact h.mono ⟨before ++ List.replicate k false, [], by simp⟩

end UpDown
