import Mathlib.Data.List.Sort
import Mathlib.Order.WithBot
import Nimble.Library.Trace

/-! # Records of a sequence

A receiver that keeps the highest number it has seen, and takes in what is above it, takes in
the records of the sequence of arrivals. -/

namespace RunningRecords

variable {ν : Type*} [LinearOrder ν]

/-- The items above `mark` and above all items before them. -/
def records (mark : WithBot ν) : List ν → List ν
  | [] => []
  | a :: as => if mark < a then a :: records a as else records mark as

/-- The highest of the items and `mark`. -/
def highest (mark : WithBot ν) (as : List ν) : WithBot ν :=
  as.foldl (fun mark (a : ν) => max mark a) mark

@[simp] theorem records_nil (mark : WithBot ν) : records mark ([] : List ν) = [] := rfl

@[simp] theorem highest_nil (mark : WithBot ν) : highest mark ([] : List ν) = mark := rfl

@[simp] theorem highest_cons (mark : WithBot ν) (a : ν) (as : List ν) :
    highest mark (a :: as) = highest (max mark a) as := rfl

theorem records_cons (mark : WithBot ν) (a : ν) (as : List ν) :
    records mark (a :: as) = (if mark < a then [a] else []) ++ records (max mark a) as := by
  rw [records]
  split
  · rw [max_eq_right (le_of_lt ‹_›), List.singleton_append]
  · rw [max_eq_left (not_lt.mp ‹_›), List.nil_append]

theorem lt_of_mem_records {mark : WithBot ν} {as : List ν} :
    ∀ a ∈ records mark as, mark < (a : WithBot ν) := by
  induction as generalizing mark with
  | nil => simp
  | cons b as ih =>
      intro a ha
      rw [records_cons, List.mem_append] at ha
      rcases ha with ha | ha
      · split at ha
        · rw [List.mem_singleton.mp ha]
          assumption
        · simp at ha
      · exact lt_of_le_of_lt (le_max_left mark b) (ih a ha)

/-- Records rise. -/
theorem pairwise_records (mark : WithBot ν) (as : List ν) :
    (records mark as).Pairwise (· < ·) := by
  induction as generalizing mark with
  | nil => simp
  | cons b as ih =>
      rw [records]
      split
      · refine List.pairwise_cons.mpr ⟨?_, ih _⟩
        intro a ha
        exact WithBot.coe_lt_coe.mp (lt_of_mem_records a ha)
      · exact ih _

/-- What rises, and consists of items of a rising sequence, is a part of that sequence. -/
theorem sublist_of_pairwise_lt {as bs : List ν} (has : as.Pairwise (· < ·))
    (hbs : bs.Pairwise (· < ·)) (hsubset : as ⊆ bs) : as.Sublist bs := by
  have hnodup : as.Nodup := has.imp ne_of_lt
  exact List.sublist_of_subperm_of_pairwise (List.subperm_of_subset hnodup hsubset) has hbs

/-- A receiver that sees the numbers `seen` of some events, keeps the highest in its state and
takes in the ones above it, takes in records. -/
theorem filterMap_eq_records {σ ε : Type*} {step : σ → ε → σ → Prop} {last : σ → WithBot ν}
    {seen kept : ε → Option ν}
    (hunseen : ∀ s e t, step s e t → seen e = none → kept e = none ∧ last t = last s)
    (hseen : ∀ s e t, step s e t → ∀ n ∈ seen e,
      kept e = (if last s < n then some n else none) ∧ last t = max (last s) n)
    {s t : σ} {es : List ε} (h : Trace step s es t) :
    es.filterMap kept = records (last s) (es.filterMap seen) ∧
      last t = highest (last s) (es.filterMap seen) := by
  induction h with
  | nil => simp
  | @cons s t u e es hstep _ ih =>
      cases he : seen e with
      | none =>
          obtain ⟨hkept, hlast⟩ := hunseen s e t hstep he
          rw [List.filterMap_cons_none he, List.filterMap_cons_none hkept, ← hlast]
          exact ih
      | some n =>
          obtain ⟨hkept, hlast⟩ := hseen s e t hstep n he
          rw [List.filterMap_cons_some he, records_cons, highest_cons, ← hlast, ← ih.1, ← ih.2]
          refine ⟨?_, rfl⟩
          split at hkept
          · rw [List.filterMap_cons_some hkept, if_pos ‹_›, List.singleton_append]
          · rw [List.filterMap_cons_none hkept, if_neg ‹_›, List.nil_append]

end RunningRecords
