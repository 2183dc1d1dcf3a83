import Nimble.Library.SequenceGaps

/-! # Thinning a sequence of times

Of the times that come in, only those are kept that lie at least a gap behind the last one kept.
The distances of the kept times then add up to the whole time between the first and the last of
them. -/

namespace Thinning

open SequenceGaps

/-- The times that lie at least `gap` behind the one kept before, which is `last` at first. -/
def thin (gap last : ℤ) : List ℤ → List ℤ
  | [] => []
  | t :: ts => if t - last < gap then thin gap last ts else t :: thin gap t ts

theorem gap_le_distances (gap last : ℤ) (ts : List ℤ) :
    ∀ d ∈ distances last (thin gap last ts), gap ≤ d := by
  induction ts generalizing last with
  | nil => simp [thin, distances]
  | cons t ts ih =>
      rw [thin]
      split
      · exact ih last
      · rw [distances, List.forall_mem_cons]
        exact ⟨not_lt.mp ‹_›, ih t⟩

/-- The distances of a sequence add up. -/
theorem sum_distances (first : ℤ) (ids : List ℤ) :
    (distances first ids).sum = ids.getLastD first - first := by
  induction ids generalizing first with
  | nil => simp [distances]
  | cons id ids ih =>
      rw [distances, List.sum_cons, ih, List.getLastD_cons]
      ring

end Thinning
