import Nimble.Library.Machine

/-! # First in, first out

A machine holds a queue: each of its steps takes items from the front and puts what arrives
behind the rest. What a run takes in all its steps is then a prefix of what there was and what
has arrived, in the same order. -/

namespace Machine

variable {σ α ω γ : Type*} (m : Machine σ α ω)

/-- What the steps of a run contribute, one after another. -/
def gather (part : σ → α → List γ) (s : σ) (as : List α) : List γ :=
  (m.visits s as).flatMap fun v => part v.1 v.2

@[simp] theorem gather_nil (part : σ → α → List γ) (s : σ) : m.gather part s [] = [] := rfl

@[simp] theorem gather_cons (part : σ → α → List γ) (s : σ) (a : α) (as : List α) :
    m.gather part s (a :: as) = part s a ++ m.gather part (m.step s a).1 as :=
  List.flatMap_cons

/-- A part of the state that each step takes through its contributions goes through those of a
run. -/
theorem foldl_gather {π : Type*} {part : σ → π} {apply : π → γ → π} {events : σ → α → List γ}
    {inv : σ → Prop} {guard : σ → α → Prop}
    (hstep : ∀ s a, inv s → guard s a →
      inv (m.step s a).1 ∧ part (m.step s a).1 = (events s a).foldl apply (part s))
    {s : σ} {as : List α} (hs : inv s) (h : ∀ v ∈ m.visits s as, guard v.1 v.2) :
    part (m.run s as) = (m.gather events s as).foldl apply (part s) := by
  induction as generalizing s with
  | nil => rfl
  | cons a as ih =>
      rw [visits_cons, List.forall_mem_cons] at h
      obtain ⟨hinv, hpart⟩ := hstep s a hs h.1
      rw [run_cons, gather_cons, List.foldl_append, ← hpart]
      exact ih hinv h.2

section Fifo

variable {contents : σ → List γ} {arrives taken : σ → α → List γ}

end Fifo

end Machine
