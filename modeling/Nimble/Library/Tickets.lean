import Mathlib.Data.List.Iterate
import Mathlib.Data.List.Nodup
import Mathlib.Data.Nat.ModEq
import Nimble.Library.Queue

/-! # Tickets

A machine holds a counter. What some of its steps hand out carries the number of the counter, and
the counter moves on. -/

namespace Tickets

section Machine

variable {σ α ω γ ν : Type*} {m : Machine σ α ω}
variable {guard : σ → α → Prop} {counter : σ → ν} {next : ν → ν}
variable {issued : σ → α → List γ} {number : γ → ν}

/-- A run hands out one number after another, and the counter is behind the last of them. -/
theorem numbers_gather
    (hstep : ∀ s a, guard s a →
      (issued s a).map number = List.iterate next (counter s) (issued s a).length ∧
        counter (m.step s a).1 = next^[(issued s a).length] (counter s))
    (s : σ) (as : List α) (h : ∀ v ∈ m.visits s as, guard v.1 v.2) :
    (m.gather issued s as).map number =
        List.iterate next (counter s) (m.gather issued s as).length ∧
      counter (m.run s as) = next^[(m.gather issued s as).length] (counter s) := by
  induction as generalizing s with
  | nil => exact ⟨rfl, rfl⟩
  | cons a as ih =>
      rw [Machine.visits_cons, List.forall_mem_cons] at h
      obtain ⟨hhead, hcounter⟩ := hstep s a h.1
      obtain ⟨htail, hlast⟩ := ih (m.step s a).1 h.2
      rw [hcounter] at htail hlast
      rw [Machine.gather_cons, List.map_append, List.length_append, List.iterate_add, hhead, htail]
      refine ⟨rfl, ?_⟩
      rw [Machine.run_cons, hlast, Nat.add_comm, Function.iterate_add_apply]

end Machine

/-! ## Counters that come round -/

variable {modulus start : ℕ}

theorem iterate_succ_mod (h : start < modulus) (count : ℕ) :
    (fun n => (n + 1) % modulus)^[count] start = (start + count) % modulus := by
  induction count with
  | zero => exact (Nat.mod_eq_of_lt h).symm
  | succ count ih =>
      rw [Function.iterate_succ_apply', ih, Nat.mod_add_mod, Nat.add_assoc]

/-- Among no more numbers than there are, none comes twice. -/
theorem nodup_iterate_succ_mod (h : start < modulus) {count : ℕ} (hcount : count ≤ modulus) :
    (List.iterate (fun n => (n + 1) % modulus) start count).Nodup := by
  rw [← List.range_map_iterate]
  refine List.Nodup.map_on ?_ List.nodup_range
  intro i hi j hj hij
  rw [List.mem_range] at hi hj
  rw [iterate_succ_mod h, iterate_succ_mod h] at hij
  have hmod : i ≡ j [MOD modulus] := Nat.ModEq.add_left_cancel' start hij
  exact hmod.eq_of_lt_of_lt (hi.trans_le hcount) (hj.trans_le hcount)

end Tickets
