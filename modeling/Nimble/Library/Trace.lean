import Mathlib.Data.List.Induction

/-! # Traces of labelled steps

What a list of events does to a state, one step an event. The rules below speak of invariants
that also depend on the events so far. -/

/-- The events lead from the first state to the last. -/
inductive Trace {σ ε : Type*} (step : σ → ε → σ → Prop) : σ → List ε → σ → Prop
  | nil (s : σ) : Trace step s [] s
  | cons {s t u : σ} {e : ε} {es : List ε} (hstep : step s e t) (htail : Trace step t es u) :
      Trace step s (e :: es) u

namespace Trace

variable {σ ε : Type*} {step : σ → ε → σ → Prop} {s t u : σ} {e : ε} {es fs : List ε}

theorem append (h : Trace step s es t) (h' : Trace step t fs u) : Trace step s (es ++ fs) u := by
  induction h with
  | nil => exact h'
  | cons hstep _ ih => exact .cons hstep (ih h')

theorem split (h : Trace step s (es ++ fs) u) : ∃ t, Trace step s es t ∧ Trace step t fs u := by
  induction es generalizing s with
  | nil => exact ⟨s, .nil s, h⟩
  | cons e es ih =>
      cases h with
      | cons hstep htail =>
          obtain ⟨t, hes, hfs⟩ := ih htail
          exact ⟨t, .cons hstep hes, hfs⟩

theorem eq_of_nil (h : Trace step s [] t) : t = s := by
  cases h with
  | nil => rfl

theorem head (h : Trace step s (e :: es) u) : ∃ t, step s e t ∧ Trace step t es u := by
  cases h with
  | cons hstep htail => exact ⟨_, hstep, htail⟩

theorem last (h : Trace step s (es ++ [e]) u) : ∃ t, Trace step s es t ∧ step t e u := by
  obtain ⟨t, hes, hlast⟩ := h.split
  obtain ⟨v, hstep, hnil⟩ := hlast.head
  rw [hnil.eq_of_nil]
  exact ⟨t, hes, hstep⟩

theorem mono {step' : σ → ε → σ → Prop} (h : Trace step s es t)
    (hmono : ∀ s e t, step s e t → step' s e t) : Trace step' s es t := by
  induction h with
  | nil => exact .nil _
  | cons hstep _ ih => exact .cons (hmono _ _ _ hstep) ih

/-- The steps of a trace with what is known of its events. -/
theorem restrict {p : ε → Prop} (h : Trace step s es t) (hp : ∀ e ∈ es, p e) :
    Trace (fun s e t => step s e t ∧ p e) s es t := by
  induction h with
  | nil => exact .nil _
  | cons hstep _ ih =>
      rw [List.forall_mem_cons] at hp
      exact .cons ⟨hstep, hp.1⟩ (ih hp.2)

/-- The states that a trace passes through, with the events in front of each. -/
def Passes (step : σ → ε → σ → Prop) (s : σ) (es past : List ε) (t : σ) : Prop :=
  past <+: es ∧ Trace step s past t

/-- If each event preserves the invariant exactly when it meets its guard, the invariant holds
all along a trace exactly when every event meets its guard. -/
theorem invariant_iff {inv : List ε → σ → Prop} {guard : List ε → ε → Prop}
    (hstep : ∀ past s e t, inv past s → step s e t → (inv (past ++ [e]) t ↔ guard past e))
    (hs : inv [] s) (h : Trace step s es u) :
    (∀ past t, Passes step s es past t → inv past t) ↔
      ∀ past e, past ++ [e] <+: es → guard past e := by
  constructor
  · intro hinv past e hbegins
    obtain ⟨rest, rfl⟩ := hbegins
    obtain ⟨t, hpast, _⟩ := h.split
    obtain ⟨v, hbefore, he⟩ := hpast.last
    have hbefore' := hinv past v ⟨⟨e :: rest, by simp⟩, hbefore⟩
    exact (hstep past v e t hbefore' he).mp (hinv _ t ⟨⟨rest, rfl⟩, hpast⟩)
  · rintro hguard past t ⟨hbegins, hpast⟩
    induction past using List.reverseRecOn generalizing t with
    | nil =>
        rw [hpast.eq_of_nil]
        exact hs
    | append_singleton past e ih =>
        obtain ⟨v, hbefore, he⟩ := hpast.last
        have hbefore' := ih v ((List.prefix_append past [e]).trans hbegins) hbefore
        exact (hstep past v e t hbefore' he).mpr (hguard past e hbegins)

/-- An invariant that every event preserves holds all along a trace. -/
theorem invariant_of_guard {inv : List ε → σ → Prop} {guard : ε → Prop}
    (hstep : ∀ past s e t, inv past s → step s e t → guard e → inv (past ++ [e]) t)
    (hs : inv [] s) (h : Trace step s es u) (hguard : ∀ e ∈ es, guard e) : inv es u := by
  induction es using List.reverseRecOn generalizing u with
  | nil =>
      rw [h.eq_of_nil]
      exact hs
  | append_singleton es e ih =>
      obtain ⟨t, hbefore, he⟩ := h.last
      have hbefore' := ih hbefore fun f hf => hguard f (List.mem_append_left _ hf)
      exact hstep es t e u hbefore' he (hguard e (by simp))

end Trace
