import Mathlib.Data.List.Forall2

/-! # Deterministic machines and their runs

A machine reads one input at a time and answers each with an output. The rules below carry
what holds of single steps over to whole runs: invariants, invariants under a condition on the
steps, and lockstep simulation of two machines. -/

/-- A deterministic machine with states `σ`, inputs `α` and outputs `ω`. -/
structure Machine (σ α ω : Type*) where
  step : σ → α → σ × ω

namespace Machine

variable {σ α ω τ β : Type*} (m : Machine σ α ω)

/-- The state after a list of inputs. -/
def run (s : σ) : List α → σ
  | [] => s
  | a :: as => run (m.step s a).1 as

/-- The outputs along a run. -/
def outputs (s : σ) : List α → List ω
  | [] => []
  | a :: as => (m.step s a).2 :: outputs (m.step s a).1 as

/-- The states a run takes its steps in, each with the input it reads there. -/
def visits (s : σ) : List α → List (σ × α)
  | [] => []
  | a :: as => (s, a) :: visits (m.step s a).1 as

@[simp] theorem run_nil (s : σ) : m.run s [] = s := rfl

@[simp] theorem run_cons (s : σ) (a : α) (as : List α) :
    m.run s (a :: as) = m.run (m.step s a).1 as := rfl

@[simp] theorem outputs_nil (s : σ) : m.outputs s [] = [] := rfl

@[simp] theorem outputs_cons (s : σ) (a : α) (as : List α) :
    m.outputs s (a :: as) = (m.step s a).2 :: m.outputs (m.step s a).1 as := rfl

@[simp] theorem visits_nil (s : σ) : m.visits s [] = [] := rfl

@[simp] theorem visits_cons (s : σ) (a : α) (as : List α) :
    m.visits s (a :: as) = (s, a) :: m.visits (m.step s a).1 as := rfl

theorem run_append (s : σ) (as bs : List α) :
    m.run s (as ++ bs) = m.run (m.run s as) bs := by
  induction as generalizing s with
  | nil => rfl
  | cons a as ih => exact ih _

theorem visits_append (s : σ) (as bs : List α) :
    m.visits s (as ++ bs) = m.visits s as ++ m.visits (m.run s as) bs := by
  induction as generalizing s with
  | nil => rfl
  | cons a as ih => simp [ih]

/-- A run visits exactly the states its proper prefixes end in. -/
theorem mem_visits_iff (s : σ) (as : List α) (v : σ × α) :
    v ∈ m.visits s as ↔ ∃ before after, as = before ++ v.2 :: after ∧ v.1 = m.run s before := by
  induction as generalizing s with
  | nil => simp
  | cons a as ih =>
      rw [visits_cons, List.mem_cons, ih]
      constructor
      · rintro (rfl | ⟨before, after, rfl, hv⟩)
        · exact ⟨[], as, rfl, rfl⟩
        · exact ⟨a :: before, after, rfl, hv⟩
      · rintro ⟨before, after, has, hv⟩
        cases before with
        | nil =>
            obtain ⟨rfl, rfl⟩ := List.cons.inj has
            exact Or.inl (Prod.ext hv rfl)
        | cons b before =>
            obtain ⟨rfl, rfl⟩ := List.cons.inj has
            exact Or.inr ⟨before, after, rfl, hv⟩

/-- The inputs that a run reads are those it is given. -/
theorem mem_of_mem_visits {s : σ} {as : List α} {v : σ × α} (h : v ∈ m.visits s as) :
    v.2 ∈ as := by
  obtain ⟨before, after, rfl, _⟩ := (m.mem_visits_iff s as v).mp h
  exact List.mem_append_right _ List.mem_cons_self

/-! ## Invariants -/

/-- A property that every step meeting `guard` preserves holds at the end of a run all of whose
steps meet it. -/
theorem run_invariant_of_guard {inv : σ → Prop} {guard : σ → α → Prop}
    (hstep : ∀ s a, inv s → guard s a → inv (m.step s a).1) {s : σ} {as : List α} (hs : inv s)
    (hguard : ∀ v ∈ m.visits s as, guard v.1 v.2) : inv (m.run s as) := by
  induction as generalizing s with
  | nil => exact hs
  | cons a as ih =>
      rw [visits_cons, List.forall_mem_cons] at hguard
      exact ih (hstep s a hs hguard.1) hguard.2

/-- A property preserved by every step holds at the end of every run. -/
theorem run_invariant {inv : σ → Prop} (hstep : ∀ s a, inv s → inv (m.step s a).1) {s : σ}
    (as : List α) (hs : inv s) : inv (m.run s as) :=
  @run_invariant_of_guard _ _ _ m inv (fun _ _ => True) (fun s a h _ => hstep s a h) s as hs
    (fun _ _ => trivial)

/-- The states visited by a guarded run satisfy the invariant of its guarded steps. -/
theorem visits_invariant_of_guard {inv : σ → Prop} {guard : σ → α → Prop}
    (hstep : ∀ s a, inv s → guard s a → inv (m.step s a).1) {s : σ} {as : List α} (hs : inv s)
    (hguard : ∀ v ∈ m.visits s as, guard v.1 v.2) : ∀ v ∈ m.visits s as, inv v.1 := by
  induction as generalizing s with
  | nil => simp
  | cons a as ih =>
      rw [visits_cons, List.forall_mem_cons] at hguard ⊢
      exact ⟨hs, ih (hstep s a hs hguard.1) hguard.2⟩

/-! ## Measures -/

/-- The number of steps of a run that meet `counted`. -/
def countSteps (counted : σ → α → Bool) (s : σ) (as : List α) : ℕ :=
  (m.visits s as).countP fun v => counted v.1 v.2

@[simp] theorem countSteps_nil (counted : σ → α → Bool) (s : σ) :
    m.countSteps counted s [] = 0 := rfl

theorem countSteps_cons (counted : σ → α → Bool) (s : σ) (a : α) (as : List α) :
    m.countSteps counted s (a :: as) =
      m.countSteps counted (m.step s a).1 as + if counted s a then 1 else 0 := by
  simp [countSteps, List.countP_cons]

theorem countSteps_append_singleton (counted : σ → α → Bool) (s : σ) (as : List α) (a : α) :
    m.countSteps counted s (as ++ [a]) =
      m.countSteps counted s as + if counted (m.run s as) a then 1 else 0 := by
  simp [countSteps, visits_append]

/-- A positive measure that no step raises and every counted step lowers leads to the goal,
when there are as many counted steps as the measure says at the start. -/
theorem run_reaches_of_measure {inv goal : σ → Prop} {guard : σ → α → Prop}
    {counted : σ → α → Bool} {measure : σ → ℕ}
    (hgoal : ∀ s a, goal s → guard s a → goal (m.step s a).1)
    (hstep : ∀ s a, inv s → guard s a → goal (m.step s a).1 ∨ inv (m.step s a).1 ∧
      measure (m.step s a).1 + (if counted s a then 1 else 0) ≤ measure s)
    (hpos : ∀ s, inv s → 0 < measure s) {s : σ} {as : List α} (hs : inv s)
    (hguard : ∀ v ∈ m.visits s as, guard v.1 v.2)
    (henough : measure s ≤ m.countSteps counted s as) : goal (m.run s as) := by
  induction as generalizing s with
  | nil =>
      have := hpos s hs
      rw [countSteps_nil] at henough
      omega
  | cons a as ih =>
      rw [visits_cons, List.forall_mem_cons] at hguard
      rw [countSteps_cons] at henough
      rcases hstep s a hs hguard.1 with hreached | ⟨hinv, hmeasure⟩
      · rw [run_cons]
        exact m.run_invariant_of_guard hgoal hreached hguard.2
      · exact ih hinv hguard.2 (by omega)

/-- Enough counted steps lead past a goal that need not last: some prefix of the run ends in
it. -/
theorem exists_goal_of_measure {inv goal : σ → Prop} {guard : σ → α → Prop}
    {counted : σ → α → Bool} {measure : σ → ℕ}
    (hstep : ∀ s a, inv s → guard s a → goal (m.step s a).1 ∨ inv (m.step s a).1 ∧
      measure (m.step s a).1 + (if counted s a then 1 else 0) ≤ measure s)
    (hpos : ∀ s, inv s → 0 < measure s) {s : σ} {as : List α} (hs : goal s ∨ inv s)
    (hguard : ∀ v ∈ m.visits s as, guard v.1 v.2)
    (henough : measure s ≤ m.countSteps counted s as) :
    ∃ before after, as = before ++ after ∧ goal (m.run s before) := by
  induction as generalizing s with
  | nil =>
      rcases hs with hgoal | hinv
      · exact ⟨[], [], rfl, hgoal⟩
      · have := hpos s hinv
        rw [countSteps_nil] at henough
        omega
  | cons a as ih =>
      rcases hs with hgoal | hinv
      · exact ⟨[], a :: as, rfl, hgoal⟩
      rw [visits_cons, List.forall_mem_cons] at hguard
      rw [countSteps_cons] at henough
      rcases hstep s a hinv hguard.1 with hgoal | ⟨hnext, hmeasure⟩
      · exact ⟨[a], as, rfl, hgoal⟩
      · obtain ⟨before, after, rfl, hgoal⟩ := ih (Or.inr hnext) hguard.2 (by omega)
        exact ⟨a :: before, after, rfl, hgoal⟩

/-- What the steps of a run cost together. -/
def sumSteps (cost : σ → α → ℕ) (s : σ) (as : List α) : ℕ :=
  (m.visits s as).foldr (fun v total => cost v.1 v.2 + total) 0

@[simp] theorem sumSteps_nil (cost : σ → α → ℕ) (s : σ) : m.sumSteps cost s [] = 0 := rfl

theorem sumSteps_cons (cost : σ → α → ℕ) (s : σ) (a : α) (as : List α) :
    m.sumSteps cost s (a :: as) = cost s a + m.sumSteps cost (m.step s a).1 as := by
  simp [sumSteps]

theorem sumSteps_add (cost other : σ → α → ℕ) (s : σ) (as : List α) :
    m.sumSteps (fun s a => cost s a + other s a) s as =
      m.sumSteps cost s as + m.sumSteps other s as := by
  induction as generalizing s with
  | nil => simp
  | cons a as ih =>
      simp only [sumSteps_cons, ih]
      omega

theorem sumSteps_mul (k : ℕ) (cost : σ → α → ℕ) (s : σ) (as : List α) :
    m.sumSteps (fun s a => k * cost s a) s as = k * m.sumSteps cost s as := by
  induction as generalizing s with
  | nil => simp
  | cons a as ih => rw [sumSteps_cons, sumSteps_cons, ih, Nat.mul_add]

theorem sumSteps_ite (counted : σ → α → Bool) (s : σ) (as : List α) :
    m.sumSteps (fun s a => if counted s a then 1 else 0) s as = m.countSteps counted s as := by
  induction as generalizing s with
  | nil => simp
  | cons a as ih => rw [sumSteps_cons, countSteps_cons, ih, Nat.add_comm]

/-- What the steps of a run take from a potential has been paid in, or was there at the start. -/
theorem sumSteps_le_of_potential {inv : σ → Prop} {potential : σ → ℕ}
    {taken paid : σ → α → ℕ}
    (hstep : ∀ s a, inv s → inv (m.step s a).1 ∧
      taken s a + potential (m.step s a).1 ≤ potential s + paid s a) {s : σ} (hs : inv s)
    (as : List α) :
    m.sumSteps taken s as + potential (m.run s as) ≤ potential s + m.sumSteps paid s as := by
  induction as generalizing s with
  | nil => simp
  | cons a as ih =>
      obtain ⟨hinv, hmoves⟩ := hstep s a hs
      have hrest := ih hinv
      rw [sumSteps_cons, sumSteps_cons, run_cons]
      omega

/-! ## Two runs -/

/-- Runs that read related inputs step by step stay related, and so do their outputs. -/
theorem related_of_lockstep {R : σ → σ → Prop} {I : α → α → Prop} {O : ω → ω → Prop}
    (hstep : ∀ s t a b, R s t → I a b →
      R (m.step s a).1 (m.step t b).1 ∧ O (m.step s a).2 (m.step t b).2)
    {s t : σ} {as bs : List α} (h : R s t) (hinputs : List.Forall₂ I as bs) :
    R (m.run s as) (m.run t bs) ∧ List.Forall₂ O (m.outputs s as) (m.outputs t bs) := by
  induction hinputs generalizing s t with
  | nil => exact ⟨h, .nil⟩
  | cons hinput _ ih =>
      obtain ⟨hR, hO⟩ := hstep _ _ _ _ h hinput
      obtain ⟨hrun, houtputs⟩ := ih hR
      exact ⟨hrun, .cons hO houtputs⟩

/-- Related states that answer every input alike, and stay related, give equal outputs along
every run. -/
theorem outputs_eq_of_bisimulation {R : σ → σ → Prop} {view : ω → β}
    (hstep : ∀ s t a, R s t →
      R (m.step s a).1 (m.step t a).1 ∧ view (m.step s a).2 = view (m.step t a).2)
    {s t : σ} (as : List α) (h : R s t) :
    (m.outputs s as).map view = (m.outputs t as).map view := by
  have hlockstep : ∀ s t a b, R s t → a = b →
      R (m.step s a).1 (m.step t b).1 ∧ view (m.step s a).2 = view (m.step t b).2 := by
    rintro s t a _ hst rfl
    exact hstep s t a hst
  have houtputs := (@related_of_lockstep _ _ _ m R (· = ·) (fun x y => view x = view y)
    hlockstep s t as as h (List.forall₂_refl as)).2
  rwa [← List.forall₂_eq_eq_eq, List.forall₂_map_left_iff, List.forall₂_map_right_iff]

end Machine
