import Mathlib.Data.List.Iterate

/-! # Reorder buffers

Items arrive under ids in any order, several times or not at all, and are released in the order
of the ids, each one once. -/

/-- The id that is released next, the items that have arrived and wait for their turn, and the
items that are released and not yet taken, the oldest first. -/
structure ReorderBuffer (ι α : Type*) where
  expected : ι
  held : ι → Option α
  released : List (ι × α)

namespace ReorderBuffer

variable {ι α : Type*}

/-! ## Consecutive items -/

/-- The items have consecutive ids from the first on; the last id is the one behind them. -/
inductive Consecutive (next : ι → ι) : ι → List (ι × α) → ι → Prop
  | nil (i : ι) : Consecutive next i [] i
  | cons {i last : ι} {items : List (ι × α)} (a : α)
      (h : Consecutive next (next i) items last) : Consecutive next i ((i, a) :: items) last

variable {next : ι → ι} {first middle last : ι} {items more : List (ι × α)}

theorem Consecutive.append (h : Consecutive next first items middle)
    (h' : Consecutive next middle more last) : Consecutive next first (items ++ more) last := by
  induction h with
  | nil => exact h'
  | cons a _ ih => exact .cons a (ih h')

theorem Consecutive.ids (h : Consecutive next first items last) :
    items.map Prod.fst = List.iterate next first items.length := by
  induction h with
  | nil => rfl
  | cons a _ ih => simp [ih]

theorem Consecutive.last_eq (h : Consecutive next first items last) :
    last = next^[items.length] first := by
  induction h with
  | nil => rfl
  | cons a _ ih => simp [ih]

theorem Consecutive.ids_of_append (h : Consecutive next first (items ++ more) last) :
    items.map Prod.fst = List.iterate next first items.length := by
  have hids := congrArg (List.take items.length) h.ids
  simpa [List.iterate_add, List.take_append] using hids

/-- The last id is the one behind the last item. -/
theorem Consecutive.last_eq_next {item : ι × α}
    (h : Consecutive next first (items ++ [item]) last) : last = next item.1 := by
  induction items generalizing first with
  | nil =>
      cases h with
      | cons a hnil =>
          cases hnil
          rfl
  | cons _ items ih =>
      cases h with
      | cons a htail => exact ih htail

/-! ## What happens to a buffer -/

/-- Some of what has arrived is held. -/
structure Receives (arrived : ι → α → Prop) (b c : ReorderBuffer ι α) : Prop where
  expected : c.expected = b.expected
  released : c.released = b.released
  held : ∀ i a, c.held i = some a → b.held i = some a ∨ arrived i a

/-- These items, which are held from the expected id on, are released. -/
structure Releases (next : ι → ι) (items : List (ι × α)) (b c : ReorderBuffer ι α) : Prop where
  consecutive : Consecutive next b.expected items c.expected
  of_held : ∀ s ∈ items, b.held s.1 = some s.2
  released : c.released = b.released ++ items
  held : ∀ i a, c.held i = some a → b.held i = some a

/-- The oldest released item is taken. -/
structure Takes (item : ι × α) (b c : ReorderBuffer ι α) : Prop where
  expected : c.expected = b.expected
  released : b.released = item :: c.released
  held : c.held = b.held

variable {b c d : ReorderBuffer ι α}

theorem Releases.refl (b : ReorderBuffer ι α) : Releases next [] b b where
  consecutive := .nil b.expected
  of_held := by simp
  released := by simp
  held _ _ h := h

theorem Releases.append (h : Releases next items b c) (h' : Releases next more c d) :
    Releases next (items ++ more) b d where
  consecutive := h.consecutive.append h'.consecutive
  of_held s hs := by
    rcases List.mem_append.mp hs with hs | hs
    · exact h.of_held s hs
    · exact h.held _ _ (h'.of_held s hs)
  released := by rw [h'.released, h.released, List.append_assoc]
  held i a ha := h.held i a (h'.held i a ha)

/-! ## Delivery in order -/

/-- What has been taken, and what can be taken next, has consecutive ids from the first on, and
nothing in the buffer came from elsewhere than what arrived. -/
structure Delivers (next : ι → ι) (first : ι) (arrived : ι → α → Prop) (taken : List (ι × α))
    (b : ReorderBuffer ι α) : Prop where
  consecutive : Consecutive next first (taken ++ b.released) b.expected
  released : ∀ s ∈ taken ++ b.released, arrived s.1 s.2
  held : ∀ i a, b.held i = some a → arrived i a

variable {arrived arriving : ι → α → Prop} {taken : List (ι × α)}

theorem delivers_empty (hexpected : b.expected = first) (hreleased : b.released = [])
    (hheld : ∀ i, b.held i = none) : Delivers next first arrived [] b where
  consecutive := by
    rw [hreleased, hexpected]
    exact .nil first
  released := by simp [hreleased]
  held i a h := by simp [hheld] at h

theorem Delivers.mono (h : Delivers next first arrived taken b)
    (hmono : ∀ i a, arrived i a → arriving i a) : Delivers next first arriving taken b :=
  ⟨h.consecutive, fun s hs => hmono _ _ (h.released s hs), fun i a ha => hmono _ _ (h.held i a ha)⟩

theorem Delivers.receive (h : Delivers next first arrived taken b)
    (hreceives : Receives arrived b c) : Delivers next first arrived taken c := by
  refine ⟨?_, ?_, fun i a ha => ?_⟩
  · rw [hreceives.expected, hreceives.released]
    exact h.consecutive
  · rw [hreceives.released]
    exact h.released
  · rcases hreceives.held i a ha with hheld | harrived
    · exact h.held i a hheld
    · exact harrived

theorem Delivers.release (h : Delivers next first arrived taken b)
    (hreleases : Releases next items b c) : Delivers next first arrived taken c := by
  refine ⟨?_, fun s hs => ?_, fun i a ha => h.held i a (hreleases.held i a ha)⟩
  · rw [hreleases.released, ← List.append_assoc]
    exact h.consecutive.append hreleases.consecutive
  · rw [hreleases.released, ← List.append_assoc] at hs
    rcases List.mem_append.mp hs with hs | hs
    · exact h.released s hs
    · exact h.held _ _ (hreleases.of_held s hs)

theorem Delivers.take {item : ι × α} (h : Delivers next first arrived taken b)
    (htakes : Takes item b c) : Delivers next first arrived (taken ++ [item]) c := by
  have hsame : taken ++ [item] ++ c.released = taken ++ b.released := by
    rw [htakes.released, List.append_assoc]
    rfl
  refine ⟨?_, ?_, ?_⟩
  · rw [hsame, htakes.expected]
    exact h.consecutive
  · rw [hsame]
    exact h.released
  · rw [htakes.held]
    exact h.held

/-- What has been taken is in order, without gap or repeat, and it has arrived. -/
theorem Delivers.taken_in_order (h : Delivers next first arrived taken b) :
    taken.map Prod.fst = List.iterate next first taken.length ∧
      ∀ s ∈ taken, arrived s.1 s.2 :=
  ⟨h.consecutive.ids_of_append, fun s hs => h.released s (List.mem_append_left _ hs)⟩

end ReorderBuffer
