import Mathlib.Data.Finset.Option
import Mathlib.Data.List.Induction

/-! # Ledgers of allocations

A ledger lists what an allocator hands out and takes back, in order. A holder keeps at most one
block and records in its ledger what it takes and drops. -/

namespace Ledger

variable {β : Type*}

inductive Entry (β : Type*)
  | alloc (block : β)
  | free (block : β)
  deriving DecidableEq

def Entry.allocated? : Entry β → Option β
  | .alloc block => some block
  | .free _ => none

def Entry.released? : Entry β → Option β
  | .alloc _ => none
  | .free block => some block

/-- The blocks handed out. -/
def allocated (entries : List (Entry β)) : List β := entries.filterMap Entry.allocated?

/-- The blocks taken back. -/
def released (entries : List (Entry β)) : List β := entries.filterMap Entry.released?

@[simp] theorem allocated_append_alloc (entries : List (Entry β)) (block : β) :
    allocated (entries ++ [.alloc block]) = allocated entries ++ [block] := by
  simp [allocated, Entry.allocated?]

@[simp] theorem allocated_append_free (entries : List (Entry β)) (block : β) :
    allocated (entries ++ [.free block]) = allocated entries := by
  simp [allocated, Entry.allocated?]

@[simp] theorem released_append_alloc (entries : List (Entry β)) (block : β) :
    released (entries ++ [.alloc block]) = released entries := by
  simp [released, Entry.released?]

@[simp] theorem released_append_free (entries : List (Entry β)) (block : β) :
    released (entries ++ [.free block]) = released entries ++ [block] := by
  simp [released, Entry.released?]

variable [DecidableEq β]

def Entry.apply (blocks : Finset β) : Entry β → Finset β
  | .alloc block => insert block blocks
  | .free block => blocks.erase block

/-- The blocks that are handed out and not taken back. -/
def live (entries : List (Entry β)) : Finset β := entries.foldl Entry.apply ∅

@[simp] theorem live_nil : live ([] : List (Entry β)) = ∅ := rfl

@[simp] theorem live_append_alloc (entries : List (Entry β)) (block : β) :
    live (entries ++ [.alloc block]) = insert block (live entries) := by
  simp [live, Entry.apply]

@[simp] theorem live_append_free (entries : List (Entry β)) (block : β) :
    live (entries ++ [.free block]) = (live entries).erase block := by
  simp [live, Entry.apply]

theorem mem_allocated_of_mem_live {entries : List (Entry β)} {block : β}
    (h : block ∈ live entries) : block ∈ allocated entries := by
  induction entries using List.reverseRecOn with
  | nil => simp at h
  | append_singleton entries entry ih =>
      cases entry with
      | alloc other =>
          rw [live_append_alloc, Finset.mem_insert] at h
          rw [allocated_append_alloc, List.mem_append, List.mem_singleton]
          exact h.symm.imp_left ih
      | free other =>
          rw [live_append_free] at h
          rw [allocated_append_free]
          exact ih (Finset.mem_of_mem_erase h)

/-- Every block is handed out once, and taken back only while it is live. -/
inductive Sound : List (Entry β) → Prop
  | nil : Sound []
  | alloc {entries : List (Entry β)} {block : β} :
      Sound entries → block ∉ allocated entries → Sound (entries ++ [.alloc block])
  | free {entries : List (Entry β)} {block : β} :
      Sound entries → block ∈ live entries → Sound (entries ++ [.free block])

theorem Sound.mem_allocated_of_mem_released {entries : List (Entry β)} (h : Sound entries) :
    ∀ block ∈ released entries, block ∈ allocated entries := by
  induction h with
  | nil => simp [released]
  | alloc _ _ ih =>
      intro block hblock
      rw [released_append_alloc] at hblock
      rw [allocated_append_alloc]
      exact List.mem_append_left _ (ih block hblock)
  | free _ hlive ih =>
      intro block hblock
      rw [released_append_free, List.mem_append, List.mem_singleton] at hblock
      rw [allocated_append_free]
      rcases hblock with hblock | rfl
      · exact ih block hblock
      · exact mem_allocated_of_mem_live hlive

/-- A block that was taken back is not live again. -/
theorem Sound.not_mem_live_of_mem_released {entries : List (Entry β)} (h : Sound entries) :
    ∀ block ∈ released entries, block ∉ live entries := by
  induction h with
  | nil => simp
  | alloc hsound hfresh ih =>
      intro block hblock
      rw [released_append_alloc] at hblock
      rw [live_append_alloc, Finset.mem_insert, not_or]
      refine ⟨?_, ih block hblock⟩
      rintro rfl
      exact hfresh (hsound.mem_allocated_of_mem_released block hblock)
  | free _ _ ih =>
      intro block hblock
      rw [released_append_free, List.mem_append, List.mem_singleton] at hblock
      rw [live_append_free, Finset.mem_erase]
      rintro ⟨hne, hlive⟩
      rcases hblock with hblock | rfl
      · exact ih block hblock hlive
      · exact hne rfl

/-- No block is taken back twice. -/
theorem Sound.nodup_released {entries : List (Entry β)} (h : Sound entries) :
    (released entries).Nodup := by
  induction h with
  | nil => exact List.nodup_nil
  | alloc _ _ ih =>
      rw [released_append_alloc]
      exact ih
  | free hsound hlive ih =>
      rw [released_append_free, List.nodup_append_comm]
      exact List.nodup_cons.mpr
        ⟨fun hblock => hsound.not_mem_live_of_mem_released _ hblock hlive, ih⟩

/-! ## Holders -/

/-- A holder of at most one block, with its ledger. -/
@[ext] structure Holder (β : Type*) where
  held : Option β
  entries : List (Entry β)

/-- The holder takes a block, and forgets the one it holds. -/
def Holder.take (holder : Holder β) (block : β) : Holder β :=
  ⟨some block, holder.entries ++ [.alloc block]⟩

/-- The holder gives back the block it holds, if it holds one. -/
def Holder.drop (holder : Holder β) : Holder β :=
  ⟨none, holder.entries ++ holder.held.toList.map .free⟩

/-- What a holder holds is live. -/
structure Holder.IsSound (holder : Holder β) : Prop where
  entries : Sound holder.entries
  held : ∀ block ∈ holder.held, block ∈ live holder.entries

/-- What is live is held, and no block is taken back twice. -/
structure Holder.IsBalanced (holder : Holder β) : Prop where
  live_eq : live holder.entries = holder.held.toFinset
  nodup_released : (released holder.entries).Nodup

theorem Holder.IsSound.take {holder : Holder β} (h : holder.IsSound) {block : β}
    (hfresh : block ∉ allocated holder.entries) : (holder.take block).IsSound where
  entries := h.entries.alloc hfresh
  held other hother := by
    rw [Option.mem_some.mp hother]
    simp [Holder.take]

theorem Holder.IsSound.drop {holder : Holder β} (h : holder.IsSound) : holder.drop.IsSound where
  entries := by
    cases hheld : holder.held with
    | none => simpa [Holder.drop, hheld] using h.entries
    | some block =>
        simpa [Holder.drop, hheld] using h.entries.free (h.held block hheld)
  held other hother := by simp [Holder.drop] at hother

/-- To take a block keeps the balance exactly if no block is held. -/
theorem Holder.IsBalanced.take_iff {holder : Holder β} (h : holder.IsBalanced) {block : β}
    (hfresh : block ∉ allocated holder.entries) :
    (holder.take block).IsBalanced ↔ holder.held = none := by
  constructor
  · intro htake
    by_contra hheld
    obtain ⟨other, hother⟩ := Option.ne_none_iff_exists'.mp hheld
    have hlive : other ∈ live holder.entries := by simp [h.live_eq, hother]
    have hsame : other ∈ live (holder.take block).entries := by
      simp [Holder.take, hlive]
    rw [htake.live_eq] at hsame
    have heq : other = block := by simpa [Holder.take, eq_comm] using hsame
    exact hfresh (heq ▸ mem_allocated_of_mem_live hlive)
  · intro hheld
    constructor
    · simp [Holder.take, h.live_eq, hheld]
    · simpa [Holder.take] using h.nodup_released

theorem Holder.IsBalanced.live_drop {holder : Holder β} (h : holder.IsBalanced) :
    live holder.drop.entries = ∅ := by
  cases hheld : holder.held with
  | none => simp [Holder.drop, hheld, h.live_eq]
  | some block => simp [Holder.drop, hheld, h.live_eq]

theorem Holder.IsBalanced.drop {holder : Holder β} (h : holder.IsBalanced)
    (hsound : holder.IsSound) : holder.drop.IsBalanced :=
  ⟨h.live_drop, hsound.drop.entries.nodup_released⟩

end Ledger
