import Nimble.Library.Ledger
import Nimble.Model.SmallLibraries
import Nimble.Verification.Update

/-! # Blocks of game states

What the client allocates for a game state, what it releases, and when a block is lost. -/

namespace Nimble

open Ledger

variable {L : Libraries}

/-! ## The ledger of a client -/

/-- The block that a client holds, and the allocator it comes from. -/
structure BlockFields where
  gameState : Option GameStateBlock
  blobStreamAllocator : ImprintAllocatorWithFree

def NimbleClient.blockFields (self : NimbleClient L) : BlockFields :=
  ⟨self.joinedGameState.gameState, self.blobStreamAllocator⟩

def LedgerEntry.entry : LedgerEntry → Entry Nat
  | .alloc block _ => .alloc block
  | .free block => .free block

/-- The client as a holder of a block: its ledger begins behind what `base` had in it. -/
def BlockFields.holder (self : BlockFields) (base : ImprintAllocatorWithFree) : Holder Nat where
  held := self.gameState.map GameStateBlock.block
  entries := (self.blobStreamAllocator.ledger.drop base.ledger.length).map LedgerEntry.entry

/-- What `nimbleClientGameStateInit` makes of the fields. -/
def BlockFields.init (self : BlockFields) (gameState : List UInt8) (gameStateOctetCount : Nat) :
    BlockFields where
  gameState := some ⟨self.blobStreamAllocator.nextBlock, gameState.take gameStateOctetCount⟩
  blobStreamAllocator := ⟨self.blobStreamAllocator.nextBlock + 1, self.blobStreamAllocator.ledger ++
    [.alloc self.blobStreamAllocator.nextBlock gameStateOctetCount]⟩

/-- What `nimbleClientGameStateDestroy` makes of them. Without a block it changes nothing. -/
def BlockFields.destroy (self : BlockFields) : BlockFields where
  gameState := none
  blobStreamAllocator := { self.blobStreamAllocator with
    ledger := self.blobStreamAllocator.ledger ++
      (self.gameState.toList.map fun b => .free b.block) }

/-- The ledger goes on from `base`, every block in it has been handed out, and it is sound. -/
structure BlockFields.KeepsLedger (fields : BlockFields) (base : ImprintAllocatorWithFree) :
    Prop where
  begins : base.ledger <+: fields.blobStreamAllocator.ledger
  handedOut : ∀ block ∈ allocated (fields.holder base).entries,
    block < fields.blobStreamAllocator.nextBlock
  isSound : (fields.holder base).IsSound

theorem BlockFields.holder_init {self : BlockFields} {base : ImprintAllocatorWithFree}
    (h : base.ledger <+: self.blobStreamAllocator.ledger) (gameState : List UInt8)
    (gameStateOctetCount : Nat) :
    (self.init gameState gameStateOctetCount).holder base =
      (self.holder base).take self.blobStreamAllocator.nextBlock := by
  simp [holder, init, Holder.take, List.drop_append_of_le_length h.length_le, LedgerEntry.entry]

theorem BlockFields.holder_destroy {self : BlockFields} {base : ImprintAllocatorWithFree}
    (h : base.ledger <+: self.blobStreamAllocator.ledger) :
    self.destroy.holder base = (self.holder base).drop := by
  cases hheld : self.gameState with
  | none => simp [holder, destroy, Holder.drop, hheld]
  | some block =>
      simp [holder, destroy, Holder.drop, hheld, List.drop_append_of_le_length h.length_le,
        LedgerEntry.entry]

theorem BlockFields.KeepsLedger.not_mem_allocated {self : BlockFields}
    {base : ImprintAllocatorWithFree} (h : self.KeepsLedger base) :
    self.blobStreamAllocator.nextBlock ∉ allocated (self.holder base).entries :=
  fun hblock => Nat.lt_irrefl _ (h.handedOut _ hblock)

theorem BlockFields.KeepsLedger.init {self : BlockFields} {base : ImprintAllocatorWithFree}
    (h : self.KeepsLedger base) (gameState : List UInt8) (gameStateOctetCount : Nat) :
    (self.init gameState gameStateOctetCount).KeepsLedger base where
  begins := h.begins.trans (List.prefix_append _ _)
  handedOut block hblock := by
    rw [holder_init h.begins, Holder.take, allocated_append_alloc, List.mem_append,
      List.mem_singleton] at hblock
    rcases hblock with hblock | rfl
    · exact Nat.lt_succ_of_lt (h.handedOut block hblock)
    · exact Nat.lt_succ_self _
  isSound := by
    rw [holder_init h.begins]
    exact h.isSound.take h.not_mem_allocated

theorem BlockFields.KeepsLedger.destroy {self : BlockFields} {base : ImprintAllocatorWithFree}
    (h : self.KeepsLedger base) : self.destroy.KeepsLedger base where
  begins := h.begins.trans (List.prefix_append _ _)
  handedOut block hblock := by
    rw [holder_destroy h.begins, Holder.drop] at hblock
    refine h.handedOut block ?_
    cases hheld : (self.holder base).held with
    | none => simpa [hheld] using hblock
    | some other => simpa [hheld] using hblock
  isSound := by
    rw [holder_destroy h.begins]
    exact h.isSound.drop

/-- Of the blocks handed out since `base`, those that are live are the one the client holds, and
none has been released twice. -/
def BlocksAreBalanced (base : ImprintAllocatorWithFree) (self : NimbleClient L) : Prop :=
  (self.blockFields.holder base).IsBalanced

structure BlockFields.IsSettled (fields : BlockFields) (base : ImprintAllocatorWithFree) :
    Prop where
  keepsLedger : fields.KeepsLedger base
  balanced : (fields.holder base).IsBalanced

theorem BlockFields.isSettled_empty (base : ImprintAllocatorWithFree) :
    (⟨none, base⟩ : BlockFields).IsSettled base := by
  have hholder : (⟨none, base⟩ : BlockFields).holder base = ⟨none, []⟩ := by
    simp [holder]
  refine ⟨⟨List.prefix_refl _, ?_, ?_⟩, ?_⟩
  · simp [hholder, allocated]
  · rw [hholder]
    exact ⟨.nil, by simp⟩
  · rw [hholder]
    exact ⟨rfl, List.nodup_nil⟩

theorem BlockFields.IsSettled.live_destroy {self : BlockFields} {base : ImprintAllocatorWithFree}
    (h : self.IsSettled base) : live (self.destroy.holder base).entries = ∅ := by
  rw [holder_destroy h.keepsLedger.begins]
  exact h.balanced.live_drop

theorem BlockFields.IsSettled.destroy {self : BlockFields} {base : ImprintAllocatorWithFree}
    (h : self.IsSettled base) : self.destroy.IsSettled base where
  keepsLedger := h.keepsLedger.destroy
  balanced := by
    rw [holder_destroy h.keepsLedger.begins]
    exact h.balanced.drop h.keepsLedger.isSound

/-! ## What a feed does to the blocks -/

/-- Only the adoption of a blob writes the fields. -/
theorem Dispatch.blockFields_outcome (x : Dispatch L) :
    x.outcome.2.blockFields =
      if x.AdoptsBlob then
        x.client.blockFields.init (L.blob (x.client.takePart x.inStream).2.blobStreamIn)
          (L.blobOctetCount (x.client.takePart x.inStream).2.blobStreamIn)
      else x.client.blockFields := by
  have heffect := x.effect
  generalize x.outcome.2 = client at heffect ⊢
  cases heffect with
  | adoptBlob h => exact (if_pos h).symm
  | takePart _ hadopts => exact (if_neg hadopts).symm
  | connect h => exact (if_neg (by simp [AdoptsBlob, TakesPart, h.1])).symm
  | failSteps h => exact (if_neg (by simp [AdoptsBlob, TakesPart, h])).symm
  | takeSteps h => exact (if_neg (by simp [AdoptsBlob, TakesPart, h.1])).symm
  | join h => exact (if_neg (by simp [AdoptsBlob, TakesPart, h.1])).symm
  | startDownload h => exact (if_neg (by simp [AdoptsBlob, TakesPart, h.1])).symm
  | outOfSlots h => exact (if_neg (by simp [AdoptsBlob, TakesPart, h])).symm
  | ignore h => exact (if_neg fun hadopts => h.takesPart hadopts.1).symm

theorem headerKeeps_blockFields : HeaderKeeps (@NimbleClient.blockFields L) :=
  headerKeeps_of fun _ _ _ _ _ _ => rfl

theorem writtenByFeeds_blockFields : WrittenByFeeds (@NimbleClient.blockFields L) :=
  ⟨fun _ _ _ _ _ => rfl, fun _ => rfl, fun _ => rfl, fun _ _ => rfl, fun _ _ => rfl⟩

/-- A blob is adopted by a client that still holds a game state. -/
def LosesBlock (self : NimbleClient L) (datagram : Datagram L) : Prop :=
  ∃ x, dispatch? self datagram = some x ∧ x.AdoptsBlob ∧ self.joinedGameState.gameState.isSome

instance (self : NimbleClient L) (datagram : Datagram L) : Decidable (LosesBlock self datagram) :=
  inferInstanceAs (Decidable (∃ x ∈ dispatch? self datagram, _ ∧ _))

theorem keepsLedger_nimbleClientFeed {self : NimbleClient L} {base : ImprintAllocatorWithFree}
    (h : self.blockFields.KeepsLedger base) (datagram : Datagram L) :
    (nimbleClientFeed self datagram).2.blockFields.KeepsLedger base := by
  cases hx : dispatch? self datagram with
  | none =>
      rw [headerKeeps_blockFields.of_dispatch_eq_none hx]
      exact h
  | some x =>
      rw [nimbleClientFeed_of_dispatch hx, x.blockFields_outcome,
        headerKeeps_blockFields.of_dispatch hx]
      split
      · exact h.init _ _
      · exact h

/-- A feed keeps the balance exactly if no block is lost in it. -/
theorem blocksAreBalanced_nimbleClientFeed_iff {self : NimbleClient L}
    {base : ImprintAllocatorWithFree} (h : self.blockFields.IsSettled base)
    (datagram : Datagram L) :
    BlocksAreBalanced base (nimbleClientFeed self datagram).2 ↔ ¬LosesBlock self datagram := by
  cases hx : dispatch? self datagram with
  | none =>
      rw [BlocksAreBalanced, headerKeeps_blockFields.of_dispatch_eq_none hx]
      exact iff_of_true h.balanced (by simp [LosesBlock, hx])
  | some x =>
      rw [BlocksAreBalanced, nimbleClientFeed_of_dispatch hx, x.blockFields_outcome,
        headerKeeps_blockFields.of_dispatch hx]
      by_cases hadopts : x.AdoptsBlob
      · rw [if_pos hadopts, BlockFields.holder_init h.keepsLedger.begins,
          h.balanced.take_iff h.keepsLedger.not_mem_allocated]
        simp [LosesBlock, hx, hadopts, BlockFields.holder, NimbleClient.blockFields]
      · rw [if_neg hadopts]
        exact iff_of_true h.balanced (by simp [LosesBlock, hx, hadopts])

/-! ## What a call does to the blocks -/

theorem blockFields_freeGameState (self : NimbleClient L) :
    self.freeGameState.blockFields = self.blockFields.destroy := by
  rw [NimbleClient.freeGameState]
  split
  · rfl
  · have hnone : self.joinedGameState.gameState = none := Option.not_isSome_iff_eq_none.mp ‹_›
    simp [NimbleClient.blockFields, BlockFields.destroy, hnone]

theorem blockFields_nimbleClientReset (self : NimbleClient L) (now : MonotonicTimeMs) :
    (nimbleClientReset self now).blockFields = self.blockFields.destroy :=
  blockFields_freeGameState _

/-- The initialization forgets what the memory held. -/
theorem blockFields_nimbleClientInit (self : NimbleClient L)
    (settings : NimbleClientRealizeSettings L) (now : MonotonicTimeMs) :
    (nimbleClientInit self settings now).blockFields = ⟨none, settings.blobMemory⟩ := by
  refine (blockFields_nimbleClientReset _ now).trans ?_
  simp [NimbleClient.blockFields, BlockFields.destroy]

/-- The call that places the client in new memory. -/
def Operation.Initializes : Operation L → Prop
  | .realizeInit _ _ => True
  | _ => False

/-- A call that starts the client over releases what it holds. -/
theorem blockFields_of_restarts (self : NimbleClientRealize L) {operation : Operation L}
    (hrestarts : operation.Restarts) (hinit : ¬operation.Initializes) :
    (performOperation self operation).1.client.blockFields = self.client.blockFields.destroy := by
  cases operation with
  | realizeInit settings now => exact absurd trivial hinit
  | realizeReInit settings now => exact blockFields_nimbleClientReset _ now
  | realizeReset now => exact blockFields_nimbleClientReset _ now
  | reset now => exact blockFields_nimbleClientReset _ now
  | reInit transport now => exact blockFields_nimbleClientReset _ now
  | _ => exact hrestarts.elim

/-- A property of the blocks that a release preserves, and every feed that meets `guard`, is
preserved by the calls whose feeds meet it, and holds in front of each of these feeds. -/
theorem blockFields_invariant_of_guard {inv : BlockFields → Prop}
    {guard : NimbleClient L → Datagram L → Prop}
    (hdestroy : ∀ fields, inv fields → inv fields.destroy)
    (hfeed : ∀ c d, inv c.blockFields → guard c d → inv (nimbleClientFeed c d).2.blockFields)
    {self : NimbleClientRealize L} {operation : Operation L} (hinit : ¬operation.Initializes)
    (hself : inv self.client.blockFields)
    (hguard : ∀ f ∈ operationFeeds self operation, guard f.1 f.2) :
    inv (performOperation self operation).1.client.blockFields ∧
      ∀ f ∈ operationFeeds self operation, inv f.1.blockFields := by
  by_cases hrestarts : operation.Restarts
  · rw [blockFields_of_restarts self hrestarts hinit, operationFeeds_of_restarts self hrestarts]
    exact ⟨hdestroy _ hself, by simp⟩
  exact writtenByFeeds_blockFields.invariant_of_guard hfeed hrestarts hself hguard

/-- A call leaves the ledger sound, and feeds only clients with a sound ledger. -/
theorem keepsLedger_performOperation {self : NimbleClientRealize L}
    {base : ImprintAllocatorWithFree} {operation : Operation L} (hinit : ¬operation.Initializes)
    (h : self.client.blockFields.KeepsLedger base) :
    (performOperation self operation).1.client.blockFields.KeepsLedger base ∧
      ∀ f ∈ operationFeeds self operation, f.1.blockFields.KeepsLedger base :=
  @blockFields_invariant_of_guard _ (fun fields => fields.KeepsLedger base) (fun _ _ => True)
    (fun _ hfields => hfields.destroy) (fun _ d hc _ => keepsLedger_nimbleClientFeed hc d) _ _
    hinit h (fun _ _ => trivial)

/-- As long as no block is lost, it also leaves the blocks balanced. -/
theorem isSettled_performOperation {self : NimbleClientRealize L}
    {base : ImprintAllocatorWithFree} {operation : Operation L} (hinit : ¬operation.Initializes)
    (h : self.client.blockFields.IsSettled base)
    (hloses : ∀ f ∈ operationFeeds self operation, ¬LosesBlock f.1 f.2) :
    (performOperation self operation).1.client.blockFields.IsSettled base ∧
      ∀ f ∈ operationFeeds self operation, f.1.blockFields.IsSettled base :=
  @blockFields_invariant_of_guard _ (fun fields => fields.IsSettled base)
    (fun c d => ¬LosesBlock c d) (fun _ hfields => hfields.destroy)
    (fun _ d hc hd => ⟨keepsLedger_nimbleClientFeed hc.keepsLedger d,
      (blocksAreBalanced_nimbleClientFeed_iff hc d).mpr hd⟩) _ _ hinit h hloses

/-! ## The result -/

/-- The blocks are balanced in front of every call of a run, in front of and behind every datagram,
at the end and when the client is destroyed there. No block is live behind a call that starts the
client over, nor behind the destruction. -/
structure LedgerInvariant (base : ImprintAllocatorWithFree) (start : NimbleClientRealize L)
    (operations : List (Operation L)) : Prop where
  calls : ∀ v ∈ (realizer L).visits start operations, BlocksAreBalanced base v.1.client
  feeds : ∀ v ∈ (realizer L).visits start operations, ∀ f ∈ operationFeeds v.1 v.2,
    BlocksAreBalanced base f.1 ∧ BlocksAreBalanced base (nimbleClientFeed f.1 f.2).2
  last : BlocksAreBalanced base ((realizer L).run start operations).client
  destroyed : BlocksAreBalanced base
    (nimbleClientDestroy ((realizer L).run start operations).client)
  live_of_restarts : ∀ v ∈ (realizer L).visits start operations, v.2.Restarts →
    live ((performOperation v.1 v.2).1.client.blockFields.holder base).entries = ∅
  live_destroyed : live ((nimbleClientDestroy
    ((realizer L).run start operations).client).blockFields.holder base).entries = ∅

/-- In a run behind an initialization the blocks are balanced throughout exactly if no datagram
makes a client adopt a blob that still holds a game state. -/
theorem game_state_blocks (memory : NimbleClient L) (settings : NimbleClientRealizeSettings L)
    (now : MonotonicTimeMs) (start : NimbleClientRealize L)
    (hstart : start.client = nimbleClientInit memory settings now) (operations : List (Operation L))
    (h : ∀ operation ∈ operations, ¬operation.Initializes) :
    LedgerInvariant settings.blobMemory start operations ↔
      ∀ v ∈ (realizer L).visits start operations, ∀ f ∈ operationFeeds v.1 v.2,
        ¬LosesBlock f.1 f.2 := by
  have hsettled : start.client.blockFields.IsSettled settings.blobMemory := by
    rw [hstart, blockFields_nimbleClientInit]
    exact BlockFields.isSettled_empty settings.blobMemory
  have hinit : ∀ v ∈ (realizer L).visits start operations, ¬v.2.Initializes :=
    fun v hv => h v.2 ((realizer L).mem_of_mem_visits hv)
  constructor
  · intro hinvariant v hv f hf
    -- the ledger stays sound, whatever is lost
    have hcalls := @Machine.visits_invariant_of_guard _ _ _ (realizer L)
      (fun r => r.client.blockFields.KeepsLedger settings.blobMemory)
      (fun _ operation => ¬operation.Initializes)
      (fun _ _ hr hinit => (keepsLedger_performOperation hinit hr).1) start operations
      hsettled.keepsLedger hinit
    have hkeeps := (keepsLedger_performOperation (hinit v hv) (hcalls v hv)).2 f hf
    obtain ⟨hbefore, hafter⟩ := hinvariant.feeds v hv f hf
    exact (blocksAreBalanced_nimbleClientFeed_iff ⟨hkeeps, hbefore⟩ f.2).mp hafter
  · intro hloses
    have hstep : ∀ (r : NimbleClientRealize L) operation,
        r.client.blockFields.IsSettled settings.blobMemory →
        (¬operation.Initializes ∧ ∀ f ∈ operationFeeds r operation, ¬LosesBlock f.1 f.2) →
        (performOperation r operation).1.client.blockFields.IsSettled settings.blobMemory :=
      fun _ _ hr hguard => (isSettled_performOperation hguard.1 hr hguard.2).1
    have hguard : ∀ v ∈ (realizer L).visits start operations, ¬v.2.Initializes ∧
        ∀ f ∈ operationFeeds v.1 v.2, ¬LosesBlock f.1 f.2 :=
      fun v hv => ⟨hinit v hv, hloses v hv⟩
    have hcalls := @Machine.visits_invariant_of_guard _ _ _ (realizer L)
      (fun r => r.client.blockFields.IsSettled settings.blobMemory) _ hstep _ operations hsettled
      hguard
    have hlast := @Machine.run_invariant_of_guard _ _ _ (realizer L)
      (fun r => r.client.blockFields.IsSettled settings.blobMemory) _ hstep _ operations hsettled
      hguard
    refine ⟨fun v hv => (hcalls v hv).balanced, fun v hv f hf => ?_, hlast.balanced, ?_,
      fun v hv hrestarts => ?_, ?_⟩
    · have hbefore := (isSettled_performOperation (hinit v hv) (hcalls v hv) (hloses v hv)).2 f hf
      exact ⟨hbefore.balanced,
        (blocksAreBalanced_nimbleClientFeed_iff hbefore f.2).mpr (hloses v hv f hf)⟩
    · rw [BlocksAreBalanced, nimbleClientDestroy, blockFields_freeGameState]
      exact hlast.destroy.balanced
    · rw [blockFields_of_restarts v.1 hrestarts (hinit v hv)]
      exact (hcalls v hv).live_destroy
    · rw [nimbleClientDestroy, blockFields_freeGameState]
      exact hlast.live_destroy

/-! ## Runs on fixed inputs -/

namespace Small

/-- The game state is answered a second time on the same channel. A join response between has
cleared the channel, so the client downloads again. -/
def secondDownload : List (Operation smallLibraries) :=
  syncSession 10 5 ++
    [.realizeUpdate (updateWith [joinResponse 4 3, gameStateResponse 5 10 5]),
      .realizeUpdate (updateWith [blobPart 6 5 0 0xaa])]

/-- The blocks that are live in a client of the runs below. -/
def liveBlocks (self : NimbleClient smallLibraries) : Finset Nat :=
  live (self.blockFields.holder noAllocations).entries

/-- A client that is initialized anew between its two downloads. -/
def freshDownload : List (Operation smallLibraries) :=
  syncSession 10 5 ++ .realizeReInit settings 0 :: syncSession 20 6

end Small

open Nimble.Small

/-- The block 1 has been released, and the block 2 is live. -/
theorem game_state_blocks_freshDownload :
    LedgerInvariant noAllocations (freshRealizer 1) freshDownload ∧
      liveBlocks ((realizer smallLibraries).run (freshRealizer 1) freshDownload).client = {2} :=
  ⟨(game_state_blocks (clientMemory ⟨1, []⟩) settings 0 (freshRealizer 1) rfl _
    (by simp [freshDownload, syncSession, Operation.Initializes])).mpr (by decide +kernel),
    by decide +kernel⟩

/-- The second download replaces the block 1 by the block 2, and nothing releases block 1. -/
theorem game_state_blocks_counterexample :
    let client := ((realizer smallLibraries).run (freshRealizer 1) secondDownload).client
    (freshRealizer 1).client = nimbleClientInit (clientMemory ⟨1, []⟩) settings 0 ∧
      (∀ operation ∈ secondDownload, ¬operation.Initializes) ∧
      client.joinedGameState.gameState.map GameStateBlock.block = some 2 ∧
      liveBlocks client = {1, 2} ∧ liveBlocks (nimbleClientDestroy client) = {1} ∧
      ¬LedgerInvariant noAllocations (freshRealizer 1) secondDownload := by
  intro client
  have hlive : liveBlocks (nimbleClientDestroy client) = {1} := by decide +kernel
  refine ⟨rfl, by simp [secondDownload, syncSession, Operation.Initializes], by decide +kernel,
    by decide +kernel, hlive, fun h => ?_⟩
  have hempty : ({1} : Finset Nat) = ∅ := hlive.symm.trans h.live_destroyed
  exact absurd hempty (by decide)

end Nimble
