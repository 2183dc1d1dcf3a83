import Mathlib.Data.Finset.Basic
import Mathlib.Data.Finset.Dedup
import Nimble.Verification.FeedTrace
import Nimble.Verification.SessionEvents

/-! # The download

The chunks of a blob may arrive in any order and more than once. The client puts them together,
and adopts the game state with the chunk that completes it. -/

namespace Nimble

variable {L : Libraries} {ι : Type*}

/-! ## The server's blob -/

/-- A blob of the server: its octets and its chunks, what it means that a blob stream holds some
of the chunks of this blob, and that a part carries one. -/
structure ServerBlob (L : Libraries) (ι : Type*) where
  octets : List UInt8
  chunks : Finset ι
  Holds : L.BlobStreamIn → Finset ι → Prop
  Carries : FldInStream → ι → Prop

/-- What the blob-stream library is relied on for. -/
structure ServerBlob.Laws [DecidableEq ι] (blob : ServerBlob L ι) : Prop where
  receive : ∀ logic blobStreamIn stream held chunk, blob.Holds blobStreamIn held →
    blob.Carries stream chunk →
      0 ≤ (L.blobStreamLogicInReceive logic blobStreamIn stream).1 ∧
        blob.Holds (L.blobStreamLogicInReceive logic blobStreamIn stream).2.2 (insert chunk held)
  isComplete : ∀ blobStreamIn held, blob.Holds blobStreamIn held →
    (L.blobStreamInIsComplete blobStreamIn = true ↔ held = blob.chunks)
  octets : ∀ blobStreamIn, blob.Holds blobStreamIn blob.chunks →
    (L.blob blobStreamIn).take (L.blobOctetCount blobStreamIn) = blob.octets

/-! ## What the feeds bring -/

/-- The chunk that a feed brings. -/
def takenChunk? (chunkOf : Datagram L → ι) (f : NimbleClient L × Datagram L) : Option ι :=
  (dispatch? f.1 f.2).bind fun x => if x.TakesPart then some (chunkOf f.2) else none

/-- The chunks of the feeds, besides those that the client had. -/
def takenChunks [DecidableEq ι] (chunkOf : Datagram L → ι) (held : Finset ι)
    (fed : List (NimbleClient L × Datagram L)) : Finset ι :=
  held ∪ (fed.filterMap (takenChunk? chunkOf)).toFinset

/-- The parts that the client takes carry chunks of this blob. -/
def ServerBlob.SentIn (blob : ServerBlob L ι) (chunkOf : Datagram L → ι)
    (f : NimbleClient L × Datagram L) : Prop :=
  ∀ x, dispatch? f.1 f.2 = some x → x.TakesPart →
    blob.Carries (L.nimbleSerializeInBlobStreamChannelId x.inStream).stream (chunkOf f.2)

/-- What a download leads to. -/
structure Downloaded (L : Libraries) where
  blobStreamIn : L.BlobStreamIn
  gameState : Option (List UInt8)

def NimbleClient.downloaded (self : NimbleClient L) : Downloaded L :=
  ⟨self.blobStreamIn, self.joinedGameState.gameState.map GameStateBlock.octets⟩

theorem writtenByFeeds_downloaded : WrittenByFeeds (@NimbleClient.downloaded L) :=
  ⟨fun _ _ _ _ _ => rfl, fun _ => rfl, fun _ => rfl, fun _ _ => rfl, fun _ _ => rfl⟩

theorem headerKeeps_downloaded : HeaderKeeps (@NimbleClient.downloaded L) :=
  headerKeeps_of fun _ _ _ _ _ _ => rfl

/-! ## One feed -/

theorem Dispatch.downloaded_of_not_takesPart {x : Dispatch L} (h : ¬x.TakesPart) :
    x.outcome.2.downloaded = x.client.downloaded := by
  have heffect := x.effect
  generalize x.outcome.2 = client at heffect ⊢
  cases heffect with
  | takePart htakes => exact absurd htakes h
  | adoptBlob hadopts => exact absurd hadopts.1 h
  | _ => rfl

theorem Dispatch.outcome_of_takesPart {x : Dispatch L} (h : x.TakesPart)
    (hadopts : ¬x.AdoptsBlob) : x.outcome.2 = (x.client.takePart x.inStream).2 := by
  rw [outcome_serverOutBlobStream h.1, nimbleClientOnDownloadGameStatePart_snd,
    if_neg (not_not.mpr h.2)]
  split
  · rename_i hcompletes
    have hsynced : (x.client.takePart x.inStream).2.state = .synced :=
      not_not.mp fun hstate => hadopts ⟨h, hcompletes, hstate⟩
    rw [trySetInitialGameState_of_synced hsynced]
  · rfl

section

variable [DecidableEq ι] {blob : ServerBlob L ι} {held : Finset ι}

/-- The part is taken in without an error, and with its chunk the blob may be complete. -/
theorem ServerBlob.Laws.adoptsBlob_iff (hlaws : blob.Laws) {x : Dispatch L} {chunk : ι}
    (hholds : blob.Holds x.client.blobStreamIn held)
    (hcarries : x.TakesPart →
      blob.Carries (L.nimbleSerializeInBlobStreamChannelId x.inStream).stream chunk) :
    x.AdoptsBlob ↔
      x.TakesPart ∧ x.client.state ≠ .synced ∧ insert chunk held = blob.chunks := by
  have hcompletes : x.TakesPart →
      (x.client.CompletesBlob x.inStream ↔ insert chunk held = blob.chunks) := by
    intro htakes
    obtain ⟨hcode, hafter⟩ := hlaws.receive x.client.blobStreamInLogic _ _ _ _ hholds
      (hcarries htakes)
    rw [← hlaws.isComplete _ _ hafter]
    exact ⟨fun h => h.2, fun h => ⟨hcode, h⟩⟩
  constructor
  · rintro ⟨htakes, hcomplete, hstate⟩
    exact ⟨htakes, hstate, (hcompletes htakes).mp hcomplete⟩
  · rintro ⟨htakes, hstate, hall⟩
    exact ⟨htakes, (hcompletes htakes).mpr hall, hstate⟩

/-- A part that is taken adds its chunk, and the game state is adopted when it adds the last. -/
theorem ServerBlob.Laws.outcome (hlaws : blob.Laws) {x : Dispatch L} {chunk : ι}
    (hholds : blob.Holds x.client.blobStreamIn held)
    (hcarries : x.TakesPart →
      blob.Carries (L.nimbleSerializeInBlobStreamChannelId x.inStream).stream chunk) :
    blob.Holds x.outcome.2.blobStreamIn (if x.TakesPart then insert chunk held else held) ∧
      x.outcome.2.downloaded.gameState =
        if x.AdoptsBlob then some blob.octets else x.client.downloaded.gameState := by
  by_cases htakes : x.TakesPart
  · have hreceives : blob.Holds (x.client.takePart x.inStream).2.blobStreamIn
        (insert chunk held) :=
      (hlaws.receive x.client.blobStreamInLogic _ _ _ _ hholds (hcarries htakes)).2
    rw [if_pos htakes]
    by_cases hadopts : x.AdoptsBlob
    · rw [if_pos hadopts, x.outcome_of_adoptsBlob hadopts]
      refine ⟨hreceives, ?_⟩
      rw [((hlaws.adoptsBlob_iff hholds hcarries).mp hadopts).2.2] at hreceives
      exact congrArg some (hlaws.octets _ hreceives)
    · rw [if_neg hadopts, x.outcome_of_takesPart htakes hadopts]
      exact ⟨hreceives, rfl⟩
  · have hsame := Dispatch.downloaded_of_not_takesPart htakes
    have hblob : x.outcome.2.blobStreamIn = x.client.blobStreamIn :=
      congrArg Downloaded.blobStreamIn hsame
    rw [if_neg htakes, if_neg fun h : x.AdoptsBlob => htakes h.1, hsame, hblob]
    exact ⟨hholds, rfl⟩

/-- What a feed does, in terms of the chunk that it brings. -/
theorem ServerBlob.Laws.feed (hlaws : blob.Laws) {chunkOf : Datagram L → ι}
    {f : NimbleClient L × Datagram L} (hholds : blob.Holds f.1.blobStreamIn held)
    (hsent : blob.SentIn chunkOf f) :
    blob.Holds (nimbleClientFeed f.1 f.2).2.blobStreamIn (takenChunks chunkOf held [f]) ∧
      ((SessionEvent.feed f.1 f.2).Adopts ↔ (takenChunk? chunkOf f).isSome = true ∧
        f.1.state ≠ .synced ∧ takenChunks chunkOf held [f] = blob.chunks) ∧
      ((SessionEvent.feed f.1 f.2).Adopts →
        (nimbleClientFeed f.1 f.2).2.downloaded.gameState = some blob.octets) ∧
      (¬(SessionEvent.feed f.1 f.2).Adopts →
        (nimbleClientFeed f.1 f.2).2.downloaded.gameState = f.1.downloaded.gameState) := by
  cases hx : dispatch? f.1 f.2 with
  | none =>
      have hsame := headerKeeps_downloaded.of_dispatch_eq_none hx
      have hblob : (nimbleClientFeed f.1 f.2).2.blobStreamIn = f.1.blobStreamIn :=
        congrArg Downloaded.blobStreamIn hsame
      have hadopts : ¬(SessionEvent.feed f.1 f.2).Adopts := by
        rintro ⟨x, hsome, _⟩
        rw [hx] at hsome
        cases hsome
      simp [takenChunks, takenChunk?, hx, hblob, hholds, hsame, hadopts]
  | some x =>
      have hclient : x.client.downloaded = f.1.downloaded := headerKeeps_downloaded.of_dispatch hx
      have hblob : x.client.blobStreamIn = f.1.blobStreamIn :=
        congrArg Downloaded.blobStreamIn hclient
      have hstate : x.client.state = f.1.state :=
        congrArg ProtocolState.state (protocolState_of_dispatch hx)
      rw [← hblob] at hholds
      obtain ⟨hafter, hgame⟩ := hlaws.outcome hholds (hsent x hx)
      have hiff := hlaws.adoptsBlob_iff hholds (hsent x hx)
      have hadopts : (SessionEvent.feed f.1 f.2).Adopts ↔ x.AdoptsBlob := by
        simp [SessionEvent.Adopts, SessionEvent.Feeds, hx]
      have htaken : takenChunks chunkOf held [f] =
          if x.TakesPart then insert (chunkOf f.2) held else held := by
        by_cases htakes : x.TakesPart
        · simp [takenChunks, takenChunk?, hx, htakes]
        · simp [takenChunks, takenChunk?, hx, htakes]
      rw [nimbleClientFeed_of_dispatch hx, hadopts, htaken]
      refine ⟨hafter, ?_, fun h => ?_, fun h => ?_⟩
      · rw [hiff, hstate]
        by_cases htakes : x.TakesPart <;> simp [takenChunk?, hx, htakes]
      · rw [hgame, if_pos h]
      · rw [hgame, if_neg h, hclient]

/-! ## A run -/

theorem takenChunks_append (chunkOf : Datagram L → ι) (held : Finset ι)
    (fed more : List (NimbleClient L × Datagram L)) :
    takenChunks chunkOf held (fed ++ more) =
      takenChunks chunkOf (takenChunks chunkOf held fed) more := by
  simp [takenChunks, List.filterMap_append, List.toFinset_append, Finset.union_assoc]

/-- Along the feeds the blob stream holds the chunks that they bring, and the game state is the
blob from the first adoption on. -/
theorem ServerBlob.Laws.of_trace (hlaws : blob.Laws) {chunkOf : Datagram L → ι}
    {fed : List (NimbleClient L × Datagram L)} {start after : Downloaded L}
    (h : Trace (FeedStep NimbleClient.downloaded) start fed after)
    (hholds : blob.Holds start.blobStreamIn held) (hsent : ∀ f ∈ fed, blob.SentIn chunkOf f) :
    blob.Holds after.blobStreamIn (takenChunks chunkOf held fed) ∧
      ((∃ f ∈ fed, (SessionEvent.feed f.1 f.2).Adopts) → after.gameState = some blob.octets) ∧
      ((¬∃ f ∈ fed, (SessionEvent.feed f.1 f.2).Adopts) → after.gameState = start.gameState) := by
  induction fed using List.reverseRecOn generalizing after with
  | nil =>
      rw [h.eq_of_nil]
      simpa [takenChunks] using hholds
  | append_singleton fed f ih =>
      obtain ⟨_, hbefore, rfl, rfl⟩ := h.last
      obtain ⟨hmiddle, hadopted, hkept⟩ := ih hbefore fun f hf =>
        hsent f (List.mem_append_left _ hf)
      obtain ⟨hafter, _, hadopts, hkeeps⟩ := hlaws.feed hmiddle (hsent f (by simp))
      rw [takenChunks_append]
      refine ⟨hafter, ?_, ?_⟩
      · rintro ⟨g, hg, hgadopts⟩
        by_cases hlast : (SessionEvent.feed f.1 f.2).Adopts
        · exact hadopts hlast
        · have hgfed : g ∈ fed := by
            rcases List.mem_append.mp hg with hg | hg
            · exact hg
            · rw [List.mem_singleton.mp hg] at hgadopts
              exact absurd hgadopts hlast
          exact (hkeeps hlast).trans (hadopted ⟨g, hgfed, hgadopts⟩)
      · intro hnone
        have hlast : ¬(SessionEvent.feed f.1 f.2).Adopts := fun hf => hnone ⟨f, by simp, hf⟩
        exact (hkeeps hlast).trans (hkept fun ⟨g, hg, hgadopts⟩ =>
          hnone ⟨g, List.mem_append_left _ hg, hgadopts⟩)

/-- Whatever the order in which the chunks of the server's blob arrive, and however often: the
blob stream holds those that the client has taken. A feed adopts the game state exactly when it
brings a chunk to a client that is not synced and then none is missing, and the game state of a
client that has adopted one is the whole blob. -/
theorem download_reassembles (hlaws : blob.Laws) (chunkOf : Datagram L → ι)
    (start : NimbleClientRealize L) (hholds : blob.Holds start.client.blobStreamIn held)
    (operations : List (Operation L)) (h : ∀ operation ∈ operations, ¬operation.Restarts)
    (hsent : ∀ f ∈ runFeeds start operations, blob.SentIn chunkOf f) :
    let client := ((realizer L).run start operations).client
    blob.Holds client.blobStreamIn (takenChunks chunkOf held (runFeeds start operations)) ∧
      (∀ past f future, runFeeds start operations = past ++ f :: future →
        ((SessionEvent.feed f.1 f.2).Adopts ↔ (takenChunk? chunkOf f).isSome = true ∧
          f.1.state ≠ .synced ∧ takenChunks chunkOf held (past ++ [f]) = blob.chunks)) ∧
      ((∃ f ∈ runFeeds start operations, (SessionEvent.feed f.1 f.2).Adopts) →
        client.joinedGameState.gameState.map GameStateBlock.octets = some blob.octets) ∧
      ((¬∃ f ∈ runFeeds start operations, (SessionEvent.feed f.1 f.2).Adopts) →
        client.joinedGameState.gameState.map GameStateBlock.octets =
          start.client.joinedGameState.gameState.map GameStateBlock.octets) := by
  intro client
  have htrace := writtenByFeeds_downloaded.trace_run start h
  obtain ⟨hafter, hadopted, hkept⟩ := hlaws.of_trace htrace hholds hsent
  refine ⟨hafter, fun past f future hfeeds => ?_, hadopted, hkept⟩
  rw [hfeeds] at htrace hsent
  obtain ⟨_, hpast, hrest⟩ := htrace.split
  obtain ⟨_, ⟨rfl, _⟩, _⟩ := hrest.head
  have hbefore := (hlaws.of_trace hpast hholds fun f hf =>
    hsent f (List.mem_append_left _ hf)).1
  rw [takenChunks_append]
  exact (hlaws.feed hbefore (hsent f (by simp))).2.1

end

/-! ## A download in disorder -/

namespace Small

/-- The blob stream is one for these octets, and holds the chunks of these indices. -/
structure Blob.HoldsOf (octets : List UInt8) (b : Blob) (held : Finset Nat) : Prop where
  chunkCount : b.chunkCount = octets.length
  nodup : (b.chunks.map Prod.fst).Nodup
  indices : (b.chunks.map Prod.fst).toFinset = held
  right : ∀ chunk ∈ b.chunks, octets[chunk.1]? = some chunk.2

/-- The blob with these octets, one in each chunk. -/
def serverBlob (octets : List UInt8) : ServerBlob smallLibraries Nat where
  octets := octets
  chunks := Finset.range octets.length
  Holds := Blob.HoldsOf octets
  Carries stream chunk := (stream.octets.drop stream.pos)[0]?.map UInt8.toNat = some chunk ∧
    chunk < octets.length ∧ (stream.octets.drop stream.pos)[1]? = octets[chunk]?

instance (octets : List UInt8) (stream : FldInStream) (chunk : Nat) :
    Decidable ((serverBlob octets).Carries stream chunk) :=
  inferInstanceAs (Decidable (_ ∧ _ ∧ _))

/-- A chunk is looked up in the octets. -/
theorem Blob.HoldsOf.lookup {octets : List UInt8} {b : Blob} {held : Finset Nat}
    (h : b.HoldsOf octets held) (i : Nat) :
    b.chunks.lookup i = if i ∈ held then octets[i]? else none := by
  have hmem : i ∈ held ↔ ∃ chunk ∈ b.chunks, chunk.1 = i := by
    simp [← h.indices]
  cases hlookup : b.chunks.lookup i with
  | none =>
      rw [List.lookup_eq_none_iff] at hlookup
      rw [if_neg]
      rw [hmem]
      rintro ⟨chunk, hchunk, rfl⟩
      simpa using hlookup chunk hchunk
  | some octet =>
      obtain ⟨before, after, hchunks, _⟩ := List.lookup_eq_some_iff.mp hlookup
      have hchunk : (i, octet) ∈ b.chunks := by simp [hchunks]
      rw [if_pos (hmem.mpr ⟨_, hchunk, rfl⟩)]
      exact (h.right _ hchunk).symm

theorem filterMap_range_getElem? (octets : List UInt8) :
    (List.range octets.length).filterMap (fun i => octets[i]?) = octets := by
  induction octets using List.reverseRecOn with
  | nil => rfl
  | append_singleton octets octet ih =>
      rw [List.length_append, List.length_singleton, List.range_succ, List.filterMap_append]
      have hbefore : ∀ i ∈ List.range octets.length, (octets ++ [octet])[i]? = octets[i]? :=
        fun i hi => List.getElem?_append_left (List.mem_range.mp hi)
      rw [List.filterMap_congr hbefore, ih]
      simp

theorem Blob.HoldsOf.receive {octets : List UInt8} {b : Blob} {held : Finset Nat} {chunk : Nat}
    {stream : FldInStream} (h : b.HoldsOf octets held)
    (hcarries : (serverBlob octets).Carries stream chunk) :
    0 ≤ (b.receive stream).1 ∧ (b.receive stream).2.2.HoldsOf octets (insert chunk held) := by
  obtain ⟨hindex, hchunk, hoctet⟩ := hcarries
  rw [Blob.receive]
  match hoctets : stream.octets.drop stream.pos, hindex, hoctet with
  | index :: octet :: rest, hindex, hoctet =>
    obtain rfl : index.toNat = chunk := by simpa using hindex
    have hright : octets[index.toNat]? = some octet := by simpa using hoctet.symm
    dsimp only
    rw [if_neg (by rw [h.chunkCount]; omega), h.lookup]
    by_cases hheld : index.toNat ∈ held
    · rw [if_pos hheld, hright, Finset.insert_eq_of_mem hheld]
      exact ⟨le_rfl, h⟩
    · rw [if_neg hheld]
      refine ⟨le_rfl, h.chunkCount, ?_, ?_, ?_⟩
      · rw [← h.indices] at hheld
        simpa [h.nodup] using hheld
      · simp [← h.indices]
      · intro c hc
        rcases List.mem_cons.mp hc with rfl | hc
        · exact hright
        · exact h.right c hc
  | [_], _, hoctet => simp [hchunk] at hoctet
  | [], hindex, _ => simp at hindex

theorem laws_serverBlob {octets : List UInt8} (h : octets ≠ []) : (serverBlob octets).Laws where
  receive _ _ _ _ _ hholds hcarries := hholds.receive hcarries
  isComplete b held hholds := by
    have hcard : b.chunks.length = held.card := by
      rw [← hholds.indices, List.toFinset_card_of_nodup hholds.nodup, List.length_map]
    have hsubset : held ⊆ Finset.range octets.length := by
      intro i hi
      rw [← hholds.indices, List.mem_toFinset] at hi
      obtain ⟨chunk, hchunk, rfl⟩ := List.mem_map.mp hi
      exact Finset.mem_range.mpr (List.getElem?_eq_some_iff.mp (hholds.right chunk hchunk)).1
    change decide (0 < b.chunkCount ∧ b.chunks.length = b.chunkCount) = true ↔
      held = Finset.range octets.length
    rw [decide_eq_true_eq, hholds.chunkCount, hcard]
    constructor
    · rintro ⟨_, hfull⟩
      exact Finset.eq_of_subset_of_card_le hsubset (by rw [Finset.card_range, hfull])
    · rintro rfl
      exact ⟨List.length_pos_of_ne_nil h, Finset.card_range _⟩
  octets b hholds := by
    change ((List.range b.chunkCount).filterMap fun i => b.chunks.lookup i).take b.chunkCount =
      octets
    have hlookup : ∀ i ∈ List.range octets.length, b.chunks.lookup i = octets[i]? := by
      intro i hi
      rw [hholds.lookup]
      exact if_pos (Finset.mem_range.mpr (List.mem_range.mp hi))
    rw [hholds.chunkCount, List.filterMap_congr hlookup, filterMap_range_getElem?, List.take_length]

/-- The index of the chunk in a part. -/
def chunkIndex (datagram : Datagram smallLibraries) : Nat :=
  (datagram.octets[6]?.getD 0).toNat

/-- A blob of two chunks, of which the second comes first, and twice. -/
def disorderedDownload : List (Operation smallLibraries) :=
  [.realizeJoinGame (0 : UInt8), .realizeUpdate (updateWith []),
    .realizeUpdate (updateWith [connectResponse 1]),
    .realizeUpdate (updateWith [gameStateResponse 2 10 5, blobPart 3 5 1 0xbb]),
    .realizeUpdate (updateWith [blobPart 4 5 1 0xbb]),
    .realizeUpdate (updateWith [blobPart 5 5 0 0xaa])]

end Small

open Nimble.Small

theorem download_reassembles_disordered :
    ((realizer smallLibraries).run (freshRealizer 2)
        disorderedDownload).client.joinedGameState.gameState.map GameStateBlock.octets =
      some [0xaa, 0xbb] := by
  have hsent : ∀ f ∈ runFeeds (freshRealizer 2) disorderedDownload, ∀ x ∈ dispatch? f.1 f.2,
      x.TakesPart → (serverBlob [0xaa, 0xbb]).Carries
        (smallLibraries.nimbleSerializeInBlobStreamChannelId x.inStream).stream
        (chunkIndex f.2) := by
    decide +kernel
  have hadopts : ∃ f ∈ runFeeds (freshRealizer 2) disorderedDownload,
      ∃ x ∈ dispatch? f.1 f.2, x.AdoptsBlob := by
    decide +kernel
  obtain ⟨f, hf, x, hx, hadopts⟩ := hadopts
  exact (download_reassembles (laws_serverBlob (List.cons_ne_nil _ _)) chunkIndex (freshRealizer 2)
    (⟨rfl, List.nodup_nil, rfl, by simp⟩ : Blob.HoldsOf [0xaa, 0xbb] ⟨2, []⟩ ∅) disorderedDownload
    (by simp [disorderedDownload, Operation.Restarts]) hsent).2.2.1 ⟨f, hf, x, hx, hadopts⟩

end Nimble
