import Mathlib.Data.List.Nodup
import Nimble.Model.SmallLibraries
import Nimble.Verification.Update

/-! # The participant table

What a join response writes, what a lookup finds, and what a run makes of the table. -/

namespace Nimble

variable {L : Libraries}

/-! ## The table -/

structure ParticipantTable where
  localParticipantLookup : Vector NimbleClientParticipantEntry nimbleClientMaxLocalUsersCount
  localParticipantCount : Nat
  deriving DecidableEq

def NimbleClient.participantTable (self : NimbleClient L) : ParticipantTable :=
  ⟨self.localParticipantLookup, self.localParticipantCount⟩

/-- The table of a client that has been reset. -/
def ParticipantTable.empty : ParticipantTable :=
  ⟨Vector.replicate nimbleClientMaxLocalUsersCount ⟨false, 0, 0⟩, 0⟩

/-- The table after a join response with these participants. -/
def ParticipantTable.assign (table : ParticipantTable)
    (participants : List NimbleSerializeJoinGameResponseParticipant) : ParticipantTable :=
  ⟨writeParticipants table.localParticipantLookup 0 participants, participants.length⟩

/-- The write loop puts the participants in order, and leaves the other entries alone. -/
theorem getElem_writeParticipants
    (table : Vector NimbleClientParticipantEntry nimbleClientMaxLocalUsersCount) (i : Nat)
    (participants : List NimbleSerializeJoinGameResponseParticipant) {j : Nat}
    (hj : j < nimbleClientMaxLocalUsersCount) :
    (writeParticipants table i participants)[j] =
      if i ≤ j then ((participants[j - i]?).map participantEntry).getD table[j] else table[j] := by
  induction participants generalizing table i with
  | nil => simp [writeParticipants]
  | cons participant rest ih =>
      rw [writeParticipants, ih]
      rcases Nat.lt_trichotomy i j with h | rfl | h
      · have hnext : j - i = j - (i + 1) + 1 := by omega
        rw [if_pos (Nat.succ_le_of_lt h), if_pos h.le, hnext, List.getElem?_cons_succ,
          Vector.getElem_setIfInBounds_ne _ h.ne]
      · simp
      · rw [if_neg (by omega), if_neg (by omega), Vector.getElem_setIfInBounds_ne _ h.ne']

theorem ParticipantTable.getElem_assign (table : ParticipantTable)
    (participants : List NimbleSerializeJoinGameResponseParticipant) {i : Nat}
    (hi : i < nimbleClientMaxLocalUsersCount) :
    (table.assign participants).localParticipantLookup[i] =
      ((participants[i]?).map participantEntry).getD table.localParticipantLookup[i] := by
  rw [assign, getElem_writeParticipants _ _ _ hi, if_pos (Nat.zero_le i), Nat.sub_zero]

/-! ## Lookups -/

/-- A search by index is a search of the list. -/
theorem findSome?_range_length {α β : Type*} (items : List α) (f : α → Option β) :
    ((List.range items.length).findSome? fun i => (items[i]?).bind f) = items.findSome? f := by
  induction items with
  | nil => rfl
  | cons item items ih =>
      rw [List.length_cons, List.range_succ_eq_map, List.findSome?_cons, List.findSome?_cons,
        List.findSome?_map]
      simp only [List.getElem?_cons_zero, Option.bind_some, Function.comp_def,
        List.getElem?_cons_succ, ih]

theorem findSome?_congr {α β : Type*} {items : List α} {f g : α → Option β}
    (h : ∀ a ∈ items, f a = g a) : items.findSome? f = items.findSome? g := by
  induction items with
  | nil => rfl
  | cons item items ih =>
      rw [List.forall_mem_cons] at h
      rw [List.findSome?_cons, List.findSome?_cons, h.1, ih h.2]

/-- In a table that a join response with room for all has written, the search loop finds the first
of its participants with the index. -/
theorem findParticipant_of_assign {self : NimbleClient L} {table : ParticipantTable}
    {participants : List NimbleSerializeJoinGameResponseParticipant}
    (htable : self.participantTable = table.assign participants)
    (hroom : participants.length ≤ nimbleClientMaxLocalUsersCount) (deviceIndex : UInt8) :
    findParticipant self deviceIndex =
      participants.findSome? fun participant => (some (participantEntry participant)).filter
        fun entry => entry.localUserDeviceIndex = deviceIndex := by
  have hlookup : self.localParticipantLookup =
      (table.assign participants).localParticipantLookup :=
    congrArg ParticipantTable.localParticipantLookup htable
  have hcount : self.localParticipantCount = participants.length :=
    congrArg ParticipantTable.localParticipantCount htable
  rw [findParticipant, hlookup, hcount, ← findSome?_range_length participants]
  apply findSome?_congr
  intro i hi
  have hlt : i < participants.length := List.mem_range.mp hi
  rw [Vector.getElem?_eq_getElem (Nat.lt_of_lt_of_le hlt hroom), ParticipantTable.getElem_assign,
    List.getElem?_eq_getElem hlt]
  rfl

/-- A response with a place in the table for every participant, octets for the local indices and
ids, and no local index twice. -/
structure FitsTable
    (response : NimbleSerializeJoinGameResponse L.NimbleSerializePartyAndSessionSecret) : Prop where
  room : response.participantCount ≤ nimbleClientMaxLocalUsersCount
  octets : ∀ participant ∈ response.participants,
    participant.localIndex < 256 ∧ participant.participantId < 256
  distinct : (response.participants.map fun participant => participant.localIndex).Nodup

/-- Lookups return what the response assigns. -/
structure LookupSpec (client : NimbleClient L)
    (response : NimbleSerializeJoinGameResponse L.NimbleSerializePartyAndSessionSecret) : Prop where
  found : ∀ participant ∈ response.participants, ∀ deviceIndex : UInt8,
    participant.localIndex = deviceIndex.toNat →
      (nimbleClientFindParticipantId client deviceIndex).1 = 1 ∧
        (nimbleClientFindParticipantId client deviceIndex).2.toNat = participant.participantId
  missing : ∀ deviceIndex : UInt8,
    (∀ participant ∈ response.participants, participant.localIndex ≠ deviceIndex.toNat) →
      nimbleClientFindParticipantId client deviceIndex = (-1, 0xff)

theorem localUserDeviceIndex_participantEntry_iff
    {participant : NimbleSerializeJoinGameResponseParticipant}
    (h : participant.localIndex < 256) (deviceIndex : UInt8) :
    (participantEntry participant).localUserDeviceIndex = deviceIndex ↔
      participant.localIndex = deviceIndex.toNat := by
  rw [participantEntry, ← UInt8.toNat_inj, UInt8.toNat_ofNat', Nat.mod_eq_of_lt h]

/-- The first participant with an index is the only one. -/
theorem lookupSpec_of_assign {client : NimbleClient L} {table : ParticipantTable}
    {response : NimbleSerializeJoinGameResponse L.NimbleSerializePartyAndSessionSecret}
    (hfits : FitsTable response)
    (htable : client.participantTable = table.assign response.participants) :
    LookupSpec client response := by
  have hfind := findParticipant_of_assign htable hfits.room
  constructor
  · intro participant hmem deviceIndex hindex
    cases hfound : findParticipant client deviceIndex with
    | none =>
        rw [hfind, List.findSome?_eq_none_iff] at hfound
        have hskipped := hfound participant hmem
        rw [← localUserDeviceIndex_participantEntry_iff (hfits.octets participant hmem).1] at hindex
        simp [hindex] at hskipped
    | some entry =>
        have hresult : nimbleClientFindParticipantId client deviceIndex =
            (1, entry.participantId) := by
          rw [nimbleClientFindParticipantId, hfound]
        rw [hfind] at hfound
        obtain ⟨other, hother, hfilter⟩ := List.exists_of_findSome?_eq_some hfound
        rw [Option.filter_eq_some_iff] at hfilter
        obtain ⟨hentry, hsame⟩ := hfilter
        obtain rfl := Option.some.inj hentry
        have hsame' := (localUserDeviceIndex_participantEntry_iff
          (hfits.octets other hother).1 deviceIndex).mp (of_decide_eq_true hsame)
        have honly : other = participant := List.inj_on_of_nodup_map hfits.distinct hother hmem
          (hsame'.trans hindex.symm)
        rw [hresult, honly, participantEntry]
        refine ⟨rfl, ?_⟩
        rw [UInt8.toNat_ofNat', Nat.mod_eq_of_lt (hfits.octets participant hmem).2]
  · intro deviceIndex hmissing
    have hnone : findParticipant client deviceIndex = none := by
      rw [hfind, List.findSome?_eq_none_iff]
      intro participant hmem
      have hother := hmissing participant hmem
      rw [Ne, ← localUserDeviceIndex_participantEntry_iff
        (hfits.octets participant hmem).1] at hother
      simp [hother]
    rw [nimbleClientFindParticipantId, hnone]

/-! ## The table along a run -/

/-- The response of a dispatched join response. -/
def Dispatch.joinResponse (x : Dispatch L) :
    NimbleSerializeJoinGameResponse L.NimbleSerializePartyAndSessionSecret :=
  (joinFields x.inStream x.locals).2

/-- Only an accepted join response changes the table. -/
theorem Dispatch.participantTable_outcome (x : Dispatch L) :
    x.outcome.2.participantTable =
      if x.Joins then x.client.participantTable.assign x.joinResponse.participants
      else x.client.participantTable := by
  have heffect := x.effect
  generalize x.outcome.2 = client at heffect ⊢
  cases heffect with
  | join h => exact (if_pos h).symm
  | ignore h => exact (if_neg h.joins).symm
  | connect h => exact (if_neg (by simp [Joins, h.1])).symm
  | takePart h => exact (if_neg (by simp [Joins, h.1])).symm
  | adoptBlob h => exact (if_neg (by simp [Joins, h.1.1])).symm
  | takeSteps h => exact (if_neg (by simp [Joins, h.1])).symm
  | failSteps h => exact (if_neg (by simp [Joins, h])).symm
  | startDownload h => exact (if_neg (by simp [Joins, h.1])).symm
  | outOfSlots h => exact (if_neg (by simp [Joins, h])).symm

theorem headerKeeps_participantTable : HeaderKeeps (@NimbleClient.participantTable L) :=
  headerKeeps_of fun _ _ _ _ _ _ => rfl

theorem writtenByFeeds_participantTable : WrittenByFeeds (@NimbleClient.participantTable L) :=
  ⟨fun _ _ _ _ _ => rfl, fun _ => rfl, fun _ => rfl, fun _ _ => rfl, fun _ _ => rfl⟩

/-- The join response that a feed accepts. -/
def joined? (client : NimbleClient L) (datagram : Datagram L) :
    Option (NimbleSerializeJoinGameResponse L.NimbleSerializePartyAndSessionSecret) :=
  (dispatch? client datagram).bind fun x => if x.Joins then some x.joinResponse else none

theorem joined?_eq_some_iff {client : NimbleClient L} {datagram : Datagram L}
    {response : NimbleSerializeJoinGameResponse L.NimbleSerializePartyAndSessionSecret} :
    joined? client datagram = some response ↔
      ∃ x, dispatch? client datagram = some x ∧ x.Joins ∧ x.joinResponse = response := by
  simp only [joined?, Option.bind_eq_some_iff, Option.ite_none_right_eq_some, Option.some.injEq]

/-- The table that the accepted join responses of some feeds make of another. -/
def tableAfter (table : ParticipantTable) (fed : List (NimbleClient L × Datagram L)) :
    ParticipantTable :=
  (fed.filterMap fun f => joined? f.1 f.2).foldl
    (fun table response => table.assign response.participants) table

@[simp] theorem tableAfter_nil (table : ParticipantTable) :
    tableAfter table ([] : List (NimbleClient L × Datagram L)) = table := rfl

theorem tableAfter_append (table : ParticipantTable)
    (before after : List (NimbleClient L × Datagram L)) :
    tableAfter table (before ++ after) = tableAfter (tableAfter table before) after := by
  rw [tableAfter, List.filterMap_append, List.foldl_append]
  rfl

theorem tableAfter_cons (table : ParticipantTable) (f : NimbleClient L × Datagram L)
    (fed : List (NimbleClient L × Datagram L)) :
    tableAfter table (f :: fed) = tableAfter (tableAfter table [f]) fed :=
  tableAfter_append table [f] fed

theorem tableAfter_of_joined {table : ParticipantTable} {f : NimbleClient L × Datagram L}
    {response : NimbleSerializeJoinGameResponse L.NimbleSerializePartyAndSessionSecret}
    (h : joined? f.1 f.2 = some response) :
    tableAfter table [f] = table.assign response.participants := by
  simp [tableAfter, h]

theorem tableAfter_of_none {table : ParticipantTable} {fed : List (NimbleClient L × Datagram L)}
    (h : ∀ f ∈ fed, joined? f.1 f.2 = none) : tableAfter table fed = table := by
  rw [tableAfter, List.filterMap_eq_nil_iff.mpr h]
  rfl

theorem participantTable_nimbleClientFeed (self : NimbleClient L) (datagram : Datagram L) :
    (nimbleClientFeed self datagram).2.participantTable =
      tableAfter self.participantTable [(self, datagram)] := by
  cases hx : dispatch? self datagram with
  | none =>
      rw [headerKeeps_participantTable.of_dispatch_eq_none hx, tableAfter_of_none]
      simp [joined?, hx]
  | some x =>
      rw [nimbleClientFeed_of_dispatch hx, x.participantTable_outcome,
        headerKeeps_participantTable.of_dispatch hx]
      split
      · exact (tableAfter_of_joined (joined?_eq_some_iff.mpr ⟨x, hx, ‹_›, rfl⟩)).symm
      · rw [tableAfter_of_none]
        simp [joined?, *]

theorem participantTable_receiveLoop (self : NimbleClient L) (count : Nat)
    (queue : List (Received L)) :
    (receiveLoop self count queue).client.participantTable =
      tableAfter self.participantTable (feeds self queue) := by
  induction queue generalizing self count with
  | nil => rfl
  | cons received queue ih =>
      cases received with
      | error code => rfl
      | datagram datagram =>
          by_cases hoctets : datagram.octets = []
          · rw [feeds_of_empty hoctets, receiveLoop_of_empty hoctets]
            exact rfl
          have hfed := participantTable_nimbleClientFeed self.countPacketIn datagram
          rw [receiveLoop_datagram hoctets, feeds_datagram hoctets, tableAfter_cons]
          change _ = tableAfter (tableAfter self.countPacketIn.participantTable _) _
          rw [← hfed]
          split
          · rfl
          · exact ih _ (count + 1)

theorem participantTable_beginUpdate (self : NimbleClient L) (now : MonotonicTimeMs) :
    (beginUpdate self now).participantTable = self.participantTable := by
  obtain ⟨_, _, _, _, h⟩ := beginUpdate_eq self now
  rw [h]
  rfl

theorem participantTable_nimbleClientUpdate (self : NimbleClient L) (input : UpdateInput L) :
    (nimbleClientUpdate self input).client.participantTable =
      tableAfter self.participantTable (feeds (beginUpdate self input.now) input.queue) := by
  obtain ⟨_, h⟩ := client_nimbleClientUpdate self input
  rw [h, ← participantTable_beginUpdate self input.now]
  exact participantTable_receiveLoop _ 0 input.queue

theorem participantTable_nimbleClientReset (self : NimbleClient L) (now : MonotonicTimeMs) :
    (nimbleClientReset self now).participantTable = .empty := by
  rw [nimbleClientReset]
  dsimp only
  obtain ⟨_, _, h⟩ := freeGameState_eq _
  rw [h]
  rfl

/-- The calls that start the client over clear the table. -/
theorem participantTable_of_restarts (self : NimbleClientRealize L) {operation : Operation L}
    (h : operation.Restarts) :
    (performOperation self operation).1.client.participantTable = .empty := by
  cases operation with
  | realizeInit settings now => exact participantTable_nimbleClientReset _ now
  | realizeReInit settings now => exact participantTable_nimbleClientReset _ now
  | realizeReset now => exact participantTable_nimbleClientReset _ now
  | reset now => exact participantTable_nimbleClientReset _ now
  | reInit transport now => exact participantTable_nimbleClientReset _ now
  | _ => exact h.elim

/-- Every other call changes it by the join responses that it accepts on its way. -/
theorem participantTable_performOperation (self : NimbleClientRealize L) {operation : Operation L}
    (h : ¬operation.Restarts) :
    (performOperation self operation).1.client.participantTable =
      tableAfter self.client.participantTable (operationFeeds self operation) := by
  obtain ⟨_, hclient⟩ := client_performOperation self h
  rw [hclient, updatedClient, operationFeeds]
  split
  · exact participantTable_nimbleClientUpdate self.client _
  · rfl

/-- Without further join responses and restarts a run leaves the table as it is. -/
theorem participantTable_run {start : NimbleClientRealize L} {operations : List (Operation L)}
    (h : ∀ v ∈ (realizer L).visits start operations, ¬v.2.Restarts ∧
      ∀ f ∈ operationFeeds v.1 v.2, joined? f.1 f.2 = none) :
    ((realizer L).run start operations).client.participantTable =
      start.client.participantTable := by
  refine @Machine.run_invariant_of_guard _ _ _ (realizer L)
    (fun r => r.client.participantTable = start.client.participantTable)
    (fun r operation => ¬operation.Restarts ∧
      ∀ f ∈ operationFeeds r operation, joined? f.1 f.2 = none) ?_ start operations rfl h
  intro r operation hr hguard
  exact ((participantTable_performOperation r hguard.1).trans
    (tableAfter_of_none hguard.2)).trans hr

/-! ## What a join assigns -/

theorem lookupSpec_nimbleClientOnJoinGameResponse {self : NimbleClient L} {inStream : FldInStream}
    {locals : FeedLocals L} (hphase : self.joinParticipantPhase = .joiningParticipant)
    (hcode : 0 ≤ (joinFields inStream locals).1)
    (hfits : FitsTable (joinFields inStream locals).2) :
    LookupSpec (nimbleClientOnJoinGameResponse self inStream locals).2
      (joinFields inStream locals).2 := by
  rw [nimbleClientOnJoinGameResponse_snd, if_pos ⟨hcode, hphase⟩]
  exact @lookupSpec_of_assign _ _ self.participantTable _ hfits rfl

/-- A join response that a call accepts is what lookups answer from, through the rest of the call
and through every run behind it without another accepted join response or a restart. -/
theorem lookup_returns_assigned :
    (∀ (self : NimbleClient L) (inStream : FldInStream) (locals : FeedLocals L),
      self.joinParticipantPhase = .joiningParticipant → 0 ≤ (joinFields inStream locals).1 →
      FitsTable (joinFields inStream locals).2 →
        LookupSpec (nimbleClientOnJoinGameResponse self inStream locals).2
          (joinFields inStream locals).2) ∧
    ∀ (self : NimbleClientRealize L) (operation : Operation L) (later : List (Operation L))
      (client : NimbleClient L) (datagram : Datagram L)
      (before after : List (NimbleClient L × Datagram L))
      (response : NimbleSerializeJoinGameResponse L.NimbleSerializePartyAndSessionSecret),
      operationFeeds self operation = before ++ (client, datagram) :: after →
      joined? client datagram = some response → FitsTable response →
      (∀ f ∈ after, joined? f.1 f.2 = none) →
      (∀ v ∈ (realizer L).visits (performOperation self operation).1 later,
        ¬v.2.Restarts ∧ ∀ f ∈ operationFeeds v.1 v.2, joined? f.1 f.2 = none) →
      LookupSpec ((realizer L).run (performOperation self operation).1 later).client response := by
  refine ⟨fun _ _ _ => lookupSpec_nimbleClientOnJoinGameResponse, ?_⟩
  intro self operation later client datagram before after response hfeeds hjoined hfits hafter
    hlater
  have hrestarts : ¬operation.Restarts := by
    intro hrestarts
    rw [operationFeeds_of_restarts self hrestarts] at hfeeds
    simp at hfeeds
  apply lookupSpec_of_assign hfits
  rw [participantTable_run hlater, participantTable_performOperation self hrestarts, hfeeds,
    tableAfter_append, tableAfter_cons, tableAfter_of_joined hjoined, tableAfter_of_none hafter]

namespace Small

/-- A join response that gives each local index the id next to it. -/
def joinResponseOf (id : UInt8) (participants : List (UInt8 × UInt8)) :
    Datagram smallLibraries :=
  packet id .joinGameResponse
    (9 :: UInt8.ofNat participants.length :: participants.flatMap fun p => [p.1, p.2])

/-- A synced client as it is fed the answer to its join request. -/
def joiningClient : NimbleClient smallLibraries :=
  (beginUpdate syncedRealizer.client 0).countPacketIn

/-- The update that takes the answer in. -/
def joinOperation : Operation smallLibraries :=
  .update (updateWith [joinResponseOf 4 [(0, 3), (1, 4)]])

theorem operationFeeds_joinOperation :
    operationFeeds syncedRealizer joinOperation =
      [] ++ (joiningClient, joinResponseOf 4 [(0, 3), (1, 4)]) :: [] := by
  change feeds (beginUpdate syncedRealizer.client 0)
    [.datagram (joinResponseOf 4 [(0, 3), (1, 4)])] = _
  rw [feeds_singleton (by decide)]
  rfl

end Small

open Nimble.Small in
/-- Two players keep their participants while steps arrive. -/
theorem lookup_returns_assigned_twoPlayers :
    LookupSpec ((realizer smallLibraries).run (performOperation syncedRealizer joinOperation).1
      [.update (updateWith [stepResponse 5 0 10 [1]])]).client ⟨(9 : UInt8), [⟨0, 3⟩, ⟨1, 4⟩]⟩ := by
  refine (@lookup_returns_assigned smallLibraries).2 syncedRealizer joinOperation _ joiningClient
    _ [] [] _ operationFeeds_joinOperation rfl ⟨by decide, by decide, by decide⟩ (by simp) ?_
  intro v hv
  obtain rfl := List.mem_singleton.mp hv
  exact ⟨id, by decide +kernel⟩

/-! ## The invariant of the table -/

/-- The search for this index reads this entry: none in front of it ends the search. -/
def ParticipantTable.Reads (table : ParticipantTable) (deviceIndex : UInt8) (i : Nat) : Prop :=
  i < table.localParticipantCount ∧ ∀ j (hj : j < nimbleClientMaxLocalUsersCount), j < i →
    table.localParticipantLookup[j].localUserDeviceIndex ≠ deviceIndex

/-- The count is within the table, no search leaves it, and the used entries are the counted
ones. -/
structure ParticipantTable.IsSound (table : ParticipantTable) : Prop where
  count_le : table.localParticipantCount ≤ nimbleClientMaxLocalUsersCount
  reads : ∀ deviceIndex i, table.Reads deviceIndex i → i < nimbleClientMaxLocalUsersCount
  isUsed_iff : ∀ i (hi : i < nimbleClientMaxLocalUsersCount),
    table.localParticipantLookup[i].isUsed = true ↔ i < table.localParticipantCount

theorem ParticipantTable.isSound_of_isUsed_iff {table : ParticipantTable}
    (hcount : table.localParticipantCount ≤ nimbleClientMaxLocalUsersCount)
    (hused : ∀ i (hi : i < nimbleClientMaxLocalUsersCount),
      table.localParticipantLookup[i].isUsed = true ↔ i < table.localParticipantCount) :
    table.IsSound :=
  ⟨hcount, fun _ _ hreads => Nat.lt_of_lt_of_le hreads.1 hcount, hused⟩

theorem ParticipantTable.isSound_empty : ParticipantTable.empty.IsSound :=
  isSound_of_isUsed_iff (Nat.zero_le _) (fun i hi => by simp [empty])

/-- A response keeps the table sound exactly when it has room in it and leaves no entry of an
earlier response behind its own. -/
theorem ParticipantTable.IsSound.assign_iff {table : ParticipantTable} (h : table.IsSound)
    (participants : List NimbleSerializeJoinGameResponseParticipant) :
    (table.assign participants).IsSound ↔
      table.localParticipantCount ≤ participants.length ∧
        participants.length ≤ nimbleClientMaxLocalUsersCount := by
  have hcount : (table.assign participants).localParticipantCount = participants.length := rfl
  have hused : ∀ i (hi : i < nimbleClientMaxLocalUsersCount),
      (table.assign participants).localParticipantLookup[i].isUsed = true ↔
        i < participants.length ∨ i < table.localParticipantCount := by
    intro i hi
    rw [table.getElem_assign participants hi]
    by_cases hlt : i < participants.length
    · rw [List.getElem?_eq_getElem hlt]
      simp [participantEntry, hlt]
    · rw [List.getElem?_eq_none (by omega), Option.map_none, Option.getD_none, h.isUsed_iff i hi]
      simp [hlt]
  constructor
  · intro hsound
    refine ⟨?_, hsound.count_le⟩
    by_contra hshorter
    have hroom := h.count_le
    have hi : participants.length < nimbleClientMaxLocalUsersCount := by omega
    have hleft := (hsound.isUsed_iff _ hi).mp ((hused _ hi).mpr (Or.inr (by omega)))
    rw [hcount] at hleft
    omega
  · rintro ⟨hlonger, hroom⟩
    refine isSound_of_isUsed_iff (hcount ▸ hroom) fun i hi => ?_
    rw [hused i hi, hcount]
    omega

/-- A join response that the feed accepts has at least as many participants as the one before it,
and at most as many as there is room for. -/
def JoinFits (client : NimbleClient L) (datagram : Datagram L) : Prop :=
  ∀ response ∈ joined? client datagram,
    client.localParticipantCount ≤ response.participantCount ∧
      response.participantCount ≤ nimbleClientMaxLocalUsersCount

theorem isSound_nimbleClientFeed_iff {client : NimbleClient L}
    (h : client.participantTable.IsSound) (datagram : Datagram L) :
    (nimbleClientFeed client datagram).2.participantTable.IsSound ↔ JoinFits client datagram := by
  rw [participantTable_nimbleClientFeed, JoinFits]
  cases hjoined : joined? client datagram with
  | none =>
      rw [tableAfter_of_none (by simpa using hjoined)]
      simp [h]
  | some response =>
      rw [@tableAfter_of_joined _ _ (client, datagram) response hjoined, h.assign_iff]
      simp only [Option.mem_def, Option.some.injEq, forall_eq']
      rfl

/-- What a call does to a sound table, as long as the join responses it accepts fit. -/
theorem isSound_performOperation {self : NimbleClientRealize L}
    (h : self.client.participantTable.IsSound) {operation : Operation L}
    (hfits : ∀ f ∈ operationFeeds self operation, JoinFits f.1 f.2) :
    (performOperation self operation).1.client.participantTable.IsSound ∧
      ∀ f ∈ operationFeeds self operation, f.1.participantTable.IsSound := by
  by_cases hrestarts : operation.Restarts
  · rw [participantTable_of_restarts self hrestarts, operationFeeds_of_restarts self hrestarts]
    exact ⟨ParticipantTable.isSound_empty, by simp⟩
  exact writtenByFeeds_participantTable.invariant_of_guard
    (fun _ d hc hd => (isSound_nimbleClientFeed_iff hc d).mpr hd) hrestarts h hfits

/-- The table is sound in front of every call of a run, in front of and behind every datagram, and
at the end, and no join response writes outside it. -/
structure TableInvariant (start : NimbleClientRealize L) (operations : List (Operation L)) :
    Prop where
  calls : ∀ v ∈ (realizer L).visits start operations, v.1.client.participantTable.IsSound
  feeds : ∀ v ∈ (realizer L).visits start operations, ∀ f ∈ operationFeeds v.1 v.2,
    f.1.participantTable.IsSound ∧ (nimbleClientFeed f.1 f.2).2.participantTable.IsSound
  writes : ∀ v ∈ (realizer L).visits start operations, ∀ f ∈ operationFeeds v.1 v.2,
    ∀ response ∈ joined? f.1 f.2, ∀ i < response.participantCount,
      i < nimbleClientMaxLocalUsersCount
  last : ((realizer L).run start operations).client.participantTable.IsSound

/-- The invariant holds along exactly the runs in which every accepted join response has at most
eight participants, and no fewer than the table counts at that point. -/
theorem participant_table_invariant (memory : NimbleClientRealize L)
    (settings : NimbleClientRealizeSettings L) (now : MonotonicTimeMs)
    (operations : List (Operation L)) :
    TableInvariant (nimbleClientRealizeInit memory settings now) operations ↔
      ∀ v ∈ (realizer L).visits (nimbleClientRealizeInit memory settings now) operations,
        ∀ f ∈ operationFeeds v.1 v.2, JoinFits f.1 f.2 := by
  constructor
  · intro hinvariant v hv f hf
    obtain ⟨hbefore, hafter⟩ := hinvariant.feeds v hv f hf
    exact (isSound_nimbleClientFeed_iff hbefore f.2).mp hafter
  · intro hfits
    have hinit : (nimbleClientRealizeInit memory settings
        now).client.participantTable.IsSound := by
      have hreset := participantTable_of_restarts memory
        (show (Operation.realizeInit settings now : Operation L).Restarts from trivial)
      rw [show (nimbleClientRealizeInit memory settings now).client.participantTable = .empty
        from hreset]
      exact ParticipantTable.isSound_empty
    have hstep : ∀ (r : NimbleClientRealize L) operation, r.client.participantTable.IsSound →
        (∀ f ∈ operationFeeds r operation, JoinFits f.1 f.2) →
        (performOperation r operation).1.client.participantTable.IsSound :=
      fun _ _ hr hguard => (isSound_performOperation hr hguard).1
    have hcalls := @Machine.visits_invariant_of_guard _ _ _ (realizer L)
      (fun r => r.client.participantTable.IsSound) _ hstep _ operations hinit hfits
    refine ⟨hcalls, fun v hv f hf => ?_, fun v hv f hf response hresponse i hi => ?_,
      @Machine.run_invariant_of_guard _ _ _ (realizer L)
        (fun r => r.client.participantTable.IsSound) _ hstep _ operations hinit hfits⟩
    · have hbefore := (isSound_performOperation (hcalls v hv) (hfits v hv)).2 f hf
      exact ⟨hbefore, (isSound_nimbleClientFeed_iff hbefore f.2).mpr (hfits v hv f hf)⟩
    · exact Nat.lt_of_lt_of_le hi (hfits v hv f hf response hresponse).2

/-! ## Runs on fixed inputs -/

namespace Small

/-- The calls of an application that joins twice, with the answers to its requests. -/
def rejoinSession (answer other : List (UInt8 × UInt8)) : List (Operation smallLibraries) :=
  syncSession 10 5 ++ [.realizeUpdate (updateWith [joinResponseOf 4 answer]),
    .realizeJoinGame (0 : UInt8), .realizeUpdate (updateWith [joinResponseOf 5 other])]

def rejoinedRealizer (answer other : List (UInt8 × UInt8)) : NimbleClientRealize smallLibraries :=
  (realizer smallLibraries).run (freshRealizer 1) (rejoinSession answer other)

/-- Nine participants with the same id. -/
def nineParticipants : List (UInt8 × UInt8) :=
  (List.range 9).map fun i => (UInt8.ofNat i, 3)

end Small

open Nimble.Small

/-- One participant after two leaves the second entry in use, and nine do not fit. -/
theorem participant_table_counterexample :
    (Reachable (rejoinedRealizer [(0, 3), (1, 4)] [(0, 5)]) ∧
        (rejoinedRealizer [(0, 3), (1, 4)] [(0, 5)]).client.localParticipantCount = 1 ∧
        (rejoinedRealizer [(0, 3), (1, 4)] [(0, 5)]).client.localParticipantLookup[1].isUsed ∧
        ¬TableInvariant (freshRealizer 1) (rejoinSession [(0, 3), (1, 4)] [(0, 5)])) ∧
      Reachable (rejoinedRealizer [(0, 3)] nineParticipants) ∧
        (rejoinedRealizer [(0, 3)] nineParticipants).client.localParticipantCount = 9 ∧
        ¬TableInvariant (freshRealizer 1) (rejoinSession [(0, 3)] nineParticipants) := by
  have hstale : (rejoinedRealizer [(0, 3), (1, 4)] [(0, 5)]).client.localParticipantCount = 1 ∧
      (rejoinedRealizer [(0, 3), (1, 4)] [(0, 5)]).client.localParticipantLookup[1].isUsed := by
    decide +kernel
  have hnine : (rejoinedRealizer [(0, 3)] nineParticipants).client.localParticipantCount = 9 := by
    decide +kernel
  refine ⟨⟨⟨_, _, _, _, rfl⟩, hstale.1, hstale.2, fun h => ?_⟩, ⟨_, _, _, _, rfl⟩, hnine,
    fun h => ?_⟩
  · have hused := (h.last.isUsed_iff 1 (by decide)).mp hstale.2
    rw [show ((realizer smallLibraries).run (freshRealizer 1) (rejoinSession [(0, 3), (1, 4)]
      [(0, 5)])).client.participantTable.localParticipantCount = 1 from hstale.1] at hused
    exact Nat.lt_irrefl 1 hused
  · have hcount := h.last.count_le
    rw [show ((realizer smallLibraries).run (freshRealizer 1) (rejoinSession [(0, 3)]
      nineParticipants)).client.participantTable.localParticipantCount = 9 from hnine] at hcount
    exact absurd hcount (by decide)

end Nimble
