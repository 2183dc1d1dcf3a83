import Nimble.Library.RunningRecords
import Nimble.Model.SmallLibraries
import Nimble.Verification.FeedTrace

/-! # Delivery in order

The network may lose, repeat and reorder datagrams. What the client acts on between two restarts
is in the order in which the server sent it, without repeats. -/

namespace Nimble

open RunningRecords

variable {L : Libraries}

/-! ## The ordered id of a feed -/

/-- The feed gets as far as the check of the ordered id. -/
def ReachesIdCheck (f : NimbleClient L × Datagram L) : Prop :=
  ¬(f.2.octets.length < 1 ∨ f.1.state = .disconnected)

instance (f : NimbleClient L × Datagram L) : Decidable (ReachesIdCheck f) :=
  inferInstanceAs (Decidable (¬_))

/-- The distance that the ordered-datagram library reports for a feed. -/
def reportedDistance (f : NimbleClient L × Datagram L) : Int :=
  (L.orderedDatagramInLogicReceive f.1.orderedDatagramIn f.2.inStream).1

theorem writtenByFeeds_orderedDatagramIn :
    WrittenByFeeds (@NimbleClient.orderedDatagramIn L) :=
  ⟨fun _ _ _ _ _ => rfl, fun _ => rfl, fun _ => rfl, fun _ _ => rfl, fun _ _ => rfl⟩

theorem orderedDatagramIn_readDatagramHeader (self : NimbleClient L) (datagram : Datagram L) :
    (readDatagramHeader self datagram).2.1.orderedDatagramIn =
      (L.orderedDatagramInLogicReceive self.orderedDatagramIn datagram.inStream).2.1 := by
  have hcheck : (readAndCheckOrderedDatagram self.orderedDatagramIn datagram.inStream).2.1 =
      (L.orderedDatagramInLogicReceive self.orderedDatagramIn datagram.inStream).2.1 := by
    rw [readAndCheckOrderedDatagram]
    dsimp only
    split <;> rfl
  rw [← hcheck]
  simp only [readDatagramHeader, nimbleClientReceivePong, reportDropped]
  split
  · rfl
  · split <;> split <;> rfl

theorem Dispatch.orderedDatagramIn_outcome (x : Dispatch L) :
    x.outcome.2.orderedDatagramIn = x.client.orderedDatagramIn := by
  have heffect := x.effect
  generalize x.outcome.2 = client at heffect ⊢
  cases heffect <;> rfl

theorem orderedDatagramIn_of_reaches {f : NimbleClient L × Datagram L} (h : ReachesIdCheck f) :
    (nimbleClientFeed f.1 f.2).2.orderedDatagramIn =
      (L.orderedDatagramInLogicReceive f.1.orderedDatagramIn f.2.inStream).2.1 := by
  rw [ReachesIdCheck, not_or] at h
  rw [← orderedDatagramIn_readDatagramHeader, nimbleClientFeed_eq, if_neg h.1, if_neg h.2]
  split
  · rfl
  · exact Dispatch.orderedDatagramIn_outcome ⟨_, _, _, _⟩

theorem orderedDatagramIn_of_not_reaches {f : NimbleClient L × Datagram L}
    (h : ¬ReachesIdCheck f) :
    (nimbleClientFeed f.1 f.2).2.orderedDatagramIn = f.1.orderedDatagramIn := by
  rw [nimbleClientFeed_eq]
  rcases not_not.mp h with hlength | hstate
  · rw [if_pos hlength]
  · rw [if_pos hstate]
    split <;> rfl

/-- A feed that dispatches a command has had its ordered id accepted. -/
theorem acceptedDistance?_of_dispatch {self : NimbleClient L} {datagram : Datagram L}
    {x : Dispatch L} (h : dispatch? self datagram = some x) :
    (acceptedDistance? self datagram).isSome := by
  simp only [dispatch?] at h
  split at h
  · cases h
  rename_i hearly
  split at h
  · cases h
  rename_i hheader
  rw [not_or] at hearly
  simp only [acceptedDistance?, hearly.1, hearly.2, false_or]
  split
  · rename_i hstale
    have hcheck : (readAndCheckOrderedDatagram self.orderedDatagramIn datagram.inStream).1 = -91 := by
      rw [readAndCheckOrderedDatagram]
      dsimp only
      rw [if_pos hstale]
    have hfails : (readDatagramHeader self datagram).1 = -91 := by
      unfold Datagram.inStream at hcheck
      simp only [readDatagramHeader, hcheck]
      rfl
    omega
  · rfl

/-! ## Numbered datagrams -/

section Numbers

variable {ν : Type*}

/-- The numbers of the datagrams that get as far as the check of the ordered id. -/
def arrivedNumbers (number : Datagram L → ν) (fed : List (NimbleClient L × Datagram L)) :
    List ν :=
  fed.filterMap fun f => if ReachesIdCheck f then some (number f.2) else none

/-- The numbers of the datagrams whose ordered id is accepted. -/
def acceptedNumbers (number : Datagram L → ν) (fed : List (NimbleClient L × Datagram L)) :
    List ν :=
  fed.filterMap fun f => (acceptedDistance? f.1 f.2).map fun _ => number f.2

/-- The numbers of the datagrams whose command is dispatched. No other feed touches the protocol
state. -/
def dispatchedNumbers (number : Datagram L → ν) (fed : List (NimbleClient L × Datagram L)) :
    List ν :=
  fed.filterMap fun f => (dispatch? f.1 f.2).map fun _ => number f.2

theorem dispatchedNumbers_sublist (number : Datagram L → ν)
    (fed : List (NimbleClient L × Datagram L)) :
    (dispatchedNumbers number fed).Sublist (acceptedNumbers number fed) := by
  induction fed with
  | nil => exact .slnil
  | cons f fed ih =>
      simp only [dispatchedNumbers, acceptedNumbers, List.filterMap_cons] at ih ⊢
      cases hdispatch : dispatch? f.1 f.2 with
      | none =>
          cases acceptedDistance? f.1 f.2 with
          | none => exact ih
          | some distance => exact ih.cons _
      | some x =>
          obtain ⟨distance, hdistance⟩ := Option.isSome_iff_exists.mp
            (acceptedDistance?_of_dispatch hdispatch)
          rw [hdistance]
          exact ih.cons_cons _

theorem acceptedNumbers_sublist (number : Datagram L → ν)
    (fed : List (NimbleClient L × Datagram L)) :
    (acceptedNumbers number fed).Sublist (arrivedNumbers number fed) := by
  induction fed with
  | nil => exact .slnil
  | cons f fed ih =>
      simp only [acceptedNumbers, arrivedNumbers, List.filterMap_cons] at ih ⊢
      by_cases hreaches : ReachesIdCheck f
      · rw [if_pos hreaches]
        cases acceptedDistance? f.1 f.2 with
        | none => exact ih.cons _
        | some distance => exact ih.cons_cons _
      · have hnone : acceptedDistance? f.1 f.2 = none := by
          rw [ReachesIdCheck, not_not] at hreaches
          exact if_pos (hreaches.imp_right Or.inl)
        rw [if_neg hreaches, hnone]
        exact ih

end Numbers

variable {ν : Type*} [LinearOrder ν]

/-- The datagrams carry the numbers that the server gave them, and in this run the
ordered-datagram library does what it is documented to: it keeps the highest number it has seen,
and reports a positive distance for the numbers above it. -/
structure TellsOrder (start : NimbleClientRealize L) (operations : List (Operation L))
    (number : Datagram L → ν) (last : L.OrderedDatagramInLogic → WithBot ν) : Prop where
  newer : ∀ f ∈ runFeeds start operations, ReachesIdCheck f →
    (0 < reportedDistance f ↔ last f.1.orderedDatagramIn < number f.2)
  highest : ∀ f ∈ runFeeds start operations, ReachesIdCheck f →
    last (L.orderedDatagramInLogicReceive f.1.orderedDatagramIn f.2.inStream).2.1 =
      max (last f.1.orderedDatagramIn) (number f.2)

/-- The accepted numbers are the records of the arrivals. -/
theorem acceptedNumbers_eq {start : NimbleClientRealize L} {operations : List (Operation L)}
    {number : Datagram L → ν} {last : L.OrderedDatagramInLogic → WithBot ν}
    (h : ∀ operation ∈ operations, ¬operation.Restarts)
    (htells : TellsOrder start operations number last) :
    acceptedNumbers number (runFeeds start operations) =
        records (last start.client.orderedDatagramIn)
          (arrivedNumbers number (runFeeds start operations)) ∧
      last ((realizer L).run start operations).client.orderedDatagramIn =
        RunningRecords.highest (last start.client.orderedDatagramIn)
          (arrivedNumbers number (runFeeds start operations)) := by
  have htrace := (writtenByFeeds_orderedDatagramIn.trace_run start h).restrict
    (p := (· ∈ runFeeds start operations)) fun _ hf => hf
  apply filterMap_eq_records _ _ htrace
  · rintro _ f _ ⟨⟨rfl, rfl⟩, _⟩ hunseen
    have hreaches : ¬ReachesIdCheck f := fun hreaches => by simp [hreaches] at hunseen
    rw [orderedDatagramIn_of_not_reaches hreaches]
    rw [ReachesIdCheck, not_not] at hreaches
    have hnone : acceptedDistance? f.1 f.2 = none := if_pos (hreaches.imp_right Or.inl)
    exact ⟨by rw [hnone]; rfl, rfl⟩
  · rintro _ f _ ⟨⟨rfl, rfl⟩, hf⟩ n hseen
    have hreaches : ReachesIdCheck f := by
      by_contra hreaches
      simp [hreaches] at hseen
    obtain rfl : number f.2 = n := by simpa [hreaches] using hseen
    rw [orderedDatagramIn_of_reaches hreaches]
    refine ⟨?_, htells.highest f hf hreaches⟩
    have hnewer := htells.newer f hf hreaches
    rw [ReachesIdCheck, not_or] at hreaches
    by_cases hpositive : 0 < reportedDistance f
    · have hsome : acceptedDistance? f.1 f.2 = some (reportedDistance f) :=
        if_neg (by rw [not_or, not_or]; exact ⟨hreaches.1, hreaches.2, not_le.mpr hpositive⟩)
      rw [hsome, if_pos (hnewer.mp hpositive)]
      rfl
    · have hnone : acceptedDistance? f.1 f.2 = none :=
        if_pos (Or.inr (Or.inr (not_lt.mp hpositive)))
      rw [hnone, if_neg (mt hnewer.mpr hpositive)]
      rfl

/-- Whatever the network does to the datagrams, those that a run without restarts accepts are the
ones newer than all before them. The datagrams it acts on come one after another from those that
the server sent, in that order, and none of them twice. -/
theorem ordered_delivery (start : NimbleClientRealize L) (operations : List (Operation L))
    (h : ∀ operation ∈ operations, ¬operation.Restarts) (number : Datagram L → ν)
    (last : L.OrderedDatagramInLogic → WithBot ν)
    (htells : TellsOrder start operations number last) (sent : List ν)
    (hsent : sent.Pairwise (· < ·))
    (harrived : arrivedNumbers number (runFeeds start operations) ⊆ sent) :
    acceptedNumbers number (runFeeds start operations) =
        records (last start.client.orderedDatagramIn)
          (arrivedNumbers number (runFeeds start operations)) ∧
      last ((realizer L).run start operations).client.orderedDatagramIn =
        highest (last start.client.orderedDatagramIn)
          (arrivedNumbers number (runFeeds start operations)) ∧
      (dispatchedNumbers number (runFeeds start operations)).Sublist sent := by
  obtain ⟨haccepted, hlast⟩ := acceptedNumbers_eq h htells
  refine ⟨haccepted, hlast, ?_⟩
  have hrises : (acceptedNumbers number (runFeeds start operations)).Pairwise (· < ·) :=
    haccepted ▸ pairwise_records _ _
  have hsubset : acceptedNumbers number (runFeeds start operations) ⊆ sent :=
    List.Subset.trans (acceptedNumbers_sublist number _).subset harrived
  exact (dispatchedNumbers_sublist number _).trans (sublist_of_pairwise_lt hrises hsent hsubset)

/-! ## A run on fixed inputs -/

namespace Small

/-- The number of a datagram is its ordered id. -/
def orderedId (datagram : Datagram smallLibraries) : Nat :=
  (datagram.octets.headD 0).toNat

def lastId (logic : smallLibraries.OrderedDatagramInLogic) : WithBot Nat :=
  Option.map UInt8.toNat logic

/-- Datagrams of which one comes early, one late and one twice. -/
def disorderedSession : List (Operation smallLibraries) :=
  [.realizeJoinGame (0 : UInt8), .realizeUpdate (updateWith []),
    .realizeUpdate (updateWith [connectResponse 2]), .realizeUpdate (updateWith [connectResponse 1]),
    .realizeUpdate (updateWith [gameStateResponse 5 10 5]),
    .realizeUpdate (updateWith [connectResponse 2, blobPart 6 5 0 0xaa]),
    .realizeUpdate (updateWith [blobPart 6 5 0 0xaa])]

end Small

open Nimble.Small

theorem ordered_delivery_disordered :
    (dispatchedNumbers orderedId (runFeeds (freshRealizer 1) disorderedSession)).Sublist
      [1, 2, 3, 4, 5, 6] :=
  (ordered_delivery (freshRealizer 1) disorderedSession
    (by simp [disorderedSession, Operation.Restarts]) orderedId lastId
    ⟨by decide +kernel, by decide +kernel⟩ [1, 2, 3, 4, 5, 6] (by decide) (by decide +kernel)).2.2

end Nimble
