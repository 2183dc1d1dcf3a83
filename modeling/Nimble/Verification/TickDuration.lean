import Nimble.Library.Queue
import Nimble.Library.Thinning
import Nimble.Model.SmallLibraries
import Nimble.Verification.Sessions

/-! # How long a tick takes

Updates that come too early are not counted, and the samples of the tick statistics are the
distances of the others. -/

namespace Nimble

open SequenceGaps Thinning

variable {L : Libraries}

/-! ## The fields of the tick statistics -/

structure TickFields (L : Libraries) where
  lastUpdateMonotonicMsIsSet : Bool
  lastUpdateMonotonicMs : MonotonicTimeMs
  tickDuration : L.StatsInt

def NimbleClient.tickFields (self : NimbleClient L) : TickFields L where
  lastUpdateMonotonicMsIsSet := self.lastUpdateMonotonicMsIsSet
  lastUpdateMonotonicMs := self.lastUpdateMonotonicMs
  tickDuration := self.tickDuration

/-- An update at `now`, for a client that expects ticks of `expected` milliseconds. -/
def TickFields.update (expected : Nat) (fields : TickFields L) (now : MonotonicTimeMs) :
    TickFields L :=
  if fields.lastUpdateMonotonicMsIsSet then
    if now - fields.lastUpdateMonotonicMs + 10 < intCast expected then fields
    else
      { fields with
        tickDuration :=
          L.statsIntAdd fields.tickDuration (intCast (now - fields.lastUpdateMonotonicMs))
        lastUpdateMonotonicMs := now }
  else { fields with lastUpdateMonotonicMsIsSet := true, lastUpdateMonotonicMs := now }

theorem tickFields_beginUpdate (self : NimbleClient L) (now : MonotonicTimeMs) :
    (beginUpdate self now).tickFields =
      self.tickFields.update self.expectedTickDurationMs now := by
  unfold beginUpdate checkTickInterval TickFields.update
  dsimp only
  by_cases hset : self.lastUpdateMonotonicMsIsSet
  · rw [if_pos hset, if_pos (show self.tickFields.lastUpdateMonotonicMsIsSet from hset)]
    split
    · exact (if_pos ‹_›).symm
    · exact (if_neg ‹_›).symm
  · rw [if_neg hset, if_neg (show ¬self.tickFields.lastUpdateMonotonicMsIsSet from hset)]
    rfl

theorem headerKeeps_tickFields : HeaderKeeps (@NimbleClient.tickFields L) :=
  headerKeeps_of fun _ _ _ _ _ _ => rfl

theorem tickFields_nimbleClientFeed (self : NimbleClient L) (datagram : Datagram L) :
    (nimbleClientFeed self datagram).2.tickFields = self.tickFields := by
  cases h : dispatch? self datagram with
  | none => exact headerKeeps_tickFields.of_dispatch_eq_none h
  | some x =>
      rw [nimbleClientFeed_of_dispatch h, ← headerKeeps_tickFields.of_dispatch h]
      have heffect := x.effect
      generalize x.outcome.2 = client at heffect ⊢
      cases heffect <;> rfl

theorem tickFields_received (self : NimbleClient L) (input : UpdateInput L) :
    (self.received input).client.tickFields = (beginUpdate self input.now).tickFields :=
  @receiveLoop_invariant_of_guard _
    (fun c => c.tickFields = (beginUpdate self input.now).tickFields) (fun _ _ => True)
    (fun _ hc => hc) (fun _ hc => hc)
    (fun c d hc _ => (tickFields_nimbleClientFeed c d).trans hc) _ _ 0 rfl (fun _ _ => trivial)

/-! ## Runs -/

/-- The clock readings of the updates that a call makes. -/
def updateTime (self : NimbleClientRealize L) (operation : Operation L) : List MonotonicTimeMs :=
  (clientUpdate? self operation).toList.map UpdateInput.now

/-- The clock readings of the updates of a run. -/
def updateTimes (start : NimbleClientRealize L) (operations : List (Operation L)) :
    List MonotonicTimeMs :=
  (realizer L).gather updateTime start operations

theorem tickFields_performOperation (self : NimbleClientRealize L) {operation : Operation L}
    (h : ¬operation.Restarts) :
    (performOperation self operation).1.client.tickFields =
      (updateTime self operation).foldl (TickFields.update self.client.expectedTickDurationMs)
        self.client.tickFields := by
  obtain ⟨_, hclient⟩ := client_performOperation self h
  rw [hclient, updatedClient, updateTime]
  cases clientUpdate? self operation with
  | none => rfl
  | some input =>
      obtain ⟨_, hupdate⟩ := client_nimbleClientUpdate self.client input
      dsimp only
      rw [hupdate]
      refine (tickFields_received self.client input).trans ?_
      rw [tickFields_beginUpdate]
      rfl

theorem tickFields_run (start : NimbleClientRealize L) {operations : List (Operation L)}
    (h : ∀ operation ∈ operations, ¬operation.Restarts) :
    ((realizer L).run start operations).client.tickFields =
      (updateTimes start operations).foldl
        (TickFields.update start.client.expectedTickDurationMs) start.client.tickFields := by
  apply @Machine.foldl_gather _ _ _ _ (realizer L) _ (fun self => self.client.tickFields)
    (TickFields.update start.client.expectedTickDurationMs) updateTime
    (fun self => self.client.expectedTickDurationMs = start.client.expectedTickDurationMs)
    (fun _ operation => ¬operation.Restarts) _ start operations rfl
    (fun v hv => h v.2 ((realizer L).mem_of_mem_visits hv))
  intro self operation hself hrestarts
  have hexpected : (performOperation self operation).1.client.expectedTickDurationMs =
      self.client.expectedTickDurationMs :=
    congrArg Setup.expectedTickDurationMs (setup_performOperation self hrestarts)
  refine ⟨hexpected.trans hself, ?_⟩
  rw [← hself]
  exact tickFields_performOperation self hrestarts

/-- From the first update on, the statistics take in the thinned sequence of the others. -/
theorem foldl_update (expected : Nat) (tickDuration : L.StatsInt) (last : MonotonicTimeMs)
    (times : List MonotonicTimeMs) :
    times.foldl (TickFields.update expected) ⟨true, last, tickDuration⟩ =
      ⟨true, (thin (intCast expected - 10) last times).getLastD last,
        (distances last (thin (intCast expected - 10) last times)).foldl
          (fun stat sample => L.statsIntAdd stat (intCast sample)) tickDuration⟩ := by
  induction times generalizing last tickDuration with
  | nil => rfl
  | cons now times ih =>
      rw [List.foldl_cons, TickFields.update, if_pos rfl, thin]
      dsimp only
      by_cases hearly : now - last < intCast expected - 10
      · rw [if_pos (lt_sub_iff_add_lt.mp hearly), if_pos hearly, ih]
      · rw [if_neg (mt lt_sub_iff_add_lt.mpr hearly), if_neg hearly, ih, distances,
          List.foldl_cons, List.getLastD_cons]

/-- From a reset on, the samples are the distances of the updates that lie at least 6 ms apart.
They add up to the time from the first update to the last one counted, however often the client
is updated in between and whatever the clock does. -/
theorem tick_durations (start : NimbleClientRealize L) (hreachable : Reachable start)
    (hreset : start.client.lastUpdateMonotonicMsIsSet = false) (operations : List (Operation L))
    (h : ∀ operation ∈ operations, ¬operation.Restarts) (first : MonotonicTimeMs)
    (others : List MonotonicTimeMs) (htimes : updateTimes start operations = first :: others) :
    let samples := distances first (thin 6 first others)
    let client := ((realizer L).run start operations).client
    client.tickDuration =
        samples.foldl (fun stat sample => L.statsIntAdd stat (intCast sample))
          start.client.tickDuration ∧
      client.lastUpdateMonotonicMs = (thin 6 first others).getLastD first ∧
      samples.sum = client.lastUpdateMonotonicMs - first ∧ ∀ sample ∈ samples, 6 ≤ sample := by
  intro samples client
  have hgap : intCast (16 : Nat) - 10 = 6 := by decide
  have hexpected : start.client.expectedTickDurationMs = 16 :=
    hreachable.isInitialized.expectedTickDurationMs
  have hfields := tickFields_run start h
  rw [htimes, List.foldl_cons, TickFields.update, hexpected,
    if_neg (by simp [NimbleClient.tickFields, hreset])] at hfields
  replace hfields := hfields.trans (foldl_update 16 _ first others)
  rw [hgap] at hfields
  have hlast : client.lastUpdateMonotonicMs = (thin 6 first others).getLastD first :=
    congrArg TickFields.lastUpdateMonotonicMs hfields
  refine ⟨congrArg TickFields.tickDuration hfields, hlast, ?_, gap_le_distances 6 first others⟩
  rw [hlast]
  exact sum_distances first _

/-! ## A run on fixed inputs -/

namespace Small

/-- Updates at these times. -/
def updatesAt (times : List MonotonicTimeMs) : List (Operation smallLibraries) :=
  times.map fun now => .update ⟨now, [], ⟨0, 0, 0, 0⟩⟩

end Small

open Nimble.Small

/-- Of these updates, the ones at 104 and 90 come too early. -/
theorem tick_durations_uneven :
    (distances 100 (thin 6 100 [104, 116, 90, 140])).sum =
      ((realizer smallLibraries).run (freshRealizer 1)
        (updatesAt [100, 104, 116, 90, 140])).client.lastUpdateMonotonicMs - 100 :=
  (tick_durations (freshRealizer 1) ⟨_, _, _, [], rfl⟩ rfl (updatesAt [100, 104, 116, 90, 140])
    (by simp [updatesAt, Operation.Restarts]) 100 [104, 116, 90, 140] (by decide +kernel)).2.2.1

end Nimble
