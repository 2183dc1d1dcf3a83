import Nimble.Verification.Deadline

/-! # The realizer and its client

When an update of the realizer reaches the client, and when the two agree afterwards. -/

namespace Nimble

variable {L : Libraries}

/-! ## Targets -/

/-- The target that a call sets. -/
def Operation.target? : Operation L → Option NimbleClientRealizeState
  | .realizeInit _ _ => some .init
  | .realizeReInit _ _ => some .init
  | .realizeJoinGame _ => some .synced
  | .realizeQuitGame => some .cleared
  | _ => none

theorem targetState_followTarget (self : NimbleClientRealize L) :
    (followTarget self).targetState = self.targetState := by
  have hmove := targetMove_followTarget self
  generalize followTarget self = after at hmove ⊢
  cases hmove <;> rfl

theorem targetState_performOperation (self : NimbleClientRealize L) (operation : Operation L) :
    (performOperation self operation).1.targetState =
      operation.target?.getD self.targetState := by
  cases operation with
  | realizeUpdate input =>
      change (nimbleClientRealizeUpdate self input).realize.targetState = self.targetState
      rw [nimbleClientRealizeUpdate]
      split
      · rfl
      split
      · exact targetState_followTarget _
      · exact targetState_followTarget self
  | _ => rfl

/-- The target is the one set last. -/
theorem targetState_run (start : NimbleClientRealize L) (operations : List (Operation L)) :
    ((realizer L).run start operations).targetState =
      ((operations.filterMap Operation.target?).getLast?).getD start.targetState := by
  induction operations generalizing start with
  | nil => rfl
  | cons operation operations ih =>
      have hstep : ((realizer L).step start operation).1.targetState =
          operation.target?.getD start.targetState := targetState_performOperation start operation
      rw [Machine.run_cons, ih, hstep, List.filterMap_cons]
      cases operation.target? with
      | none => rfl
      | some target =>
          simp only [Option.getD_some, List.getLast?_cons]

/-! ## Progress -/

/-- With the target `synced` an update reaches the client unless the realizer is cleared. -/
theorem update_of_target_synced {self : NimbleClientRealize L}
    (htarget : self.targetState = .synced) (hstate : self.client.state ≠ .disconnected)
    (input : UpdateInput L) :
    (nimbleClientRealizeUpdate self input).update =
      if self.state ≠ .cleared then some (nimbleClientUpdate self.client input) else none := by
  by_cases hcleared : self.state = .cleared
  · have hupdates : ¬self.UpdatesClient := fun h => h.1 hcleared
    rw [nimbleClientRealizeUpdate_of_not_updates hstate hupdates]
    exact (if_neg (not_not.mpr hcleared)).symm
  · have hupdates : self.UpdatesClient := ⟨hcleared, by rw [htarget]; decide⟩
    rw [nimbleClientRealizeUpdate_of_updates ⟨hstate, hupdates⟩]
    exact (if_pos hcleared).symm

/-- With the target `cleared` an update clears the realizer unless the client is
disconnected. -/
theorem state_of_target_cleared {self : NimbleClientRealize L}
    (htarget : self.targetState = .cleared) (input : UpdateInput L) :
    (nimbleClientRealizeUpdate self input).realize.state =
      if self.client.state = .disconnected then .disconnected else .cleared := by
  have hfollow : ∀ r : NimbleClientRealize L, r.targetState = .cleared →
      (followTarget r).state = .cleared := by
    intro r hr
    have hmove := targetMove_followTarget r
    generalize followTarget r = after at hmove ⊢
    cases hmove with
    | stay h => exact h hr
    | clear _ => rfl
    | requestConnect htarget _ => simp [hr] at htarget
    | requestState htarget _ => simp [hr] at htarget
    | sync htarget _ => simp [hr] at htarget
  rw [nimbleClientRealizeUpdate]
  split
  · rfl
  split
  · exact hfollow _ htarget
  · exact hfollow _ htarget

/-- An update of a cleared realizer whose target is `synced`, in front of a client that is on
its way, changes nothing at all. -/
theorem nimbleClientRealizeUpdate_of_parked {self : NimbleClientRealize L}
    (hstate : self.state = .cleared) (htarget : self.targetState = .synced)
    (hclient : self.client.state = .requestingConnect) (input : UpdateInput L) :
    nimbleClientRealizeUpdate self input = ⟨self, none⟩ := by
  have hupdates : ¬self.UpdatesClient := fun h => h.1 hstate
  rw [nimbleClientRealizeUpdate_of_not_updates (by rw [hclient]; decide) hupdates]
  rw [followTarget, moveTowardsTarget]
  rw [htarget, hstate, hclient]
  rfl

theorem run_of_parked {self : NimbleClientRealize L} (hstate : self.state = .cleared)
    (htarget : self.targetState = .synced) (hclient : self.client.state = .requestingConnect)
    (inputs : List (UpdateInput L)) :
    (realizer L).run self (inputs.map .realizeUpdate) = self := by
  induction inputs with
  | nil => rfl
  | cons input inputs ih =>
      have hstep : ((realizer L).step self (.realizeUpdate input)).1 = self :=
        congrArg RealizeOutcome.realize
          (nimbleClientRealizeUpdate_of_parked hstate htarget hclient input)
      rw [List.map_cons, Machine.run_cons, hstep, ih]

/-- The target is `synced` when `nimbleClientRealizeJoinGame` was the last call to set it; then
an update reaches a client that is not disconnected exactly when the realizer is not cleared.
The target is `cleared` when `nimbleClientRealizeQuitGame` was; then an update reaches it
exactly when the client is not disconnected, which it is until something starts it over. -/
theorem realizer_progress (memory : NimbleClientRealize L)
    (settings : NimbleClientRealizeSettings L) (now : MonotonicTimeMs)
    (operations : List (Operation L)) (input : UpdateInput L) :
    let self := (realizer L).run (nimbleClientRealizeInit memory settings now) operations
    ((operations.filterMap Operation.target?).getLast? = some .synced →
      self.client.state ≠ .disconnected →
        ((nimbleClientRealizeUpdate self input).update =
          some (nimbleClientUpdate self.client input) ↔ self.state ≠ .cleared)) ∧
    ((operations.filterMap Operation.target?).getLast? = some .cleared →
      ((nimbleClientRealizeUpdate self input).realize.state = .cleared ↔
        self.client.state ≠ .disconnected)) ∧
    (∀ before between, operations = before ++ .realizeQuitGame :: between →
      (∀ operation ∈ between, ¬operation.Restarts) →
        (nimbleClientRealizeUpdate self input).realize.state = .disconnected) := by
  intro self
  have htarget : self.targetState =
      ((operations.filterMap Operation.target?).getLast?).getD .init :=
    targetState_run _ _
  refine ⟨fun hlast hstate => ?_, fun hlast => ?_, fun before between hoperations hbetween => ?_⟩
  · rw [hlast] at htarget
    rw [update_of_target_synced htarget hstate]
    split
    · exact iff_of_true rfl ‹_›
    · exact iff_of_false (by simp) ‹_›
  · rw [hlast] at htarget
    rw [state_of_target_cleared htarget]
    split
    · exact iff_of_false (by decide) (not_not.mpr ‹_›)
    · exact iff_of_true rfl ‹_›
  · have hclient : self.client.state = .disconnected := by
      change ((realizer L).run _ operations).client.state = .disconnected
      rw [hoperations, Machine.run_append, Machine.run_cons]
      apply @Machine.run_invariant_of_guard _ _ _ (realizer L)
        (fun r => r.client.state = .disconnected) (fun _ operation => ¬operation.Restarts)
        (fun _ _ hdisconnected hrestarts => disconnected_performOperation hrestarts hdisconnected)
      · rfl
      · intro v hv
        exact hbetween v.2 ((realizer L).mem_of_mem_visits hv)
    rw [nimbleClientRealizeUpdate_of_disconnected hclient]

open Nimble.Small

/-- The target of a fresh realizer that is made to join is `synced`, and its updates reach the
client. -/
theorem realizer_progress_syncSession :
    (nimbleClientRealizeUpdate syncedRealizer (updateWith [joinResponse 4 3])).update =
      some (nimbleClientUpdate syncedRealizer.client (updateWith [joinResponse 4 3])) :=
  ((realizer_progress (realizeMemory ⟨1, []⟩) settings 0 (syncSession 10 5)
    (updateWith [joinResponse 4 3])).1 (by decide) (by decide)).mpr (by decide)

/-- A realizer that is reset and made to join before its next update. -/
def parkedRealizer : NimbleClientRealize smallLibraries :=
  (realizer smallLibraries).run (freshRealizer 1)
    [.realizeReset 0, .realizeJoinGame (0 : UInt8), .realizeUpdate (updateWith [])]

/-- A realizer that joins after a reset stays parked in `requestingConnect`, however often it is
updated and whatever waits in the transport; and the update behind `nimbleClientRealizeQuitGame`
leaves a synced realizer disconnected. -/
theorem realizer_progress_counterexample :
    Reachable parkedRealizer ∧ parkedRealizer.targetState = .synced ∧
      parkedRealizer.client.state = .requestingConnect ∧
      (∀ input, (nimbleClientRealizeUpdate parkedRealizer input).update = none) ∧
      (∀ inputs : List (UpdateInput smallLibraries),
        (realizer smallLibraries).run parkedRealizer (inputs.map .realizeUpdate) =
          parkedRealizer) ∧
      ∀ input, (nimbleClientRealizeUpdate (nimbleClientRealizeQuitGame syncedRealizer)
        input).realize.state = .disconnected := by
  have hstate : parkedRealizer.state = .cleared := by decide
  have htarget : parkedRealizer.targetState = .synced := by decide
  have hclient : parkedRealizer.client.state = .requestingConnect := by decide
  refine ⟨⟨_, _, _, _, rfl⟩, htarget, hclient, ?_, run_of_parked hstate htarget hclient, ?_⟩
  · intro input
    rw [nimbleClientRealizeUpdate_of_parked hstate htarget hclient]
  · intro input
    have hquit : (nimbleClientRealizeQuitGame syncedRealizer).client.state = .disconnected := rfl
    rw [nimbleClientRealizeUpdate_of_disconnected hquit]

/-! ## Agreement -/

/-- The calls of the realizer's own interface. -/
def Operation.IsRealizer : Operation L → Prop
  | .realizeInit _ _ => True
  | .realizeReInit _ _ => True
  | .realizeReset _ => True
  | .realizeJoinGame _ => True
  | .realizeQuitGame => True
  | .realizeUpdate _ => True
  | _ => False

/-- The quality tick of an update is the bad one that takes the counter past 60. -/
def NimbleClient.Trips (self : NimbleClient L) (input : UpdateInput L) : Prop :=
  self.Ticks input ∧ 60 ≤ (self.received input).client.quality.consideringDisconnectCounter ∧
    (self.received input).client.quality.watchdog.advance.recommend ≠ .keepConnection

/-- While the watchdog keeps a client, an update disconnects it exactly when it trips. -/
theorem disconnected_iff_trips {self : NimbleClient L} (hkeeps : KeepsConnected self)
    (hstate : self.state ≠ .disconnected) (input : UpdateInput L) :
    (nimbleClientUpdate self input).client.state = .disconnected ↔ self.Trips input := by
  have hreceived : (self.received input).client.state ≠ .disconnected := by
    rwa [Ne, disconnected_received]
  have hkeep := keepsConnected_received hkeeps input hreceived
  by_cases ht : self.Ticks input
  · have hwatchdog := watchdog_nimbleClientUpdate_of_ticks ht
    have hreason : (nimbleClientUpdate self input).client.quality.reason =
        ((self.received input).client.quality.watchdog.receive .tick).reason :=
      congrArg Watchdog.reason hwatchdog
    rw [state_nimbleClientUpdate_of_ticks ht, hreason]
    by_cases hgood :
        (self.received input).client.quality.watchdog.advance.recommend = .keepConnection
    · rw [Watchdog.receive_tick_of_good hgood]
      have hsame : (self.received input).client.quality.watchdog.advance.reason =
          .keepConnection := hkeep.1
      rw [if_neg (not_not.mpr hsame)]
      exact iff_of_false (by decide) fun h => h.2.2 hgood
    by_cases hcounter :
        (self.received input).client.quality.watchdog.consideringDisconnectCounter < 60
    · rw [Watchdog.receive_tick_of_bad hgood hcounter]
      have hsame : (self.received input).client.quality.watchdog.advance.reason =
          .keepConnection := hkeep.1
      rw [if_neg (not_not.mpr hsame)]
      exact iff_of_false (by decide) fun h => absurd h.2.1 (Nat.not_le.mpr hcounter)
    · rw [Watchdog.receive_tick_of_last hgood (by omega)]
      rw [if_pos hgood]
      exact iff_of_true rfl ⟨ht, Nat.not_lt.mp hcounter, hgood⟩
  · rw [state_nimbleClientUpdate_of_not_ticks ht]
    exact iff_of_false hreceived fun h => ht h.1

/-- What holds of the realizer and its client between two calls. -/
structure Agrees (r : NimbleClientRealize L) : Prop where
  keeps : KeepsConnected r.client
  synced : r.state = .synced → r.client.state = .synced ∨ r.client.state = .disconnected
  disconnected : r.state = .disconnected → r.client.state = .disconnected
  cleared : r.targetState = .cleared → r.client.state = .disconnected ∨ r.state = .cleared
  init : r.targetState = .init → r.state ≠ .synced

/-- The condition on a call: an update does not trip the watchdog, and none of its feeds makes
the synced client of a synced realizer start a download. -/
def StaysInStep (self : NimbleClientRealize L) (operation : Operation L) : Prop :=
  operation.IsRealizer ∧
    (∀ input, clientUpdate? self operation = some input → ¬self.client.Trips input) ∧
    (self.state = .synced → ∀ f ∈ operationFeeds self operation,
      ∀ x, dispatch? f.1 f.2 = some x → x.client.state = .synced → ¬x.StartsDownload)

instance (operation : Operation L) : Decidable operation.IsRealizer :=
  match operation with
  | .realizeInit _ _ => .isTrue trivial
  | .realizeReInit _ _ => .isTrue trivial
  | .realizeReset _ => .isTrue trivial
  | .realizeJoinGame _ => .isTrue trivial
  | .realizeQuitGame => .isTrue trivial
  | .realizeUpdate _ => .isTrue trivial
  | .reset _ => .isFalse id
  | .reInit _ _ => .isFalse id
  | .disconnect => .isFalse id
  | .update _ => .isFalse id
  | .outgoing _ => .isFalse id
  | .readStep _ => .isFalse id
  | .writeStep _ _ => .isFalse id

instance (self : NimbleClient L) (input : UpdateInput L) : Decidable (self.Trips input) :=
  inferInstanceAs (Decidable (_ ∧ _ ∧ _))

instance (self : NimbleClientRealize L) (operation : Operation L) :
    Decidable (StaysInStep self operation) :=
  inferInstanceAs (Decidable (operation.IsRealizer ∧
    (∀ input ∈ clientUpdate? self operation, ¬self.client.Trips input) ∧
    (self.state = .synced → ∀ f ∈ operationFeeds self operation,
      ∀ x ∈ dispatch? f.1 f.2, x.client.state = .synced → ¬x.StartsDownload)))

/-- What an update of the realizer should leave. -/
def InStep (self : NimbleClientRealize L) : Prop :=
  (self.state = .synced → self.client.state = .synced) ∧
    (self.client.state = .disconnected → self.state = .disconnected)

/-- Following the target sets the realizer to `synced` only for a synced client, and to
`cleared` only when that is the target. -/
theorem state_followTarget (self : NimbleClientRealize L) :
    (followTarget self).state = self.state ∨
      (followTarget self).state = .synced ∧ self.client.state = .synced ∨
      (followTarget self).state = .cleared ∧ self.targetState = .cleared := by
  have hmove := targetMove_followTarget self
  generalize followTarget self = after at hmove ⊢
  cases hmove with
  | clear htarget => exact Or.inr (Or.inr ⟨rfl, htarget⟩)
  | sync _ hclient => exact Or.inr (Or.inl ⟨rfl, hclient⟩)
  | _ => exact Or.inl rfl

/-- A realizer in step with a client that is not disconnected stays so when it follows its
target. -/
theorem Agrees.followTarget {r : NimbleClientRealize L} (h : Agrees r)
    (hconnected : r.client.state ≠ .disconnected)
    (hsynced : r.state = .synced → r.client.state = .synced) :
    Agrees (followTarget r) ∧ InStep (Nimble.followTarget r) := by
  have hsame := sameWatchdog_followTarget r
  have htarget := targetState_followTarget r
  have hsynced' : (Nimble.followTarget r).state = .synced →
      (Nimble.followTarget r).client.state = .synced := by
    intro hstate
    rw [hsame.synced_iff]
    rcases state_followTarget r with heq | ⟨_, hclient⟩ | ⟨heq, _⟩
    · exact hsynced (heq.symm.trans hstate)
    · exact hclient
    · rw [heq] at hstate
      cases hstate
  have hconnected' : (Nimble.followTarget r).client.state ≠ .disconnected := by
    rwa [Ne, hsame.disconnected_iff]
  refine ⟨⟨h.keeps.congr hsame, fun hstate => Or.inl (hsynced' hstate), ?_, ?_, ?_⟩, hsynced',
    fun hstate => absurd hstate hconnected'⟩
  · intro hstate
    rcases state_followTarget r with heq | ⟨heq, _⟩ | ⟨heq, _⟩
    · exact absurd (h.disconnected (heq.symm.trans hstate)) hconnected
    · rw [heq] at hstate
      cases hstate
    · rw [heq] at hstate
      cases hstate
  · intro hcleared
    rw [htarget] at hcleared
    have hstate := (h.cleared hcleared).resolve_left hconnected
    right
    rcases state_followTarget r with heq | ⟨_, hclient⟩ | ⟨heq, _⟩
    · rw [heq, hstate]
    · rw [Nimble.followTarget]
      rw [if_pos (hcleared.trans hstate.symm), hstate]
    · exact heq
  · intro hinit
    rw [htarget] at hinit
    have hstate := h.init hinit
    rw [Nimble.followTarget, moveTowardsTarget]
    rw [hinit]
    split <;> exact hstate

theorem synced_received {self : NimbleClient L} {input : UpdateInput L}
    (hstate : self.state = .synced)
    (h : ∀ f ∈ feeds (beginUpdate self input.now) input.queue, ∀ x,
      dispatch? f.1 f.2 = some x → x.client.state = .synced → ¬x.StartsDownload) :
    (self.received input).client.state = .synced :=
  @receiveLoop_invariant_of_guard _ (fun c => c.state = .synced)
    (fun c d => ∀ x, dispatch? c d = some x → x.client.state = .synced → ¬x.StartsDownload)
    (fun _ hc => hc) (fun _ hc => hc)
    (fun _ _ hc hfeed => synced_nimbleClientFeed hc fun x hx => hfeed x hx
      ((congrArg ProtocolState.state (protocolState_of_dispatch hx)).trans hc)) _ _ 0
    ((state_beginUpdate self input.now).trans hstate) h

/-- From a synced client an update leads to `synced` or `disconnected`, unless a feed starts a
download. -/
theorem synced_nimbleClientUpdate {self : NimbleClient L} {input : UpdateInput L}
    (hreceived : (self.received input).client.state = .synced)
    (hconnected : (nimbleClientUpdate self input).client.state ≠ .disconnected) :
    (nimbleClientUpdate self input).client.state = .synced := by
  by_cases ht : self.Ticks input
  · rw [state_nimbleClientUpdate_of_ticks ht] at hconnected ⊢
    split
    · rw [if_pos ‹_›] at hconnected
      exact absurd rfl hconnected
    · rfl
  · rw [state_nimbleClientUpdate_of_not_ticks ht, hreceived]

theorem Agrees.realizeUpdate {self : NimbleClientRealize L} (h : Agrees self)
    {input : UpdateInput L} (hstays : StaysInStep self (.realizeUpdate input)) :
    Agrees (nimbleClientRealizeUpdate self input).realize ∧
      InStep (nimbleClientRealizeUpdate self input).realize := by
  obtain ⟨_, htrips, hfeeds⟩ := hstays
  by_cases hconnected : self.client.state = .disconnected
  · rw [nimbleClientRealizeUpdate_of_disconnected hconnected]
    refine ⟨⟨h.keeps, nofun, fun _ => hconnected, fun _ => Or.inl hconnected,
      nofun⟩, nofun, fun _ => rfl⟩
  by_cases hupdates : self.UpdatesClient
  · have hinput : clientUpdate? self (.realizeUpdate input) = some input :=
      if_pos ⟨hconnected, hupdates⟩
    rw [nimbleClientRealizeUpdate_of_updates ⟨hconnected, hupdates⟩]
    have hupdated : (nimbleClientUpdate self.client input).client.state ≠ .disconnected := by
      rw [Ne, disconnected_iff_trips h.keeps hconnected]
      exact htrips input hinput
    have hsynced : self.state = .synced →
        (nimbleClientUpdate self.client input).client.state = .synced := by
      intro hstate
      have hfeeds := hfeeds hstate
      rw [operationFeeds, hinput] at hfeeds
      exact synced_nimbleClientUpdate
        (synced_received ((h.synced hstate).resolve_right hconnected) hfeeds) hupdated
    have hagrees : Agrees (self.withClient (nimbleClientUpdate self.client input).client) :=
      ⟨keepsConnected_nimbleClientUpdate h.keeps input, fun hs => Or.inl (hsynced hs),
        fun hs => absurd (h.disconnected hs) hconnected,
        fun hc => Or.inr ((h.cleared hc).resolve_left hconnected), h.init⟩
    exact hagrees.followTarget hupdated hsynced
  · rw [nimbleClientRealizeUpdate_of_not_updates hconnected hupdates]
    exact h.followTarget hconnected fun hs => (h.synced hs).resolve_right hconnected

theorem Agrees.operation {self : NimbleClientRealize L} (h : Agrees self)
    {operation : Operation L} (hstays : StaysInStep self operation) :
    Agrees (performOperation self operation).1 := by
  have hkeeps := keepsConnected_performOperation operation h.keeps
  cases operation with
  | realizeInit settings now =>
      exact ⟨hkeeps, nofun, nofun, nofun,
        nofun⟩
  | realizeReInit settings now =>
      exact ⟨hkeeps, nofun, nofun, nofun,
        nofun⟩
  | realizeReset now =>
      exact ⟨hkeeps, nofun, nofun, fun _ => Or.inr rfl,
        nofun⟩
  | realizeJoinGame options =>
      exact ⟨hkeeps, h.synced, h.disconnected, nofun, nofun⟩
  | realizeQuitGame =>
      exact ⟨hkeeps, fun _ => Or.inr rfl, fun _ => rfl, fun _ => Or.inl rfl,
        nofun⟩
  | realizeUpdate input => exact (h.realizeUpdate hstays).1
  | _ => exact absurd hstays.1 id

theorem agrees_nimbleClientRealizeInit (memory : NimbleClientRealize L)
    (settings : NimbleClientRealizeSettings L) (now : MonotonicTimeMs) :
    Agrees (nimbleClientRealizeInit memory settings now) :=
  ⟨fun _ => ⟨rfl, Nat.zero_le _⟩, nofun, nofun,
    nofun, nofun⟩

/-- In a run of realizer calls whose updates trip no watchdog and restart no download behind a
synced realizer, the realizer and its client are in step after every update. -/
theorem realizer_agreement (memory : NimbleClientRealize L)
    (settings : NimbleClientRealizeSettings L) (now : MonotonicTimeMs)
    (operations : List (Operation L))
    (hstays : ∀ v ∈ (realizer L).visits (nimbleClientRealizeInit memory settings now) operations,
      StaysInStep v.1 v.2) :
    ∀ v ∈ (realizer L).visits (nimbleClientRealizeInit memory settings now) operations,
      ∀ input, v.2 = .realizeUpdate input →
        InStep (nimbleClientRealizeUpdate v.1 input).realize := by
  have hagrees := @Machine.visits_invariant_of_guard _ _ _ (realizer L) Agrees StaysInStep
    (fun _ _ hself hstep => hself.operation hstep) _ operations
    (agrees_nimbleClientRealizeInit memory settings now) hstays
  intro v hv input hinput
  have hstep := hstays v hv
  rw [hinput] at hstep
  exact ((hagrees v hv).realizeUpdate hstep).2

/-- The update that completes the download leaves the two in step. -/
theorem realizer_agreement_syncSession : InStep syncedRealizer :=
  realizer_agreement (realizeMemory ⟨1, []⟩) settings 0 (syncSession 10 5) (by decide +kernel)
    ((realizer smallLibraries).run (freshRealizer 1) ((syncSession 10 5).take 5),
      .realizeUpdate (updateWith [blobPart 3 5 0 0xaa]))
    (((realizer smallLibraries).mem_visits_iff _ _ _).mpr
      ⟨(syncSession 10 5).take 5, [], rfl, rfl⟩)
    (updateWith [blobPart 3 5 0 0xaa]) rfl

/-- A synced realizer that hears nothing until its watchdog gives up. -/
def lostRealizer : NimbleClientRealize smallLibraries :=
  (realizer smallLibraries).run (freshRealizer 1)
    (syncSession 10 5 ++ List.replicate 75 (.realizeUpdate (updateWith [])))

/-- A joined realizer that is sent the game state response a second time. -/
def redownloadingRealizer : NimbleClientRealize smallLibraries :=
  (realizer smallLibraries).run (freshRealizer 1)
    (syncSession 10 5 ++ [.realizeUpdate (updateWith [joinResponse 4 3]),
      .realizeUpdate (updateWith [gameStateResponse 5 10 5])])

/-- The update in which the watchdog disconnects the client leaves the realizer synced, and so
does the one in which a second game state response sends it back to downloading. -/
theorem realizer_agreement_counterexample :
    (Reachable lostRealizer ∧ lostRealizer.state = .synced ∧
      lostRealizer.client.state = .disconnected) ∧
    Reachable redownloadingRealizer ∧ redownloadingRealizer.state = .synced ∧
      redownloadingRealizer.client.state = .joiningDownloadingState := by
  refine ⟨⟨⟨_, _, _, _, rfl⟩, ?_⟩, ⟨_, _, _, _, rfl⟩, ?_⟩
  · decide +kernel
  · decide +kernel

end Nimble
