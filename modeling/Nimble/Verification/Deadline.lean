import Nimble.Verification.Disconnect

/-! # How long a silent server is tolerated

A synced client that hears no steps has a number of ticks left. Only updates that get past
their receive loop use them up. -/

namespace Nimble

variable {L : Libraries}

/-! ## Ticks left -/

/-- The number of ticks without steps after which the client is disconnected: up to 15 that may
be good and lower the counter, and then bad ones up to the 61st. -/
def ticksLeft (w : Watchdog) : Nat :=
  (15 - w.ticksWithoutAuthoritativeSteps) +
    (61 - (w.consideringDisconnectCounter - (15 - w.ticksWithoutAuthoritativeSteps)))

theorem ticksLeft_le (w : Watchdog) : ticksLeft w ≤ 76 := by
  rw [ticksLeft]
  omega

/-- From the 16th tick without steps on every tick is bad. -/
theorem Watchdog.recommend_ne_of_lt {w : Watchdog} (h : 15 < w.ticksWithoutAuthoritativeSteps) :
    w.recommend ≠ .keepConnection := by
  rw [recommend, maxTicksWithoutSteps]
  split <;> decide

/-- A tick uses up one of the ticks left, or it is the last one. -/
theorem ticksLeft_receive_tick {w : Watchdog} (h : w.Keeps) :
    (w.receive .tick).reason ≠ .keepConnection ∨
      ticksLeft (w.receive .tick) + 1 ≤ ticksLeft w := by
  have hcounter := h.2
  by_cases hgood : w.advance.recommend = .keepConnection
  · have hsteps : w.ticksWithoutAuthoritativeSteps < 15 := by
      by_contra hsteps
      have hlt : 15 < w.advance.ticksWithoutAuthoritativeSteps := by
        simp only [Watchdog.advance]
        omega
      exact Watchdog.recommend_ne_of_lt hlt hgood
    right
    rw [Watchdog.receive_tick_of_good hgood]
    simp only [ticksLeft, Watchdog.advance]
    omega
  by_cases hlast : w.consideringDisconnectCounter < 60
  · right
    rw [Watchdog.receive_tick_of_bad hgood hlast]
    simp only [ticksLeft, Watchdog.advance]
    omega
  · left
    rw [Watchdog.receive_tick_of_last hgood (by omega)]
    exact hgood

theorem ticksLeft_pos {w : Watchdog} (h : w.Keeps) : 0 < ticksLeft w := by
  have hcounter := h.2
  rw [ticksLeft]
  omega

/-! ## Silent feeds -/

/-- A feed that neither takes in steps nor starts a download. -/
def IsSilent (self : NimbleClient L) (datagram : Datagram L) : Prop :=
  ∀ x, dispatch? self datagram = some x → ¬x.TakesSteps ∧ ¬x.StartsDownload

theorem synced_nimbleClientFeed {self : NimbleClient L} {datagram : Datagram L}
    (hstate : self.state = .synced)
    (h : ∀ x, dispatch? self datagram = some x → ¬x.StartsDownload) :
    (nimbleClientFeed self datagram).2.state = .synced := by
  cases hd : dispatch? self datagram with
  | none =>
      have heq : (nimbleClientFeed self datagram).2.state = self.state :=
        congrArg ProtocolState.state (protocolState_feed_of_dispatch_eq_none hd)
      rw [heq, hstate]
  | some x =>
      have hclient : x.client.state = .synced :=
        (congrArg ProtocolState.state (protocolState_of_dispatch hd)).trans hstate
      rw [nimbleClientFeed_of_dispatch hd]
      rcases x.state_outcome with heq | ⟨hc, _⟩ | ⟨hs, _⟩ | ⟨_, heq⟩
      · rw [heq, hclient]
      · exact absurd (hclient.symm.trans hc.2.2) (by decide)
      · exact absurd hs (h x hd)
      · exact heq

theorem ticksLeft_nimbleClientFeed {self : NimbleClient L} {datagram : Datagram L}
    (h : IsSilent self datagram) :
    ticksLeft (nimbleClientFeed self datagram).2.quality.watchdog =
      ticksLeft self.quality.watchdog := by
  have hsteps : feedTakesSteps self datagram = false := by
    cases hd : dispatch? self datagram with
    | none => simp [feedTakesSteps, hd]
    | some x => simpa [feedTakesSteps, hd] using (h x hd).1
  rw [watchdog_nimbleClientFeed, hsteps]
  rfl

/-- A silent receive loop leaves a synced client synced, with as many ticks left. -/
theorem received_of_silent {self : NimbleClient L} {input : UpdateInput L}
    (hstate : self.state = .synced)
    (h : ∀ f ∈ feeds (beginUpdate self input.now) input.queue, IsSilent f.1 f.2) :
    (self.received input).client.state = .synced ∧
      ticksLeft (self.received input).client.quality.watchdog =
        ticksLeft self.quality.watchdog := by
  have hbegin : (beginUpdate self input.now).state = .synced ∧
      ticksLeft (beginUpdate self input.now).quality.watchdog =
        ticksLeft self.quality.watchdog :=
    ⟨(state_beginUpdate self input.now).trans hstate, by rw [watchdog_beginUpdate]⟩
  exact @receiveLoop_invariant_of_guard _
    (fun c => c.state = .synced ∧
      ticksLeft c.quality.watchdog = ticksLeft self.quality.watchdog) IsSilent
    (fun _ hc => hc) (fun _ hc => hc)
    (fun c d hc hsilent => ⟨synced_nimbleClientFeed hc.1 fun x hx => (hsilent x hx).2,
      (ticksLeft_nimbleClientFeed hsilent).trans hc.2⟩) _ _ 0 hbegin h

/-! ## What cuts an update short -/

/-- Why a datagram ends the receive loop of a client at its turn. -/
inductive EndsLoop (self : NimbleClient L) (datagram : Datagram L) : Prop
  /-- Its ordered id is not newer than the last one, or cannot be read. -/
  | orderedId (hconnected : self.state ≠ .disconnected)
      (h : (L.orderedDatagramInLogicReceive self.orderedDatagramIn datagram.inStream).1 ≤ 0)
  /-- The time behind the id cannot be read. -/
  | pong (hconnected : self.state ≠ .disconnected)
      (h : (L.fldInStreamReadUInt16 (L.fldInStreamCheckMarker
        (L.orderedDatagramInLogicReceive self.orderedDatagramIn datagram.inStream).2.2
          0xdd)).code < 0)
  | unknownCommand {x : Dispatch L} (hx : dispatch? self datagram = some x)
      (h : ∀ cmd, x.command = some cmd → cmd.isHandled = false)
  | handler {x : Dispatch L} (hx : dispatch? self datagram = some x) (h : x.outcome.1 < 0)

theorem readDatagramHeader_fails_iff (self : NimbleClient L) (datagram : Datagram L) :
    (readDatagramHeader self datagram).1 < 0 ↔
      (L.orderedDatagramInLogicReceive self.orderedDatagramIn datagram.inStream).1 ≤ 0 ∨
        (L.fldInStreamReadUInt16 (L.fldInStreamCheckMarker
          (L.orderedDatagramInLogicReceive self.orderedDatagramIn datagram.inStream).2.2
            0xdd)).code < 0 := by
  have hrefusal : (-91 : Int) < 0 := Int.negSucc_lt_zero 90
  simp only [readDatagramHeader, readAndCheckOrderedDatagram, Datagram.inStream]
  split
  · dsimp only
    exact iff_of_true hrefusal (Or.inl ‹_›)
  · rename_i hnewer
    rw [if_neg (by omega), nimbleClientReceivePong]
    dsimp only
    split
    · exact iff_of_true ‹_› (Or.inr ‹_›)
    · exact iff_of_false (Int.lt_irrefl 0) (not_or.mpr ⟨hnewer, ‹_›⟩)

theorem feed_fails_iff {self : NimbleClient L} {datagram : Datagram L}
    (hoctets : datagram.octets ≠ []) :
    (nimbleClientFeed self datagram).1 < 0 ↔ EndsLoop self datagram := by
  have hlength : ¬datagram.octets.length < 1 := by
    have := List.length_pos_of_ne_nil hoctets
    omega
  have hheader := readDatagramHeader_fails_iff self datagram
  by_cases hdisconnected : self.state = .disconnected
  · have hnone : dispatch? self datagram = none := if_pos (Or.inr hdisconnected)
    rw [nimbleClientFeed_eq, if_neg hlength, if_pos hdisconnected]
    refine iff_of_false (Int.lt_irrefl 0) fun hends => ?_
    cases hends with
    | orderedId hconnected => exact hconnected hdisconnected
    | pong hconnected => exact hconnected hdisconnected
    | unknownCommand hx => cases hnone.symm.trans hx
    | handler hx => cases hnone.symm.trans hx
  cases hx : dispatch? self datagram with
  | none =>
      have hfails : (readDatagramHeader self datagram).1 < 0 := by
        by_contra hreads
        rw [dispatch?, if_neg (not_or.mpr ⟨hlength, hdisconnected⟩)] at hx
        dsimp only at hx
        rw [if_neg hreads] at hx
        cases hx
      rw [nimbleClientFeed_eq, if_neg hlength, if_neg hdisconnected, if_pos hfails]
      exact iff_of_true hfails ((hheader.mp hfails).elim (.orderedId hdisconnected)
        (.pong hdisconnected))
  | some x =>
      have hreads : ¬(readDatagramHeader self datagram).1 < 0 := by
        intro hfails
        rw [dispatch?, if_neg (not_or.mpr ⟨hlength, hdisconnected⟩)] at hx
        dsimp only at hx
        rw [if_pos hfails] at hx
        cases hx
      rw [nimbleClientFeed_of_dispatch hx]
      constructor
      · exact .handler hx
      · intro hends
        cases hends with
        | orderedId _ h => exact absurd (hheader.mpr (Or.inl h)) hreads
        | pong _ h => exact absurd (hheader.mpr (Or.inr h)) hreads
        | handler hy h =>
            obtain rfl := Option.some.inj (hx.symm.trans hy)
            exact h
        | unknownCommand hy h =>
            obtain rfl := Option.some.inj (hx.symm.trans hy)
            rcases x.command_cases with hc | hc | hc | hc | hc | hc | ⟨_, hc⟩
            all_goals first | cases h _ hc | (rw [hc]; exact Int.negSucc_lt_zero 0)

/-- The receive loop comes to an error of the transport, or to a datagram that ends it. -/
inductive CutsShort : NimbleClient L → List (Received L) → Prop
  | error (self : NimbleClient L) (code : Nat) (queue : List (Received L)) :
      CutsShort self (.error code :: queue)
  | datagram {self : NimbleClient L} {datagram : Datagram L} (queue : List (Received L))
      (hoctets : datagram.octets ≠ []) (h : EndsLoop self.countPacketIn datagram) :
      CutsShort self (.datagram datagram :: queue)
  | later {self : NimbleClient L} {datagram : Datagram L} {queue : List (Received L)}
      (hoctets : datagram.octets ≠ []) (h : ¬EndsLoop self.countPacketIn datagram)
      (hlater : CutsShort
        (nimbleClientFeed self.countPacketIn datagram).2.receivedUsableDatagram queue) :
      CutsShort self (.datagram datagram :: queue)

theorem receiveLoop_fails_iff (self : NimbleClient L) (count : Nat)
    (queue : List (Received L)) :
    (receiveLoop self count queue).result < 0 ↔ CutsShort self queue := by
  induction queue generalizing self count with
  | nil => exact iff_of_false (Int.not_lt.mpr (Int.natCast_nonneg count)) nofun
  | cons received queue ih =>
      cases received with
      | error code =>
          exact iff_of_true (by simp only [receiveLoop, receiveError]; omega) (.error self code queue)
      | datagram datagram =>
          by_cases hoctets : datagram.octets = []
          · rw [receiveLoop_of_empty hoctets]
            refine iff_of_false (Int.not_lt.mpr (Int.natCast_nonneg count)) fun hcuts => ?_
            cases hcuts with
            | datagram _ hne => exact hne hoctets
            | later hne => exact hne hoctets
          rw [receiveLoop_datagram hoctets]
          split
          · have hends := (feed_fails_iff hoctets).mp ‹_›
            exact iff_of_true ‹_› (.datagram queue hoctets hends)
          · have hlasts : ¬EndsLoop self.countPacketIn datagram :=
              fun hends => ‹¬_› ((feed_fails_iff hoctets).mpr hends)
            rw [ih]
            refine ⟨.later hoctets hlasts, fun hcuts => ?_⟩
            cases hcuts with
            | datagram _ _ hends => exact absurd hends hlasts
            | later _ _ hlater => exact hlater

/-- So what the transport holds says whether an update is cut short. -/
theorem isCutShort_iff (self : NimbleClient L) (input : UpdateInput L) :
    self.IsCutShort input ↔ CutsShort (beginUpdate self input.now) input.queue :=
  receiveLoop_fails_iff _ 0 input.queue

/-! ## Silent runs -/

/-- A call that makes an update which gets past its receive loop. -/
def completesUpdate (self : NimbleClientRealize L) (operation : Operation L) : Bool :=
  (clientUpdate? self operation).any fun input => ¬self.client.IsCutShort input

/-- The calls of a silent run do not start over, and their feeds are silent. -/
def SilentOperation (self : NimbleClientRealize L) (operation : Operation L) : Prop :=
  ¬operation.Restarts ∧ ∀ f ∈ operationFeeds self operation, IsSilent f.1 f.2

/-- What holds of a silent run until the client is disconnected. -/
structure AwaitsSteps (client : NimbleClient L) : Prop where
  synced : client.state = .synced
  keeps : KeepsConnected client

theorem disconnected_nimbleClientUpdate {self : NimbleClient L} (input : UpdateInput L)
    (h : self.state = .disconnected) :
    (nimbleClientUpdate self input).client.state = .disconnected := by
  have hreceived := (disconnected_received self input).mpr h
  have hticks : ¬self.Ticks input := by
    intro ht
    rw [ht.2] at hreceived
    cases hreceived
  rw [state_nimbleClientUpdate_of_not_ticks hticks, hreceived]

/-- Only starting over ends a disconnect. -/
theorem disconnected_performOperation {self : NimbleClientRealize L} {operation : Operation L}
    (hrestarts : ¬operation.Restarts) (h : self.client.state = .disconnected) :
    (performOperation self operation).1.client.state = .disconnected := by
  by_cases hdisconnects : operation.Disconnects
  · cases operation with
    | realizeQuitGame => rfl
    | disconnect => rfl
    | _ => cases hdisconnects
  rcases performOperation_cases self hrestarts hdisconnects with ⟨input, _, hsame⟩ | ⟨_, hsame⟩
  · exact hsame.disconnected_iff.mpr (disconnected_nimbleClientUpdate input h)
  · exact hsame.disconnected_iff.mpr h

theorem AwaitsSteps.congr {client other : NimbleClient L} (h : AwaitsSteps client)
    (hsame : SameWatchdog client other) : AwaitsSteps other :=
  ⟨hsame.synced_iff.mpr h.synced, h.keeps.congr hsame⟩

/-- A silent update disconnects the client, or uses up a tick if it gets past its receive
loop. -/
theorem AwaitsSteps.update {self : NimbleClient L} (h : AwaitsSteps self)
    {input : UpdateInput L}
    (hsilent : ∀ f ∈ feeds (beginUpdate self input.now) input.queue, IsSilent f.1 f.2) :
    (nimbleClientUpdate self input).client.state = .disconnected ∨
      AwaitsSteps (nimbleClientUpdate self input).client ∧
        ticksLeft (nimbleClientUpdate self input).client.quality.watchdog +
          (if self.IsCutShort input then 0 else 1) ≤ ticksLeft self.quality.watchdog := by
  obtain ⟨hstate, hleft⟩ := received_of_silent h.synced hsilent
  have hkeeps := keepsConnected_nimbleClientUpdate h.keeps input
  by_cases hcut : self.IsCutShort input
  · have hticks : ¬self.Ticks input := fun ht => ht.1 hcut
    refine Or.inr ⟨⟨?_, hkeeps⟩, ?_⟩
    · rw [state_nimbleClientUpdate_of_not_ticks hticks, hstate]
    · rw [watchdog_nimbleClientUpdate_of_not_ticks hticks, hleft, if_pos hcut]
      omega
  · have hticks : self.Ticks input := ⟨hcut, hstate⟩
    have hwatchdog := watchdog_nimbleClientUpdate_of_ticks hticks
    have hreceived := keepsConnected_received h.keeps input (by rw [hstate]; decide)
    have hupdated := state_nimbleClientUpdate_of_ticks hticks
    by_cases hreason :
        (nimbleClientUpdate self input).client.quality.reason = .keepConnection
    · rw [if_neg (not_not.mpr hreason)] at hupdated
      refine Or.inr ⟨⟨hupdated, hkeeps⟩, ?_⟩
      rw [hwatchdog, if_neg hcut, ← hleft]
      apply (ticksLeft_receive_tick hreceived).resolve_left
      rw [not_not, ← hwatchdog]
      exact hreason
    · rw [if_pos hreason] at hupdated
      exact Or.inl hupdated

theorem AwaitsSteps.operation {self : NimbleClientRealize L} (h : AwaitsSteps self.client)
    {operation : Operation L} (hsilent : SilentOperation self operation) :
    (performOperation self operation).1.client.state = .disconnected ∨
      AwaitsSteps (performOperation self operation).1.client ∧
        ticksLeft (performOperation self operation).1.client.quality.watchdog +
          (if completesUpdate self operation then 1 else 0) ≤
            ticksLeft self.client.quality.watchdog := by
  by_cases hdisconnects : operation.Disconnects
  · cases operation with
    | realizeQuitGame => exact Or.inl rfl
    | disconnect => exact Or.inl rfl
    | _ => cases hdisconnects
  rcases performOperation_cases self hsilent.1 hdisconnects with
    ⟨input, hinput, hsame⟩ | ⟨hnone, hsame⟩
  · have hfeeds := hsilent.2
    rw [operationFeeds, hinput] at hfeeds
    rcases h.update hfeeds with hdisconnected | ⟨hawaits, hleft⟩
    · exact Or.inl (hsame.disconnected_iff.mpr hdisconnected)
    · refine Or.inr ⟨hawaits.congr hsame, ?_⟩
      rw [hsame.quality, completesUpdate, hinput]
      by_cases hcut : self.client.IsCutShort input
      · simpa [hcut] using hleft
      · simpa [hcut] using hleft
  · refine Or.inr ⟨h.congr hsame, ?_⟩
    rw [hsame.quality, completesUpdate, hnone]
    exact Nat.le_refl _

/-- In a silent run of a reachable synced client, as many updates that get past their receive
loop as there are ticks left disconnect it; 76 of them always do. What is in the queue decides
which updates do not get past it. -/
theorem watchdog_deadline {start : NimbleClientRealize L} (hreachable : Reachable start)
    (hsynced : start.client.state = .synced) (operations : List (Operation L))
    (hsilent : ∀ v ∈ (realizer L).visits start operations, SilentOperation v.1 v.2) :
    (ticksLeft start.client.quality.watchdog ≤
        (realizer L).countSteps completesUpdate start operations →
      ((realizer L).run start operations).client.state = .disconnected) ∧
    ((∀ v ∈ (realizer L).visits start operations, ∀ input,
        clientUpdate? v.1 v.2 = some input → ¬v.1.client.IsCutShort input) →
      76 ≤ (realizer L).countSteps (fun r operation => (clientUpdate? r operation).isSome)
        start operations →
      ((realizer L).run start operations).client.state = .disconnected) ∧
    ∀ (client : NimbleClient L) (input : UpdateInput L),
      client.IsCutShort input ↔ CutsShort (beginUpdate client input.now) input.queue := by
  have hdeadline : ticksLeft start.client.quality.watchdog ≤
        (realizer L).countSteps completesUpdate start operations →
      ((realizer L).run start operations).client.state = .disconnected := by
    intro henough
    exact @Machine.run_reaches_of_measure _ _ _ (realizer L)
      (fun r => AwaitsSteps r.client) (fun r => r.client.state = .disconnected)
      SilentOperation completesUpdate (fun r => ticksLeft r.client.quality.watchdog)
      (fun _ _ hgoal hguard => disconnected_performOperation hguard.1 hgoal)
      (fun _ _ hinv hguard => hinv.operation hguard)
      (fun _ hinv => ticksLeft_pos (hinv.keeps (by rw [hinv.synced]; decide)))
      start operations ⟨hsynced, hreachable.keepsConnected⟩ hsilent henough
  refine ⟨hdeadline, fun huncut hcount => hdeadline ?_, isCutShort_iff⟩
  have hsame : (realizer L).countSteps completesUpdate start operations =
      (realizer L).countSteps (fun r operation => (clientUpdate? r operation).isSome)
        start operations := by
    apply List.countP_congr
    intro v hv
    cases hinput : clientUpdate? v.1 v.2 with
    | none => simp [completesUpdate, hinput]
    | some input => simpa [completesUpdate, hinput] using huncut v hv input hinput
  rw [hsame]
  exact (ticksLeft_le _).trans hcount

open Nimble.Small

theorem silentOperation_update_nil (self : NimbleClientRealize smallLibraries) :
    SilentOperation self (.update (updateWith [])) :=
  ⟨id, fun _ hf => nomatch hf⟩

/-- When its updates find the transport empty, it is disconnected by the 75th: the update that
completed the download has ticked once. -/
theorem watchdog_deadline_silence :
    ((realizer smallLibraries).run syncedRealizer
      (List.replicate 75 (.update (updateWith [])))).client.state = .disconnected := by
  have hsilent : ∀ v ∈ (realizer smallLibraries).visits syncedRealizer
      (List.replicate 75 (.update (updateWith []))), SilentOperation v.1 v.2 := by
    intro v hv
    rw [List.eq_of_mem_replicate ((realizer smallLibraries).mem_of_mem_visits hv)]
    exact silentOperation_update_nil v.1
  exact (watchdog_deadline reachable_syncedRealizer (by decide) _ hsilent).1 (by decide +kernel)

/-- The network repeats the last datagram of the download once in each update. Every receive
loop stops at the duplicate, so no update ticks and the client stays synced. -/
theorem watchdog_deadline_counterexample :
    Reachable syncedRealizer ∧ syncedRealizer.client.state = .synced ∧
      ((realizer smallLibraries).visits syncedRealizer
        (List.replicate 76 (.update (updateWith [blobPart 3 5 0 0xaa])))).all
          (fun v => (operationFeeds v.1 v.2).all fun f => (dispatch? f.1 f.2).isNone) = true ∧
      ((realizer smallLibraries).run syncedRealizer
        (List.replicate 76 (.update (updateWith [blobPart 3 5 0 0xaa])))).client.state =
          .synced := by
  refine ⟨reachable_syncedRealizer, ?_⟩
  decide +kernel

end Nimble
