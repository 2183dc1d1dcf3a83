import Nimble.Library.UpDownCounter
import Nimble.Model.SmallLibraries
import Nimble.Verification.Watchdog

/-! # When the watchdog disconnects

The criterion is stated over the history of quality events alone. A history is listed newest
first. -/

namespace Nimble

variable {L : Libraries}

/-! ## Verdicts -/

/-- The number of quality ticks since an event was last seen. -/
def ticksSince (event : QualityEvent) (past : List QualityEvent) : Nat :=
  (past.takeWhile (· ≠ event)).count .tick

/-- Whether the newest event of a history is a bad tick, given that it is a tick. -/
def isBadTick (past : List QualityEvent) : Bool :=
  16 ≤ ticksSince .steps past ∨ 40 ≤ ticksSince .datagram past

/-- The verdicts on the ticks of a history, oldest first. -/
def verdicts : List QualityEvent → List Bool
  | [] => []
  | .tick :: past => verdicts past ++ [isBadTick (.tick :: past)]
  | .steps :: past => verdicts past
  | .datagram :: past => verdicts past

/-- Some contiguous block of ticks has 61 more bad ticks than good ones. -/
def Overdue (past : List QualityEvent) : Prop :=
  UpDown.HasBlock 61 (verdicts past)

@[simp] theorem ticksSince_steps_cons_steps (past : List QualityEvent) :
    ticksSince .steps (.steps :: past) = 0 := rfl

@[simp] theorem ticksSince_datagram_cons_datagram (past : List QualityEvent) :
    ticksSince .datagram (.datagram :: past) = 0 := rfl

@[simp] theorem ticksSince_steps_cons_datagram (past : List QualityEvent) :
    ticksSince .steps (.datagram :: past) = ticksSince .steps past := by
  simp [ticksSince]

@[simp] theorem ticksSince_datagram_cons_steps (past : List QualityEvent) :
    ticksSince .datagram (.steps :: past) = ticksSince .datagram past := by
  simp [ticksSince]

@[simp] theorem ticksSince_steps_cons_tick (past : List QualityEvent) :
    ticksSince .steps (.tick :: past) = ticksSince .steps past + 1 := by
  simp [ticksSince]

@[simp] theorem ticksSince_datagram_cons_tick (past : List QualityEvent) :
    ticksSince .datagram (.tick :: past) = ticksSince .datagram past + 1 := by
  simp [ticksSince]

/-- Events other than ticks leave the verdicts alone. -/
theorem verdicts_append_of_not_mem {events : List QualityEvent} (h : .tick ∉ events)
    (past : List QualityEvent) : verdicts (events ++ past) = verdicts past := by
  induction events with
  | nil => rfl
  | cons event events ih =>
      rw [List.mem_cons, not_or] at h
      cases event with
      | tick => exact absurd rfl h.1
      | steps => exact ih h.2
      | datagram => exact ih h.2

/-! ## What the watchdog records of a history -/

/-- The reason recorded for a history whose newest event is the tick that disconnects. -/
def reasonOfTick (past : List QualityEvent) : NimbleConnectionQualityDisconnectReason :=
  if 40 ≤ ticksSince .datagram past then .notReceivingDatagramsFromServer
  else .notReceivingStepsFromServer

/-- The last tick of the history is the one that first completes a block. -/
def Tripped (past : List QualityEvent) (reason : NimbleConnectionQualityDisconnectReason) :
    Prop :=
  ∃ rest earlier, past = rest ++ .tick :: earlier ∧ .tick ∉ rest ∧ ¬Overdue earlier ∧
    reason = reasonOfTick (.tick :: earlier)

structure Records (past : List QualityEvent) (w : Watchdog) : Prop where
  steps : w.ticksWithoutAuthoritativeSteps = ticksSince .steps past
  datagrams : w.ticksWithoutIncomingDatagrams = ticksSince .datagram past
  counter : w.consideringDisconnectCounter = UpDown.count 0 (verdicts past)
  connected : ¬Overdue past → w.reason = .keepConnection
  tripped : Overdue past → Tripped past w.reason

theorem Tripped.cons {past : List QualityEvent}
    {reason : NimbleConnectionQualityDisconnectReason} (h : Tripped past reason)
    {event : QualityEvent} (hevent : event ≠ .tick) : Tripped (event :: past) reason := by
  obtain ⟨rest, earlier, rfl, hrest, hearlier⟩ := h
  refine ⟨event :: rest, earlier, rfl, ?_, hearlier⟩
  rw [List.mem_cons, not_or]
  exact ⟨hevent.symm, hrest⟩

theorem Records.receive_steps {past : List QualityEvent} {w : Watchdog} (h : Records past w) :
    Records (.steps :: past) (w.receive .steps) where
  steps := rfl
  datagrams := by simpa [Watchdog.receive] using h.datagrams
  counter := h.counter
  connected := h.connected
  tripped hoverdue := (h.tripped hoverdue).cons (by decide)

theorem Records.receive_datagram {past : List QualityEvent} {w : Watchdog}
    (h : Records past w) : Records (.datagram :: past) (w.receive .datagram) where
  steps := by simpa [Watchdog.receive] using h.steps
  datagrams := rfl
  counter := h.counter
  connected := h.connected
  tripped hoverdue := (h.tripped hoverdue).cons (by decide)

/-- Events other than ticks need no condition. -/
theorem Records.foldl_receive {past : List QualityEvent} {w : Watchdog} (h : Records past w)
    {events : List QualityEvent} (hticks : .tick ∉ events) :
    Records (events.reverse ++ past) (events.foldl Watchdog.receive w) := by
  induction events generalizing past w with
  | nil => exact h
  | cons event events ih =>
      rw [List.mem_cons, not_or] at hticks
      rw [List.reverse_cons, List.append_assoc]
      cases event with
      | tick => exact absurd rfl hticks.1
      | steps => exact ih h.receive_steps hticks.2
      | datagram => exact ih h.receive_datagram hticks.2

/-- The watchdog recommends to keep the connection on good ticks. -/
theorem Records.recommend_eq {past : List QualityEvent} {w : Watchdog} (h : Records past w) :
    w.advance.recommend =
      if isBadTick (.tick :: past) then reasonOfTick (.tick :: past) else .keepConnection := by
  simp only [Watchdog.recommend, Watchdog.advance, maxTicksWithoutDatagrams,
    maxTicksWithoutSteps, isBadTick, reasonOfTick, h.steps, h.datagrams,
    ticksSince_steps_cons_tick, ticksSince_datagram_cons_tick, decide_eq_true_eq]
  split
  · rw [if_pos (Or.inr ‹_›)]
  · split
    · exact (if_pos (Or.inl (by omega))).symm
    · exact (if_neg (by omega)).symm

theorem reasonOfTick_ne (past : List QualityEvent) : reasonOfTick past ≠ .keepConnection := by
  rw [reasonOfTick]
  split <;> simp

theorem not_overdue_iff_count {past : List QualityEvent} (h : ¬Overdue past) :
    Overdue (.tick :: past) ↔
      61 ≤ UpDown.count 0 (verdicts past ++ [isBadTick (.tick :: past)]) :=
  UpDown.hasBlock_concat_iff h _

/-- A tick of a connected client: the counter moves by the verdict, and a reason is recorded
when a block is complete. -/
theorem Records.receive_tick {past : List QualityEvent} {w : Watchdog} (h : Records past w)
    (hoverdue : ¬Overdue past) : Records (.tick :: past) (w.receive .tick) := by
  have hcount : UpDown.count 0 (verdicts past) < 61 := UpDown.count_lt_of_not_hasBlock hoverdue
  have hoverdue' := not_overdue_iff_count hoverdue
  have hkeep := h.connected hoverdue
  rw [UpDown.count_append] at hoverdue'
  have hcounter := h.counter
  have hsteps : w.advance.ticksWithoutAuthoritativeSteps = ticksSince .steps (.tick :: past) := by
    simpa [Watchdog.advance] using h.steps
  have hdatagrams :
      w.advance.ticksWithoutIncomingDatagrams = ticksSince .datagram (.tick :: past) := by
    simpa [Watchdog.advance] using h.datagrams
  cases hbad : isBadTick (.tick :: past) with
  | false =>
      have hrecommend : w.advance.recommend = .keepConnection := by
        rw [h.recommend_eq, hbad]
        rfl
      rw [hbad, UpDown.count_cons_false, UpDown.count_nil] at hoverdue'
      rw [Watchdog.receive_tick_of_good hrecommend]
      refine ⟨hsteps, hdatagrams, ?_, fun _ => hkeep, fun hc => ?_⟩
      · rw [verdicts, hbad, UpDown.count_append, ← hcounter]
        rfl
      · have := hoverdue'.mp hc
        omega
  | true =>
      have hrecommend : w.advance.recommend = reasonOfTick (.tick :: past) := by
        rw [h.recommend_eq, hbad]
        rfl
      have hne : w.advance.recommend ≠ .keepConnection := hrecommend ▸ reasonOfTick_ne _
      have hcount' : w.consideringDisconnectCounter + 1 =
          UpDown.count 0 (verdicts (.tick :: past)) := by
        rw [verdicts, hbad, UpDown.count_append, ← hcounter]
        rfl
      rw [hbad, UpDown.count_cons_true, UpDown.count_nil, ← hcounter] at hoverdue'
      by_cases hlast : w.consideringDisconnectCounter < 60
      · rw [Watchdog.receive_tick_of_bad hne hlast]
        refine ⟨hsteps, hdatagrams, hcount', fun _ => hkeep, fun hc => ?_⟩
        have := hoverdue'.mp hc
        omega
      · rw [Watchdog.receive_tick_of_last hne (by omega)]
        refine ⟨hsteps, hdatagrams, hcount', fun hc => ?_, fun _ => ?_⟩
        · exact absurd (hoverdue'.mpr (by omega)) hc
        · exact ⟨[], past, rfl, by simp, hoverdue, hrecommend⟩

theorem Records.nil : Records [] ⟨0, 0, 0, .keepConnection⟩ where
  steps := rfl
  datagrams := rfl
  counter := rfl
  connected _ := rfl
  tripped h := absurd h (UpDown.not_hasBlock_of_forall_false (by omega) (by simp [verdicts]))

/-! ## Histories of runs -/

/-- The client's watchdog has recorded the history, and the client is disconnected exactly when
the history is overdue. -/
structure IsWatched (client : NimbleClient L) (past : List QualityEvent) : Prop where
  records : Records past client.quality.watchdog
  disconnected_iff : client.state = .disconnected ↔ Overdue past

theorem IsWatched.reason_iff {self : NimbleClient L} {past : List QualityEvent}
    (h : Records past self.quality.watchdog) :
    self.quality.reason ≠ .keepConnection ↔ Overdue past := by
  constructor
  · intro hreason
    by_contra hoverdue
    exact hreason (h.connected hoverdue)
  · intro hoverdue
    obtain ⟨_, _, _, _, _, hreason⟩ := h.tripped hoverdue
    intro hkeep
    exact reasonOfTick_ne _ (hreason.symm.trans hkeep)

theorem IsWatched.update {self : NimbleClient L} {past : List QualityEvent}
    (h : IsWatched self past) (input : UpdateInput L) :
    IsWatched (nimbleClientUpdate self input).client
      ((updateEvents self input).reverse ++ past) := by
  have hticks := tick_not_mem_receiveEvents (beginUpdate self input.now) input.queue
  have hrecords := h.records.foldl_receive hticks
  have hoverdue : (self.received input).client.state = .disconnected ↔
      Overdue ((receiveEvents (beginUpdate self input.now) input.queue).reverse ++ past) := by
    rw [disconnected_received, Overdue,
      verdicts_append_of_not_mem (by rwa [List.mem_reverse])]
    exact h.disconnected_iff
  have hwatchdog := watchdog_nimbleClientUpdate self input
  by_cases ht : self.Ticks input
  · have hconnected : ¬Overdue
        ((receiveEvents (beginUpdate self input.now) input.queue).reverse ++ past) := by
      rw [← hoverdue, ht.2]
      simp
    have htick := hrecords.receive_tick hconnected
    rw [updateEvents, if_pos ht, List.foldl_append] at hwatchdog
    rw [updateEvents, if_pos ht, List.reverse_append]
    have hupdated : Records
        (.tick :: ((receiveEvents (beginUpdate self input.now) input.queue).reverse ++ past))
        (nimbleClientUpdate self input).client.quality.watchdog := hwatchdog ▸ htick
    refine ⟨hupdated, ?_⟩
    refine Iff.trans ?_ (IsWatched.reason_iff hupdated)
    rw [state_nimbleClientUpdate_of_ticks ht]
    split <;> simp_all
  · rw [updateEvents, if_neg ht, List.append_nil] at hwatchdog
    rw [updateEvents, if_neg ht, List.append_nil]
    refine ⟨hwatchdog ▸ hrecords, ?_⟩
    rw [state_nimbleClientUpdate_of_not_ticks ht]
    exact hoverdue

/-- What `IsWatched` says depends on what the watchdog looks at. -/
theorem IsWatched.congr {client other : NimbleClient L} {past : List QualityEvent}
    (h : IsWatched client past) (hsame : SameWatchdog client other) : IsWatched other past :=
  ⟨hsame.quality ▸ h.records, hsame.disconnected_iff.trans h.disconnected_iff⟩

theorem IsWatched.operation {self : NimbleClientRealize L} {past : List QualityEvent}
    (h : IsWatched self.client past) {operation : Operation L} (hrestarts : ¬operation.Restarts)
    (hdisconnects : ¬operation.Disconnects) :
    IsWatched (performOperation self operation).1.client
      ((operationEvents self operation).reverse ++ past) := by
  rcases performOperation_cases self hrestarts hdisconnects with
    ⟨input, hupdate, hsame⟩ | ⟨hupdate, hsame⟩
  · rw [operationEvents_of_update hupdate]
    exact (h.update input).congr hsame
  · rw [operationEvents_of_no_update hupdate]
    exact h.congr hsame

/-- The quality events of a run. -/
def qualityHistory (start : NimbleClientRealize L) (operations : List (Operation L)) :
    List QualityEvent :=
  (((realizer L).visits start operations).flatMap fun v => operationEvents v.1 v.2).reverse

theorem qualityHistory_cons (start : NimbleClientRealize L) (operation : Operation L)
    (operations : List (Operation L)) :
    qualityHistory start (operation :: operations) =
      qualityHistory (performOperation start operation).1 operations ++
        (operationEvents start operation).reverse := by
  simp [qualityHistory, realizer]

theorem qualityHistory_append (start : NimbleClientRealize L)
    (before after : List (Operation L)) :
    qualityHistory start (before ++ after) =
      qualityHistory ((realizer L).run start before) after ++ qualityHistory start before := by
  simp [qualityHistory, Machine.visits_append]

/-- The calls of a session: none of them starts over or disconnects on purpose. -/
def IsSession (operations : List (Operation L)) : Prop :=
  ∀ operation ∈ operations, ¬operation.Restarts ∧ ¬operation.Disconnects

theorem IsWatched.run {start : NimbleClientRealize L} {past : List QualityEvent}
    (h : IsWatched start.client past) {operations : List (Operation L)}
    (hsession : IsSession operations) :
    IsWatched ((realizer L).run start operations).client
      (qualityHistory start operations ++ past) := by
  induction operations generalizing start past with
  | nil => exact h
  | cons operation operations ih =>
      have hhead := hsession operation List.mem_cons_self
      have hstep := h.operation hhead.1 hhead.2
      rw [qualityHistory_cons, List.append_assoc]
      exact ih hstep fun o ho => hsession o (List.mem_cons_of_mem _ ho)

theorem isWatched_nimbleClientReset (self : NimbleClient L) (now : MonotonicTimeMs) :
    IsWatched (nimbleClientReset self now) [] := by
  constructor
  · rw [quality_nimbleClientReset]
    exact Records.nil
  · rw [state_nimbleClientReset]
    exact iff_of_false (by simp)
      (UpDown.not_hasBlock_of_forall_false (by omega) (by simp [verdicts]))

/-! ## Steps in every window -/

/-- `nbsPendingStepsInSerialize` returns the number of steps in a datagram, which an `int` holds. -/
def StepCountsFit (L : Libraries) : Prop :=
  ∀ inStream pending, (L.nbsPendingStepsInSerialize inStream pending).1 < 2 ^ 31

/-- Every tick of the history is among the first 15 since steps were handled. -/
def StepsInEveryWindow (past : List QualityEvent) : Prop :=
  ∀ rest earlier, past = rest ++ .tick :: earlier → ticksSince .steps (.tick :: earlier) ≤ 15

theorem StepsInEveryWindow.of_append {rest past : List QualityEvent}
    (h : StepsInEveryWindow (rest ++ past)) : StepsInEveryWindow past := by
  rintro later earlier rfl
  exact h (rest ++ later) earlier (by simp)

/-- A history of good ticks in which steps do not come without a datagram. -/
structure IsSteady (past : List QualityEvent) : Prop where
  datagrams : ticksSince .datagram past ≤ ticksSince .steps past
  verdicts : ∀ b ∈ verdicts past, b = false

/-- A feed that takes in steps does not fail, so a datagram event follows a steps event. -/
theorem feedEvents_cases (hfit : StepCountsFit L) (self : NimbleClient L)
    (datagram : Datagram L) :
    feedEvents self datagram = [] ∨ feedEvents self datagram = [.datagram] ∨
      feedEvents self datagram = [.steps, .datagram] := by
  rw [feedEvents]
  by_cases hsteps : feedTakesSteps self datagram = true
  · cases h : dispatch? self datagram with
    | none => simp [feedTakesSteps, h] at hsteps
    | some x =>
        have htakes : x.TakesSteps := by simpa [feedTakesSteps, h] using hsteps
        have hresult : (nimbleClientFeed self datagram).1 =
            (serializeSteps x.client x.inStream x.locals).1 := by
          rw [nimbleClientFeed_of_dispatch h, Dispatch.outcome_gameStepResponse htakes.1,
            nimbleClientOnGameStepResponse_eq, if_neg (not_lt.mpr htakes.2)]
          exact intCast_of_mem (Int.le_trans (by decide) htakes.2) (hfit _ _)
        rw [if_pos hsteps, if_neg (by rw [hresult]; exact not_lt.mpr htakes.2)]
        exact Or.inr (Or.inr rfl)
  · rw [if_neg hsteps]
    split
    · exact Or.inl rfl
    · exact Or.inr (Or.inl rfl)

theorem IsSteady.feeds (hfit : StepCountsFit L) (fed : List (NimbleClient L × Datagram L))
    {past : List QualityEvent} (h : IsSteady past) :
    IsSteady ((fed.flatMap fun f => feedEvents f.1 f.2).reverse ++ past) := by
  induction fed generalizing past with
  | nil => exact h
  | cons f fed ih =>
      rw [List.flatMap_cons, List.reverse_append, List.append_assoc]
      apply ih
      rcases feedEvents_cases hfit f.1 f.2 with hf | hf | hf
      · rw [hf]
        exact h
      · rw [hf]
        exact ⟨Nat.zero_le _, h.verdicts⟩
      · rw [hf]
        exact ⟨Nat.zero_le _, h.verdicts⟩

theorem IsSteady.tick {past : List QualityEvent} (h : IsSteady past)
    (hwindow : ticksSince .steps (.tick :: past) ≤ 15) : IsSteady (.tick :: past) := by
  have hdatagrams := h.datagrams
  rw [ticksSince_steps_cons_tick] at hwindow
  constructor
  · simpa using hdatagrams
  · have hgood : isBadTick (.tick :: past) = false := by
      simp only [isBadTick, ticksSince_steps_cons_tick, ticksSince_datagram_cons_tick,
        decide_eq_false_iff_not]
      omega
    simp only [Nimble.verdicts, List.mem_append, List.mem_singleton, hgood]
    rintro b (hb | rfl)
    · exact h.verdicts b hb
    · rfl

theorem IsSteady.update (hfit : StepCountsFit L) (self : NimbleClient L) (input : UpdateInput L)
    {past : List QualityEvent} (h : IsSteady past)
    (hwindow : StepsInEveryWindow ((updateEvents self input).reverse ++ past)) :
    IsSteady ((updateEvents self input).reverse ++ past) := by
  have hfed := h.feeds hfit (Nimble.feeds (beginUpdate self input.now) input.queue)
  unfold updateEvents at hwindow ⊢
  split at hwindow
  · rw [if_pos ‹_›]
    rw [List.reverse_append] at hwindow ⊢
    exact hfed.tick (hwindow [] _ rfl)
  · rw [if_neg ‹_›, List.append_nil]
    exact hfed

theorem IsSteady.operation (hfit : StepCountsFit L) (self : NimbleClientRealize L)
    (operation : Operation L) {past : List QualityEvent} (h : IsSteady past)
    (hwindow : StepsInEveryWindow ((operationEvents self operation).reverse ++ past)) :
    IsSteady ((operationEvents self operation).reverse ++ past) := by
  cases hupdate : clientUpdate? self operation with
  | none =>
      rw [operationEvents_of_no_update hupdate]
      exact h
  | some input =>
      rw [operationEvents_of_update hupdate] at hwindow ⊢
      exact h.update hfit self.client input hwindow

theorem IsSteady.run (hfit : StepCountsFit L) {start : NimbleClientRealize L}
    {operations : List (Operation L)} {past : List QualityEvent} (h : IsSteady past)
    (hwindow : StepsInEveryWindow (qualityHistory start operations ++ past)) :
    IsSteady (qualityHistory start operations ++ past) := by
  induction operations generalizing start past with
  | nil => exact h
  | cons operation operations ih =>
      rw [qualityHistory_cons, List.append_assoc] at hwindow ⊢
      exact ih (h.operation hfit start operation hwindow.of_append) hwindow

/-! ## The criterion -/

/-- What a session from a reset client makes of the watchdog. -/
structure DisconnectSpec (client : NimbleClient L) (past : List QualityEvent) : Prop where
  /-- Disconnected means that some block of ticks has 61 more bad ticks than good ones. -/
  disconnected_iff : client.state = .disconnected ↔ UpDown.HasBlock 61 (verdicts past)
  /-- The last tick was the first to complete such a block, and the reason is read off it. -/
  tripped : client.state = .disconnected → Tripped past client.quality.reason
  connected : client.state ≠ .disconnected → client.quality.reason = .keepConnection
  /-- Bad spells on the two sides of 60 good ticks are not summed up. -/
  spells : ∀ before k after, 60 ≤ k →
    verdicts past = before ++ (List.replicate k false ++ after) →
      (client.state = .disconnected ↔ UpDown.HasBlock 61 before ∨ UpDown.HasBlock 61 after)

theorem IsWatched.disconnectSpec {client : NimbleClient L} {past : List QualityEvent}
    (h : IsWatched client past) : DisconnectSpec client past where
  disconnected_iff := h.disconnected_iff
  tripped hstate := h.records.tripped (h.disconnected_iff.mp hstate)
  connected hstate := h.records.connected fun hoverdue =>
    hstate (h.disconnected_iff.mpr hoverdue)
  spells before k after hk hverdicts := by
    rw [h.disconnected_iff, Overdue, hverdicts]
    exact UpDown.hasBlock_append_replicate_false (by omega) before after

/-- In every session from a reset client, the client is disconnected exactly when some block of
quality ticks has 61 more bad ticks than good ones, and the update that disconnects it is the
one whose tick completes the first such block. -/
theorem disconnect_criterion (self : NimbleClientRealize L) (now : MonotonicTimeMs)
    (operations : List (Operation L)) (hsession : IsSession operations) :
    let start := self.withClient (nimbleClientReset self.client now)
    let client := ((realizer L).run start operations).client
    let past := qualityHistory start operations
    DisconnectSpec client past ∧
    (∀ before operation after, operations = before ++ operation :: after →
      ((realizer L).run start before).client.state ≠ .disconnected →
      ((realizer L).run start (before ++ [operation])).client.state = .disconnected →
        .tick ∈ operationEvents ((realizer L).run start before) operation) ∧
    (StepCountsFit L → StepsInEveryWindow past → client.state ≠ .disconnected) := by
  intro start client past
  have hwatched : ∀ done, IsSession done →
      IsWatched ((realizer L).run start done).client (qualityHistory start done) := by
    intro done hdone
    have hrun := @IsWatched.run _ start [] (isWatched_nimbleClientReset self.client now) done hdone
    rwa [List.append_nil] at hrun
  refine ⟨(hwatched operations hsession).disconnectSpec, ?_, ?_⟩
  · rintro before operation after rfl hconnected hdisconnected
    have hbefore : IsSession before := fun o ho => hsession o (List.mem_append_left _ ho)
    have hthrough : IsSession (before ++ [operation]) := by
      intro o ho
      apply hsession o
      rw [← List.singleton_append, ← List.append_assoc]
      exact List.mem_append_left _ ho
    by_contra htick
    have hoverdue := (hwatched _ hthrough).disconnected_iff.mp hdisconnected
    rw [qualityHistory_append, Overdue] at hoverdue
    simp only [qualityHistory, Machine.visits_cons, Machine.visits_nil, List.flatMap_cons,
      List.flatMap_nil, List.append_nil] at hoverdue
    rw [verdicts_append_of_not_mem (by rwa [List.mem_reverse])] at hoverdue
    exact hconnected ((hwatched before hbefore).disconnected_iff.mpr hoverdue)
  · intro hfit hwindow hdisconnected
    have hnil : IsSteady [] := ⟨Nat.le_refl _, by simp [verdicts]⟩
    have hsteady := @IsSteady.run _ hfit start operations [] hnil (by rwa [List.append_nil])
    rw [List.append_nil] at hsteady
    exact UpDown.not_hasBlock_of_forall_false (by omega) hsteady.verdicts
      ((hwatched operations hsession).disconnected_iff.mp hdisconnected)

open Nimble.Small

/-- A session of 76 updates of a synced client that receives nothing, the first of which is the
one that completes the download. -/
def silentSession : List (Operation smallLibraries) :=
  syncSession 10 5 ++ List.replicate 75 (.update (updateWith []))

theorem isSession_silentSession : IsSession silentSession := by
  intro operation h
  rcases List.mem_append.mp h with h | h
  · simp only [syncSession, List.mem_cons, List.not_mem_nil, or_false] at h
    rcases h with rfl | rfl | rfl | rfl | rfl | rfl <;> exact ⟨id, id⟩
  · rw [List.eq_of_mem_replicate h]
    exact ⟨id, id⟩

theorem disconnect_criterion_silentSession :
    UpDown.HasBlock 61 (verdicts (qualityHistory
      ((freshRealizer 1).withClient (nimbleClientReset (freshRealizer 1).client 0))
      silentSession)) :=
  (disconnect_criterion (freshRealizer 1) 0 silentSession
    isSession_silentSession).1.disconnected_iff.mp (by decide +kernel)

end Nimble
