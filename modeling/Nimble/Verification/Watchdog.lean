import Nimble.Verification.Update

/-! # The watchdog as a machine of its own

The four values that decide a disconnect see only three kinds of events. What a run does to
them is what its events do, and a counter over the verdicts of the quality ticks. -/

namespace Nimble

variable {L : Libraries}

/-! ## Events -/

/-- What the watchdog is told: a game step response was handled, a feed did not fail, and a
quality tick. -/
inductive QualityEvent
  | steps
  | datagram
  | tick
  deriving DecidableEq

def Watchdog.advance (w : Watchdog) : Watchdog :=
  { w with
    ticksWithoutIncomingDatagrams := w.ticksWithoutIncomingDatagrams + 1
    ticksWithoutAuthoritativeSteps := w.ticksWithoutAuthoritativeSteps + 1 }

def Watchdog.recommend (w : Watchdog) : NimbleConnectionQualityDisconnectReason :=
  if maxTicksWithoutDatagrams ≤ w.ticksWithoutIncomingDatagrams then
    .notReceivingDatagramsFromServer
  else if maxTicksWithoutSteps < w.ticksWithoutAuthoritativeSteps then
    .notReceivingStepsFromServer
  else .keepConnection

def Watchdog.consider (w : Watchdog) (reason : NimbleConnectionQualityDisconnectReason) :
    Watchdog :=
  if reason = .keepConnection then
    { w with consideringDisconnectCounter := w.consideringDisconnectCounter - 1 }
  else if w.consideringDisconnectCounter + 1 > 60 then
    { w with
      consideringDisconnectCounter := w.consideringDisconnectCounter + 1
      reason := reason }
  else { w with consideringDisconnectCounter := w.consideringDisconnectCounter + 1 }

def Watchdog.receive (w : Watchdog) : QualityEvent → Watchdog
  | .steps => { w with ticksWithoutAuthoritativeSteps := 0 }
  | .datagram => { w with ticksWithoutIncomingDatagrams := 0 }
  | .tick => w.advance.consider w.advance.recommend

theorem Watchdog.receive_tick_of_good {w : Watchdog}
    (h : w.advance.recommend = .keepConnection) :
    w.receive .tick = { w.advance with
      consideringDisconnectCounter := w.consideringDisconnectCounter - 1 } :=
  if_pos h

theorem Watchdog.receive_tick_of_bad {w : Watchdog} (h : w.advance.recommend ≠ .keepConnection)
    (hcounter : w.consideringDisconnectCounter < 60) :
    w.receive .tick = { w.advance with
      consideringDisconnectCounter := w.consideringDisconnectCounter + 1 } :=
  (if_neg h).trans (if_neg (show ¬w.consideringDisconnectCounter + 1 > 60 by omega))

theorem Watchdog.receive_tick_of_last {w : Watchdog} (h : w.advance.recommend ≠ .keepConnection)
    (hcounter : 60 ≤ w.consideringDisconnectCounter) :
    w.receive .tick = { w.advance with
      consideringDisconnectCounter := w.consideringDisconnectCounter + 1
      reason := w.advance.recommend } :=
  (if_neg h).trans (if_pos (show w.consideringDisconnectCounter + 1 > 60 by omega))

theorem watchdog_qualityTick (self : NimbleClientConnectionQuality L) :
    (qualityTick self).watchdog = self.watchdog.receive .tick := by
  have hreason : evaluateReason (countTick self) = self.watchdog.advance.recommend := rfl
  simp only [qualityTick, evaluate, considerDisconnect, hreason, Watchdog.receive,
    Watchdog.consider]
  split
  · rfl
  · split
    · exact (if_pos ‹_›).symm
    · exact (if_neg ‹_›).symm

/-! ## The events of a feed -/

/-- Of all commands only a game step response that is taken in touches the watchdog. -/
theorem Dispatch.watchdog_outcome (x : Dispatch L) :
    x.outcome.2.quality.watchdog =
      if x.TakesSteps then x.client.quality.watchdog.receive .steps
      else x.client.quality.watchdog := by
  have heffect := x.effect
  generalize x.outcome.2 = client at heffect ⊢
  cases heffect with
  | takeSteps h => exact (if_pos h).symm
  | failSteps _ h => exact (if_neg h).symm
  | ignore h => exact (if_neg fun htakes : x.TakesSteps => h.steps htakes.1).symm
  | connect h => exact (if_neg (by simp [TakesSteps, h.1])).symm
  | takePart h => exact (if_neg (by simp [TakesSteps, h.1])).symm
  | adoptBlob h => exact (if_neg (by simp [TakesSteps, h.1.1])).symm
  | join h => exact (if_neg (by simp [TakesSteps, h.1])).symm
  | startDownload h => exact (if_neg (by simp [TakesSteps, h.1])).symm
  | outOfSlots h => exact (if_neg (by simp [TakesSteps, h])).symm

/-- A feed that takes in the steps of a game step response. -/
def feedTakesSteps (self : NimbleClient L) (datagram : Datagram L) : Bool :=
  (dispatch? self datagram).any fun x => x.TakesSteps

/-- The events of a feed and of the receive loop behind it. -/
def feedEvents (self : NimbleClient L) (datagram : Datagram L) : List QualityEvent :=
  (if feedTakesSteps self datagram then [.steps] else []) ++
    if (nimbleClientFeed self datagram).1 < 0 then [] else [.datagram]

theorem watchdog_nimbleClientFeed (self : NimbleClient L) (datagram : Datagram L) :
    (nimbleClientFeed self datagram).2.quality.watchdog =
      if feedTakesSteps self datagram then self.quality.watchdog.receive .steps
      else self.quality.watchdog := by
  cases h : dispatch? self datagram with
  | none =>
      rw [if_neg (by simp [feedTakesSteps, h])]
      exact headerKeeps_watchdog.of_dispatch_eq_none h
  | some x =>
      rw [nimbleClientFeed_of_dispatch h, x.watchdog_outcome,
        headerKeeps_watchdog.of_dispatch h]
      simp [feedTakesSteps, h]

/-! ## The events of a receive loop -/

theorem watchdog_countPacketIn (self : NimbleClient L) :
    self.countPacketIn.quality.watchdog = self.quality.watchdog := rfl

theorem watchdog_receivedUsableDatagram (self : NimbleClient L) :
    self.receivedUsableDatagram.quality.watchdog =
      self.quality.watchdog.receive .datagram := rfl

def receiveEvents (self : NimbleClient L) (queue : List (Received L)) : List QualityEvent :=
  (feeds self queue).flatMap fun f => feedEvents f.1 f.2

theorem watchdog_receiveLoop (self : NimbleClient L) (count : Nat)
    (queue : List (Received L)) :
    (receiveLoop self count queue).client.quality.watchdog =
      (receiveEvents self queue).foldl Watchdog.receive self.quality.watchdog := by
  induction queue generalizing self count with
  | nil => rfl
  | cons received queue ih =>
      cases received with
      | error code => rfl
      | datagram datagram =>
          by_cases hoctets : datagram.octets = []
          · rw [receiveEvents, feeds_of_empty hoctets, receiveLoop_of_empty hoctets]
            exact rfl
          have hfeed := watchdog_nimbleClientFeed self.countPacketIn datagram
          rw [receiveLoop_datagram hoctets, receiveEvents, feeds_datagram hoctets]
          simp only [List.flatMap_cons, List.foldl_append, feedEvents]
          split
          · simp only [hfeed, watchdog_countPacketIn, List.flatMap_nil, List.foldl_nil]
            split <;> rfl
          · rw [ih, watchdog_receivedUsableDatagram, hfeed, watchdog_countPacketIn]
            split <;> rfl

/-- No datagram connects or disconnects the watchdog: a feed leaves `disconnected` as it is. -/
theorem disconnected_nimbleClientFeed (self : NimbleClient L) (datagram : Datagram L) :
    (nimbleClientFeed self datagram).2.state = .disconnected ↔ self.state = .disconnected := by
  cases h : dispatch? self datagram with
  | none =>
      have hstate : (nimbleClientFeed self datagram).2.state = self.state :=
        congrArg ProtocolState.state (protocolState_feed_of_dispatch_eq_none h)
      rw [hstate]
  | some x =>
      have hclient : x.client.state = self.state :=
        congrArg ProtocolState.state (protocolState_of_dispatch h)
      have hself : self.state ≠ .disconnected := by
        intro hself
        simp [dispatch?, hself] at h
      rw [nimbleClientFeed_of_dispatch h]
      rcases x.state_outcome with heq | ⟨_, heq⟩ | ⟨_, heq⟩ | ⟨_, heq⟩
      · rw [heq, hclient]
      · exact iff_of_false (by simp [heq]) hself
      · exact iff_of_false (by simp [heq]) hself
      · exact iff_of_false (by simp [heq]) hself

theorem disconnected_receiveLoop (self : NimbleClient L) (count : Nat)
    (queue : List (Received L)) :
    (receiveLoop self count queue).client.state = .disconnected ↔
      self.state = .disconnected :=
  @receiveLoop_invariant_of_guard _
    (fun c => c.state = .disconnected ↔ self.state = .disconnected) (fun _ _ => True)
    (fun _ hc => hc) (fun _ hc => hc)
    (fun c d hc _ => (disconnected_nimbleClientFeed c d).trans hc) _ _ count Iff.rfl
    (fun _ _ => trivial)

/-! ## The events of an update -/

/-- The update reaches the watchdog with a synced client. -/
def NimbleClient.Ticks (self : NimbleClient L) (input : UpdateInput L) : Prop :=
  ¬self.IsCutShort input ∧ (self.received input).client.state = .synced

instance (self : NimbleClient L) (input : UpdateInput L) : Decidable (self.Ticks input) :=
  inferInstanceAs (Decidable (_ ∧ _))

def updateEvents (self : NimbleClient L) (input : UpdateInput L) : List QualityEvent :=
  receiveEvents (beginUpdate self input.now) input.queue ++
    if self.Ticks input then [.tick] else []

theorem watchdog_beginUpdate (self : NimbleClient L) (now : MonotonicTimeMs) :
    (beginUpdate self now).quality.watchdog = self.quality.watchdog := by
  obtain ⟨_, _, _, _, h⟩ := beginUpdate_eq self now
  rw [h]

theorem disconnected_received (self : NimbleClient L) (input : UpdateInput L) :
    (self.received input).client.state = .disconnected ↔ self.state = .disconnected := by
  rw [NimbleClient.received, disconnected_receiveLoop, state_beginUpdate]

theorem watchdog_received (self : NimbleClient L) (input : UpdateInput L) :
    (self.received input).client.quality.watchdog =
      (receiveEvents (beginUpdate self input.now) input.queue).foldl Watchdog.receive
        self.quality.watchdog := by
  rw [NimbleClient.received, watchdog_receiveLoop, watchdog_beginUpdate]

theorem quality_watched_of_synced {self : NimbleClient L} (h : self.state = .synced) :
    (watched self).quality = qualityTick self.quality := by
  rw [watched_of_synced h]
  split <;> rfl

theorem state_watched_of_synced {self : NimbleClient L} (h : self.state = .synced) :
    (watched self).state =
      if (watched self).quality.reason ≠ .keepConnection then .disconnected else .synced := by
  rw [quality_watched_of_synced h, watched_of_synced h]
  simp only [nimbleClientConnectionQualityShouldDisconnect, decide_eq_true_eq]
  split
  · rfl
  · exact h

theorem watchdog_nimbleClientUpdate (self : NimbleClient L) (input : UpdateInput L) :
    (nimbleClientUpdate self input).client.quality.watchdog =
      (updateEvents self input).foldl Watchdog.receive self.quality.watchdog := by
  rw [updateEvents, List.foldl_append, ← watchdog_received]
  by_cases hcut : self.IsCutShort input
  · have hticks : ¬self.Ticks input := fun h => h.1 hcut
    rw [nimbleClientUpdate_of_cutShort hcut, if_neg hticks]
    rfl
  · rw [nimbleClientUpdate_of_not_cutShort hcut, quality_finishUpdate]
    by_cases hstate : (self.received input).client.state = .synced
    · have hticks : self.Ticks input := ⟨hcut, hstate⟩
      rw [if_pos hticks, quality_watched_of_synced hstate]
      exact watchdog_qualityTick _
    · have hticks : ¬self.Ticks input := fun h => hstate h.2
      rw [if_neg hticks, watched_of_ne hstate]
      rfl

/-- Behind a quality tick the client is disconnected exactly when a reason is recorded. -/
theorem state_nimbleClientUpdate_of_ticks {self : NimbleClient L} {input : UpdateInput L}
    (h : self.Ticks input) :
    (nimbleClientUpdate self input).client.state =
      if (nimbleClientUpdate self input).client.quality.reason ≠ .keepConnection then
        .disconnected
      else .synced := by
  rw [nimbleClientUpdate_of_not_cutShort h.1, quality_finishUpdate, state_finishUpdate]
  exact state_watched_of_synced h.2

/-- An update without a tick leaves the client's state as the receive loop does. -/
theorem state_nimbleClientUpdate_of_not_ticks {self : NimbleClient L} {input : UpdateInput L}
    (h : ¬self.Ticks input) :
    (nimbleClientUpdate self input).client.state = (self.received input).client.state := by
  by_cases hcut : self.IsCutShort input
  · rw [nimbleClientUpdate_of_cutShort hcut]
  · have hstate : (self.received input).client.state ≠ .synced := fun hs => h ⟨hcut, hs⟩
    rw [nimbleClientUpdate_of_not_cutShort hcut, state_finishUpdate, watched_of_ne hstate]

/-! ## The events of a run -/

def operationEvents (self : NimbleClientRealize L) (operation : Operation L) :
    List QualityEvent :=
  match clientUpdate? self operation with
  | some input => updateEvents self.client input
  | none => []

/-- `other` differs from `client` in nothing the watchdog looks at. -/
structure SameWatchdog (client other : NimbleClient L) : Prop where
  quality : other.quality = client.quality
  disconnected_iff : other.state = .disconnected ↔ client.state = .disconnected
  synced_iff : other.state = .synced ↔ client.state = .synced

theorem SameWatchdog.of_eq {client other : NimbleClient L}
    (hquality : other.quality = client.quality) (hstate : other.state = client.state) :
    SameWatchdog client other :=
  ⟨hquality, by rw [hstate], by rw [hstate]⟩

theorem sameWatchdog_followTarget (self : NimbleClientRealize L) :
    SameWatchdog self.client (followTarget self).client := by
  have hmove := targetMove_followTarget self
  generalize followTarget self = after at hmove ⊢
  cases hmove with
  | stay _ => exact .of_eq rfl rfl
  | clear _ => exact .of_eq rfl rfl
  | requestConnect _ hclient => constructor <;> simp [hclient]
  | requestState _ hclient => constructor <;> simp [hclient]
  | sync _ _ => exact .of_eq rfl rfl

/-- Between restarts and disconnects on purpose, a call acts on the watchdog through the update
it makes, if any. -/
theorem sameWatchdog_performOperation (self : NimbleClientRealize L) {operation : Operation L}
    (hrestarts : ¬operation.Restarts) (hdisconnects : ¬operation.Disconnects) :
    SameWatchdog (updatedClient self operation) (performOperation self operation).1.client := by
  obtain ⟨_, hclient⟩ := client_performOperation self hrestarts
  have hquality : (performOperation self operation).1.client.quality =
      (updatedClient self operation).quality := by
    rw [hclient]
    rfl
  rcases state_performOperation self hrestarts hdisconnects with h | ⟨h, h'⟩ | ⟨h, h'⟩
  · exact .of_eq hquality h
  · exact ⟨hquality, by simp [h, h'], by simp [h, h']⟩
  · exact ⟨hquality, by simp [h, h'], by simp [h, h']⟩

theorem performOperation_cases (self : NimbleClientRealize L) {operation : Operation L}
    (hrestarts : ¬operation.Restarts) (hdisconnects : ¬operation.Disconnects) :
    (∃ input, clientUpdate? self operation = some input ∧
      SameWatchdog (nimbleClientUpdate self.client input).client
        (performOperation self operation).1.client) ∨
    clientUpdate? self operation = none ∧
      SameWatchdog self.client (performOperation self operation).1.client := by
  have hsame := sameWatchdog_performOperation self hrestarts hdisconnects
  rw [updatedClient] at hsame
  cases hupdate : clientUpdate? self operation with
  | none =>
      rw [hupdate] at hsame
      exact Or.inr ⟨rfl, hsame⟩
  | some input =>
      rw [hupdate] at hsame
      exact Or.inl ⟨input, rfl, hsame⟩

theorem operationEvents_of_update {self : NimbleClientRealize L} {operation : Operation L}
    {input : UpdateInput L} (h : clientUpdate? self operation = some input) :
    operationEvents self operation = updateEvents self.client input := by
  rw [operationEvents, h]

theorem operationEvents_of_no_update {self : NimbleClientRealize L} {operation : Operation L}
    (h : clientUpdate? self operation = none) : operationEvents self operation = [] := by
  rw [operationEvents, h]

/-! ## Connected clients -/

/-- The watchdog of a client that it has not disconnected. -/
def Watchdog.Keeps (w : Watchdog) : Prop :=
  w.reason = .keepConnection ∧ w.consideringDisconnectCounter ≤ 60

theorem Watchdog.Keeps.foldl_receive {w : Watchdog} (h : w.Keeps) {events : List QualityEvent}
    (hticks : .tick ∉ events) : (events.foldl Watchdog.receive w).Keeps := by
  induction events generalizing w with
  | nil => exact h
  | cons event events ih =>
      rw [List.mem_cons, not_or] at hticks
      cases event with
      | tick => exact absurd rfl hticks.1
      | steps => exact ih h hticks.2
      | datagram => exact ih h hticks.2

theorem Watchdog.Keeps.receive_tick {w : Watchdog} (h : w.Keeps)
    (hreason : (w.receive .tick).reason = .keepConnection) : (w.receive .tick).Keeps := by
  refine ⟨hreason, ?_⟩
  by_cases hgood : w.advance.recommend = .keepConnection
  · rw [receive_tick_of_good hgood]
    exact Nat.le_trans (Nat.sub_le _ _) h.2
  by_cases hcounter : w.consideringDisconnectCounter < 60
  · rw [receive_tick_of_bad hgood hcounter]
    exact hcounter
  · rw [receive_tick_of_last hgood (by omega)] at hreason
    exact absurd hreason hgood

theorem tick_not_mem_receiveEvents (self : NimbleClient L) (queue : List (Received L)) :
    .tick ∉ receiveEvents self queue := by
  intro h
  obtain ⟨f, _, hf⟩ := List.mem_flatMap.mp h
  simp only [feedEvents, List.mem_append] at hf
  rcases hf with hf | hf
  · split at hf <;> simp at hf
  · split at hf <;> simp at hf

/-- Until the watchdog disconnects a client, no reason is recorded and the counter stays below
the level that would record one. -/
def KeepsConnected (client : NimbleClient L) : Prop :=
  client.state ≠ .disconnected → client.quality.watchdog.Keeps

theorem keepsConnected_received {self : NimbleClient L} (h : KeepsConnected self)
    (input : UpdateInput L) : KeepsConnected (self.received input).client := by
  intro hstate
  rw [Ne, disconnected_received] at hstate
  rw [watchdog_received]
  exact (h hstate).foldl_receive (tick_not_mem_receiveEvents _ _)

theorem watchdog_nimbleClientUpdate_of_ticks {self : NimbleClient L} {input : UpdateInput L}
    (h : self.Ticks input) :
    (nimbleClientUpdate self input).client.quality.watchdog =
      (self.received input).client.quality.watchdog.receive .tick := by
  rw [watchdog_nimbleClientUpdate, updateEvents, if_pos h, List.foldl_append,
    ← watchdog_received]
  rfl

theorem watchdog_nimbleClientUpdate_of_not_ticks {self : NimbleClient L}
    {input : UpdateInput L} (h : ¬self.Ticks input) :
    (nimbleClientUpdate self input).client.quality.watchdog =
      (self.received input).client.quality.watchdog := by
  rw [watchdog_nimbleClientUpdate, updateEvents, if_neg h, List.append_nil, watchdog_received]

theorem keepsConnected_nimbleClientUpdate {self : NimbleClient L} (h : KeepsConnected self)
    (input : UpdateInput L) : KeepsConnected (nimbleClientUpdate self input).client := by
  have hreceived := keepsConnected_received h input
  by_cases ht : self.Ticks input
  · intro hstate
    have hkeeps := hreceived (by rw [ht.2]; decide)
    rw [state_nimbleClientUpdate_of_ticks ht] at hstate
    have hreason : (nimbleClientUpdate self input).client.quality.watchdog.reason =
        .keepConnection := by
      by_contra hreason
      exact hstate (if_pos hreason)
    rw [watchdog_nimbleClientUpdate_of_ticks ht] at hreason ⊢
    exact hkeeps.receive_tick hreason
  · intro hstate
    rw [state_nimbleClientUpdate_of_not_ticks ht] at hstate
    rw [watchdog_nimbleClientUpdate_of_not_ticks ht]
    exact hreceived hstate

theorem KeepsConnected.congr {client other : NimbleClient L} (h : KeepsConnected client)
    (hsame : SameWatchdog client other) : KeepsConnected other := by
  intro hstate
  rw [Ne, hsame.disconnected_iff] at hstate
  rw [hsame.quality]
  exact h hstate

theorem keepsConnected_nimbleClientReset (self : NimbleClient L) (now : MonotonicTimeMs) :
    KeepsConnected (nimbleClientReset self now) :=
  fun _ => ⟨rfl, Nat.zero_le _⟩

theorem keepsConnected_performOperation {self : NimbleClientRealize L}
    (operation : Operation L) (h : KeepsConnected self.client) :
    KeepsConnected (performOperation self operation).1.client := by
  by_cases hrestarts : operation.Restarts
  · cases operation with
    | realizeInit settings now => exact fun _ => ⟨rfl, Nat.zero_le _⟩
    | realizeReInit settings now => exact keepsConnected_nimbleClientReset _ now
    | realizeReset now => exact keepsConnected_nimbleClientReset _ now
    | reset now => exact keepsConnected_nimbleClientReset _ now
    | reInit transport now => exact keepsConnected_nimbleClientReset _ now
    | _ => cases hrestarts
  by_cases hdisconnects : operation.Disconnects
  · cases operation with
    | realizeQuitGame => exact fun hstate => absurd rfl hstate
    | disconnect => exact fun hstate => absurd rfl hstate
    | _ => cases hdisconnects
  rcases performOperation_cases self hrestarts hdisconnects with ⟨input, _, hsame⟩ | ⟨_, hsame⟩
  · exact (keepsConnected_nimbleClientUpdate h input).congr hsame
  · exact h.congr hsame

theorem Reachable.keepsConnected {self : NimbleClientRealize L} (h : Reachable self) :
    KeepsConnected self.client :=
  @Reachable.invariant _ (fun r => KeepsConnected r.client)
    (fun _ _ _ _ => ⟨rfl, Nat.zero_le _⟩)
    (fun _ operation hself => keepsConnected_performOperation operation hself) _ h

end Nimble
