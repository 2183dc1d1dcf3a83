import Nimble.Library.SequenceGaps
import Nimble.Model.SmallLibraries
import Nimble.Verification.Watchdog

/-! # Lost datagrams

A jump of the ordered id is recorded in the lagometer, in the counter of dropped datagrams and in
the dropping warning. What a run leaves in the three is what its events do to them. -/

namespace Nimble

open SequenceGaps

variable {L : Libraries}

/-! ## The record of losses -/

structure LossRecord (L : Libraries) where
  lagometer : L.Lagometer
  droppingDatagramWarning : L.StatsHoldPositive
  droppedDatagramCounter : Nat

def NimbleClient.lossRecord (self : NimbleClient L) : LossRecord L where
  lagometer := self.lagometer
  droppingDatagramWarning := self.quality.droppingDatagramWarning
  droppedDatagramCounter := self.quality.droppedDatagramCounter

/-- What the record is told: datagrams are missing, a game step response was read, a feed did not
fail, and a quality tick. -/
inductive LossEvent
  | dropped (count : Nat)
  | steps (latencyMs octetCount : Nat)
  | usable
  | tick

/-- The packets that an event adds to the lagometer. -/
def LossEvent.packets : LossEvent → List LagometerPacket
  | .dropped count => List.replicate count ⟨.dropped, 0, 0⟩
  | .steps latencyMs octetCount => [⟨.received, latencyMs, octetCount⟩]
  | .usable => []
  | .tick => []

/-- The samples that an event adds to the dropping warning. -/
def LossEvent.samples : LossEvent → List Bool
  | .dropped count => [decide (1 < count)]
  | .steps _ _ => []
  | .usable => [false]
  | .tick => []

def LossEvent.lost : LossEvent → Nat
  | .dropped count => count
  | _ => 0

def LossRecord.receive (record : LossRecord L) (event : LossEvent) : LossRecord L where
  lagometer := event.packets.foldl L.lagometerAddPacket record.lagometer
  droppingDatagramWarning :=
    event.samples.foldl L.statsHoldPositiveAdd record.droppingDatagramWarning
  droppedDatagramCounter :=
    match event with
    | .dropped count => record.droppedDatagramCounter + count
    | .tick => record.droppedDatagramCounter - 1
    | _ => record.droppedDatagramCounter

theorem lagometer_foldl_receive (record : LossRecord L) (events : List LossEvent) :
    (events.foldl LossRecord.receive record).lagometer =
      (events.flatMap LossEvent.packets).foldl L.lagometerAddPacket record.lagometer := by
  induction events generalizing record with
  | nil => rfl
  | cons event events ih => rw [List.foldl_cons, ih, List.flatMap_cons, List.foldl_append]; rfl

theorem droppingDatagramWarning_foldl_receive (record : LossRecord L)
    (events : List LossEvent) :
    (events.foldl LossRecord.receive record).droppingDatagramWarning =
      (events.flatMap LossEvent.samples).foldl L.statsHoldPositiveAdd
        record.droppingDatagramWarning := by
  induction events generalizing record with
  | nil => rfl
  | cons event events ih => rw [List.foldl_cons, ih, List.flatMap_cons, List.foldl_append]; rfl

/-- Without a tick the counter grows by what is lost. -/
theorem droppedDatagramCounter_foldl_receive (record : LossRecord L) {events : List LossEvent}
    (h : .tick ∉ events) :
    (events.foldl LossRecord.receive record).droppedDatagramCounter =
      record.droppedDatagramCounter + (events.map LossEvent.lost).sum := by
  induction events generalizing record with
  | nil => rfl
  | cons event events ih =>
      rw [List.mem_cons, not_or] at h
      rw [List.foldl_cons, ih _ h.2, List.map_cons, List.sum_cons]
      cases event with
      | tick => exact absurd rfl h.1
      | dropped count => exact Nat.add_assoc _ _ _
      | steps _ _ => simp [LossRecord.receive, LossEvent.lost]
      | usable => simp [LossRecord.receive, LossEvent.lost]

/-- An event adds as many dropped packets as datagrams are lost. -/
theorem countP_dropped_packets (event : LossEvent) :
    event.packets.countP (fun packet => packet.status = .dropped) = event.lost := by
  cases event with
  | dropped count => simp [LossEvent.packets, LossEvent.lost, List.countP_replicate]
  | _ => rfl

/-! ## The events of a feed -/

/-- The distance of a datagram to the last one accepted, if this one is accepted. -/
def acceptedDistance? (self : NimbleClient L) (datagram : Datagram L) : Option Int :=
  let distance := (L.orderedDatagramInLogicReceive self.orderedDatagramIn datagram.inStream).1
  if datagram.octets.length < 1 ∨ self.state = .disconnected ∨ distance ≤ 0 then none
  else some distance

def distanceEvents (distance : Int) : List LossEvent :=
  if 1 < distance then [.dropped (gap distance)] else []

def Dispatch.lossEvents (x : Dispatch L) : List LossEvent :=
  if x.command = some .gameStepResponse then [.steps x.client.latencyMs x.inStream.size] else []

def feedLoss (self : NimbleClient L) (datagram : Datagram L) : List LossEvent :=
  (acceptedDistance? self datagram).toList.flatMap distanceEvents ++
    (dispatch? self datagram).toList.flatMap Dispatch.lossEvents

theorem lossRecord_reportDropped (self : NimbleClient L) (distance : Int) :
    (reportDropped self distance).lossRecord =
      (distanceEvents distance).foldl LossRecord.receive self.lossRecord := by
  rw [reportDropped, distanceEvents]
  split <;> rfl

theorem lossRecord_nimbleClientReceivePong (self : NimbleClient L) (inStream : FldInStream)
    (now : MonotonicTimeMs) (locals : FeedLocals L) :
    (nimbleClientReceivePong self inStream now locals).2.1.lossRecord = self.lossRecord := by
  rw [nimbleClientReceivePong]
  dsimp only
  split <;> rfl

theorem lossRecord_readDatagramHeader {self : NimbleClient L} {datagram : Datagram L}
    (h : ¬(datagram.octets.length < 1 ∨ self.state = .disconnected)) :
    (readDatagramHeader self datagram).2.1.lossRecord =
      ((acceptedDistance? self datagram).toList.flatMap distanceEvents).foldl
        LossRecord.receive self.lossRecord := by
  rw [not_or] at h
  by_cases hdistance : (L.orderedDatagramInLogicReceive self.orderedDatagramIn
      datagram.inStream).1 ≤ 0
  · have hnone : acceptedDistance? self datagram = none := if_pos (Or.inr (Or.inr hdistance))
    have hcheck : readAndCheckOrderedDatagram self.orderedDatagramIn datagram.inStream =
        (-91, (L.orderedDatagramInLogicReceive self.orderedDatagramIn datagram.inStream).2) :=
      if_pos hdistance
    unfold Datagram.inStream at hcheck
    rw [readDatagramHeader, hcheck, hnone]
    rfl
  · have hsome : acceptedDistance? self datagram = some (L.orderedDatagramInLogicReceive
        self.orderedDatagramIn datagram.inStream).1 :=
      if_neg (by rw [not_or, not_or]; exact ⟨h.1, h.2, hdistance⟩)
    have hcheck : readAndCheckOrderedDatagram self.orderedDatagramIn datagram.inStream =
        L.orderedDatagramInLogicReceive self.orderedDatagramIn datagram.inStream :=
      if_neg hdistance
    have hpositive : ¬(L.orderedDatagramInLogicReceive self.orderedDatagramIn
      datagram.inStream).1 < 0 := by omega
    rw [hsome, Option.toList_some, List.flatMap_singleton]
    unfold Datagram.inStream at hcheck hpositive ⊢
    rw [readDatagramHeader, hcheck]
    dsimp only
    rw [if_neg hpositive, lossRecord_nimbleClientReceivePong, lossRecord_reportDropped]
    rfl

theorem Dispatch.lossRecord_outcome (x : Dispatch L) :
    x.outcome.2.lossRecord = x.lossEvents.foldl LossRecord.receive x.client.lossRecord := by
  have hquiet : x.command ≠ some .gameStepResponse → x.lossEvents = [] := fun h => if_neg h
  have hsteps : x.command = some .gameStepResponse →
      x.lossEvents = [.steps x.client.latencyMs x.inStream.size] := fun h => if_pos h
  have heffect := x.effect
  generalize x.outcome.2 = client at heffect ⊢
  cases heffect with
  | failSteps h => rw [hsteps h]; rfl
  | takeSteps h => rw [hsteps h.1]; rfl
  | connect h => rw [hquiet (by simp [h.1])]; rfl
  | takePart h => rw [hquiet (by simp [h.1])]; rfl
  | adoptBlob h => rw [hquiet (by simp [h.1.1])]; rfl
  | join h => rw [hquiet (by simp [h.1])]; rfl
  | startDownload h => rw [hquiet (by simp [h.1])]; rfl
  | outOfSlots h => rw [hquiet (by simp [h])]; rfl
  | ignore h => rw [hquiet h.steps]; rfl

theorem lossRecord_nimbleClientFeed (self : NimbleClient L) (datagram : Datagram L) :
    (nimbleClientFeed self datagram).2.lossRecord =
      (feedLoss self datagram).foldl LossRecord.receive self.lossRecord := by
  by_cases hearly : datagram.octets.length < 1 ∨ self.state = .disconnected
  · have hnone : dispatch? self datagram = none := if_pos hearly
    have hdistance : acceptedDistance? self datagram = none :=
      if_pos (hearly.imp_right Or.inl)
    rw [feedLoss, hnone, hdistance, nimbleClientFeed_eq]
    rcases hearly with hlength | hstate
    · rw [if_pos hlength]
      rfl
    · rw [if_pos hstate]
      split <;> rfl
  have hheader := lossRecord_readDatagramHeader hearly
  rw [feedLoss, List.foldl_append, ← hheader]
  cases h : dispatch? self datagram with
  | none =>
      rw [not_or] at hearly
      simp only [dispatch?, not_or.mpr hearly, ↓reduceIte] at h
      split at h
      · rename_i hfails
        rw [nimbleClientFeed_eq, if_neg hearly.1, if_neg hearly.2, if_pos hfails]
        rfl
      · cases h
  | some x =>
      rw [nimbleClientFeed_of_dispatch h, x.lossRecord_outcome, dispatch?_client h,
        Option.toList_some, List.flatMap_singleton]

/-! ## The events of a run -/

/-- The events of a feed and of the receive loop behind it. -/
def receivedLoss (self : NimbleClient L) (datagram : Datagram L) : List LossEvent :=
  feedLoss self datagram ++ if (nimbleClientFeed self datagram).1 < 0 then [] else [.usable]

theorem lossRecord_receiveLoop (self : NimbleClient L) (count : Nat)
    (queue : List (Received L)) :
    (receiveLoop self count queue).client.lossRecord =
      ((feeds self queue).flatMap fun f => receivedLoss f.1 f.2).foldl LossRecord.receive
        self.lossRecord := by
  induction queue generalizing self count with
  | nil => rfl
  | cons received queue ih =>
      cases received with
      | error code => rfl
      | datagram datagram =>
          by_cases hoctets : datagram.octets = []
          · rw [feeds_of_empty hoctets, receiveLoop_of_empty hoctets]
            exact rfl
          have hcount : self.countPacketIn.lossRecord = self.lossRecord := rfl
          have hfeed := lossRecord_nimbleClientFeed self.countPacketIn datagram
          rw [receiveLoop_datagram hoctets, feeds_datagram hoctets, List.flatMap_cons,
            List.foldl_append, receivedLoss, List.foldl_append, ← hcount, ← hfeed]
          split
          · rfl
          · rw [ih]
            rfl

def operationLoss (self : NimbleClientRealize L) (operation : Operation L) : List LossEvent :=
  match clientUpdate? self operation with
  | some input =>
    ((operationFeeds self operation).flatMap fun f => receivedLoss f.1 f.2) ++
      if self.client.Ticks input then [.tick] else []
  | none => []

theorem lossRecord_received (self : NimbleClient L) (input : UpdateInput L) :
    (self.received input).client.lossRecord =
      ((feeds (beginUpdate self input.now) input.queue).flatMap fun f =>
        receivedLoss f.1 f.2).foldl LossRecord.receive self.lossRecord := by
  have hbegin : (beginUpdate self input.now).lossRecord = self.lossRecord := by
    obtain ⟨_, _, _, _, hbegin⟩ := beginUpdate_eq self input.now
    rw [hbegin]
    rfl
  rw [← hbegin]
  exact lossRecord_receiveLoop _ 0 input.queue

theorem lossRecord_nimbleClientUpdate (self : NimbleClient L) (input : UpdateInput L) :
    (nimbleClientUpdate self input).client.lossRecord =
      (if self.Ticks input then [LossEvent.tick] else []).foldl LossRecord.receive
        (self.received input).client.lossRecord := by
  obtain ⟨_, hclient⟩ := client_nimbleClientUpdate self input
  have hlagometer : (nimbleClientUpdate self input).client.lagometer =
      (self.received input).client.lagometer := by
    rw [hclient]
    rfl
  have hrecord : (nimbleClientUpdate self input).client.lossRecord =
      { (self.received input).client.lossRecord with
        droppingDatagramWarning :=
          (nimbleClientUpdate self input).client.quality.droppingDatagramWarning
        droppedDatagramCounter :=
          (nimbleClientUpdate self input).client.quality.droppedDatagramCounter } := by
    rw [NimbleClient.lossRecord, hlagometer]
    rfl
  rw [hrecord]
  by_cases hcut : self.IsCutShort input
  · rw [if_neg fun h : self.Ticks input => h.1 hcut, nimbleClientUpdate_of_cutShort hcut]
    rfl
  rw [nimbleClientUpdate_of_not_cutShort hcut, quality_finishUpdate]
  by_cases hstate : (self.received input).client.state = .synced
  · rw [if_pos (show self.Ticks input from ⟨hcut, hstate⟩), quality_watched_of_synced hstate]
    have hconsider : ∀ (reason : NimbleConnectionQualityDisconnectReason)
        (quality : NimbleClientConnectionQuality L),
        (considerDisconnect reason quality).droppingDatagramWarning =
            quality.droppingDatagramWarning ∧
          (considerDisconnect reason quality).droppedDatagramCounter =
            quality.droppedDatagramCounter := by
      intro reason quality
      rw [considerDisconnect]
      split
      · exact ⟨rfl, rfl⟩
      · split <;> exact ⟨rfl, rfl⟩
    rw [qualityTick]
    dsimp only
    rw [(hconsider _ _).1, (hconsider _ _).2]
    rfl
  · rw [if_neg fun h : self.Ticks input => hstate h.2, watched_of_ne hstate]
    rfl

theorem lossRecord_performOperation (self : NimbleClientRealize L) {operation : Operation L}
    (h : ¬operation.Restarts) :
    (performOperation self operation).1.client.lossRecord =
      (operationLoss self operation).foldl LossRecord.receive self.client.lossRecord := by
  obtain ⟨_, hclient⟩ := client_performOperation self h
  rw [hclient, updatedClient, operationLoss, operationFeeds]
  cases clientUpdate? self operation with
  | none => rfl
  | some input =>
      dsimp only
      rw [List.foldl_append, ← lossRecord_received, ← lossRecord_nimbleClientUpdate]
      rfl

/-! ## Runs -/

/-- The feeds of a run. -/
def runFeeds (start : NimbleClientRealize L) (operations : List (Operation L)) :
    List (NimbleClient L × Datagram L) :=
  ((realizer L).visits start operations).flatMap fun v => operationFeeds v.1 v.2

/-- The distances of the datagrams that a run accepts. -/
def acceptedDistances (start : NimbleClientRealize L) (operations : List (Operation L)) :
    List Int :=
  (runFeeds start operations).filterMap fun f => acceptedDistance? f.1 f.2

def runLoss (start : NimbleClientRealize L) (operations : List (Operation L)) : List LossEvent :=
  ((realizer L).visits start operations).flatMap fun v => operationLoss v.1 v.2

/-- The call makes a quality tick that finds dropped datagrams to forget. -/
def ForgetsDropped (self : NimbleClientRealize L) (operation : Operation L) : Bool :=
  (clientUpdate? self operation).any fun input =>
    self.client.Ticks input ∧
      0 < (self.client.received input).client.lossRecord.droppedDatagramCounter

theorem runLoss_cons (start : NimbleClientRealize L) (operation : Operation L)
    (operations : List (Operation L)) :
    runLoss start (operation :: operations) =
      operationLoss start operation ++ runLoss (performOperation start operation).1 operations :=
  List.flatMap_cons

theorem acceptedDistances_cons (start : NimbleClientRealize L) (operation : Operation L)
    (operations : List (Operation L)) :
    acceptedDistances start (operation :: operations) =
      (operationFeeds start operation).filterMap (fun f => acceptedDistance? f.1 f.2) ++
        acceptedDistances (performOperation start operation).1 operations := by
  rw [acceptedDistances, runFeeds, Machine.visits_cons, List.flatMap_cons, List.filterMap_append]
  rfl

theorem acceptedDistance?_pos {self : NimbleClient L} {datagram : Datagram L} {distance : Int}
    (h : acceptedDistance? self datagram = some distance) : 0 < distance := by
  simp only [acceptedDistance?] at h
  split at h
  · cases h
  · cases h
    rename_i haccepted
    rw [not_or, not_or] at haccepted
    omega

theorem lost_receivedLoss (self : NimbleClient L) (datagram : Datagram L) :
    ((receivedLoss self datagram).map LossEvent.lost).sum =
      ((acceptedDistance? self datagram).toList.map gap).sum := by
  have hsteps : ((dispatch? self datagram).toList.flatMap Dispatch.lossEvents |>.map
      LossEvent.lost).sum = 0 := by
    cases dispatch? self datagram with
    | none => rfl
    | some x =>
        simp only [Option.toList_some, List.flatMap_singleton, Dispatch.lossEvents]
        split <;> rfl
  have husable : ((if (nimbleClientFeed self datagram).1 < 0 then [] else
      [LossEvent.usable]).map LossEvent.lost).sum = 0 := by
    split <;> rfl
  rw [receivedLoss, feedLoss, List.map_append, List.map_append, List.sum_append, List.sum_append,
    hsteps, husable]
  cases h : acceptedDistance? self datagram with
  | none => rfl
  | some distance =>
      have hpositive := acceptedDistance?_pos h
      simp only [Option.toList_some, List.flatMap_singleton, distanceEvents, List.map_cons,
        List.map_nil, List.sum_cons, List.sum_nil]
      split
      · rfl
      · simp only [List.map_nil, List.sum_nil, gap]
        omega

theorem lost_feeds (fs : List (NimbleClient L × Datagram L)) :
    ((fs.flatMap fun f => receivedLoss f.1 f.2).map LossEvent.lost).sum =
      ((fs.filterMap fun f => acceptedDistance? f.1 f.2).map gap).sum := by
  induction fs with
  | nil => rfl
  | cons f fs ih =>
      rw [List.flatMap_cons, List.map_append, List.sum_append, lost_receivedLoss, ih]
      cases h : acceptedDistance? f.1 f.2 with
      | none => simp [h]
      | some distance => simp [h]

theorem lost_operationLoss (self : NimbleClientRealize L) (operation : Operation L) :
    ((operationLoss self operation).map LossEvent.lost).sum =
      (((operationFeeds self operation).filterMap fun f => acceptedDistance? f.1 f.2).map
        gap).sum := by
  rw [operationLoss]
  cases h : clientUpdate? self operation with
  | none => rw [operationFeeds, h]; rfl
  | some input =>
      dsimp only
      rw [List.map_append, List.sum_append, lost_feeds]
      split <;> rfl

/-- All that is lost in a run shows in the distances of its datagrams. -/
theorem lost_runLoss (start : NimbleClientRealize L) (operations : List (Operation L)) :
    ((runLoss start operations).map LossEvent.lost).sum =
      ((acceptedDistances start operations).map gap).sum := by
  induction operations generalizing start with
  | nil => rfl
  | cons operation operations ih =>
      rw [runLoss_cons, acceptedDistances_cons, List.map_append, List.sum_append,
        lost_operationLoss, ih, List.map_append, List.sum_append]

theorem countP_dropped_flatMap (events : List LossEvent) :
    (events.flatMap LossEvent.packets).countP (fun packet => packet.status = .dropped) =
      (events.map LossEvent.lost).sum := by
  induction events with
  | nil => rfl
  | cons event events ih =>
      rw [List.flatMap_cons, List.countP_append, countP_dropped_packets, ih, List.map_cons,
        List.sum_cons]

theorem tick_not_mem_receivedLoss (fs : List (NimbleClient L × Datagram L)) :
    .tick ∉ fs.flatMap fun f => receivedLoss f.1 f.2 := by
  intro h
  obtain ⟨f, _, hf⟩ := List.mem_flatMap.mp h
  simp only [receivedLoss, feedLoss, List.mem_append, List.mem_flatMap, Option.mem_toList] at hf
  rcases hf with (⟨distance, _, hf⟩ | ⟨x, _, hf⟩) | hf
  · rw [distanceEvents] at hf
    split at hf <;> simp at hf
  · rw [Dispatch.lossEvents] at hf
    split at hf <;> simp at hf
  · split at hf <;> simp at hf

/-- A call adds what it finds lost to the counter, and its tick takes one away. -/
theorem droppedDatagramCounter_performOperation (self : NimbleClientRealize L)
    {operation : Operation L} (h : ¬operation.Restarts) :
    (performOperation self operation).1.client.lossRecord.droppedDatagramCounter +
        (if ForgetsDropped self operation then 1 else 0) =
      self.client.lossRecord.droppedDatagramCounter +
        ((operationLoss self operation).map LossEvent.lost).sum := by
  rw [lossRecord_performOperation self h, operationLoss, ForgetsDropped, operationFeeds]
  cases clientUpdate? self operation with
  | none => rfl
  | some input =>
      have hfeeds := droppedDatagramCounter_foldl_receive self.client.lossRecord
        (tick_not_mem_receivedLoss (feeds (beginUpdate self.client input.now) input.queue))
      dsimp only
      rw [List.foldl_append, List.map_append, List.sum_append, ← Nat.add_assoc, ← hfeeds,
        ← lossRecord_received]
      by_cases hticks : self.client.Ticks input
      · by_cases hpositive :
            0 < (self.client.received input).client.lossRecord.droppedDatagramCounter
        · simp [hticks, hpositive, LossRecord.receive, LossEvent.lost]
          omega
        · simp [hticks, hpositive, LossRecord.receive, LossEvent.lost]
          omega
      · simp [hticks]

theorem lossRecord_run (start : NimbleClientRealize L) {operations : List (Operation L)}
    (h : ∀ operation ∈ operations, ¬operation.Restarts) :
    ((realizer L).run start operations).client.lossRecord =
      (runLoss start operations).foldl LossRecord.receive start.client.lossRecord := by
  induction operations generalizing start with
  | nil => rfl
  | cons operation operations ih =>
      rw [List.forall_mem_cons] at h
      rw [runLoss_cons, List.foldl_append, ← lossRecord_performOperation start h.1]
      exact ih _ h.2

theorem droppedDatagramCounter_run (start : NimbleClientRealize L)
    {operations : List (Operation L)} (h : ∀ operation ∈ operations, ¬operation.Restarts) :
    ((realizer L).run start operations).client.lossRecord.droppedDatagramCounter +
        (realizer L).countSteps ForgetsDropped start operations =
      start.client.lossRecord.droppedDatagramCounter +
        ((runLoss start operations).map LossEvent.lost).sum := by
  induction operations generalizing start with
  | nil => rfl
  | cons operation operations ih =>
      rw [List.forall_mem_cons] at h
      have hstep := droppedDatagramCounter_performOperation start h.1
      have hrest := ih (performOperation start operation).1 h.2
      have hcount : (realizer L).countSteps ForgetsDropped start (operation :: operations) =
          (realizer L).countSteps ForgetsDropped (performOperation start operation).1 operations +
            if ForgetsDropped start operation then 1 else 0 := Machine.countSteps_cons _ _ _ _ _
      have hrun : (realizer L).run start (operation :: operations) =
          (realizer L).run (performOperation start operation).1 operations := rfl
      rw [hcount, hrun, runLoss_cons, List.map_append, List.sum_append]
      omega

/-! ## The accounts -/

/-- The ids that the server skipped between the accepted datagrams, whose ids are `ids` behind
`first`, are accounted for: a dropped packet each in the lagometer, the counter and what the
ticks took from it, and a positive sample for each feed that finds any. -/
structure LossIsAccounted (start : NimbleClientRealize L) (operations : List (Operation L))
    (first : Int) (ids : List Int) : Prop where
  lagometer : ((runLoss start operations).flatMap LossEvent.packets).countP
    (fun packet => packet.status = .dropped) = (missing first ids).card
  counter : ((realizer L).run start operations).client.quality.droppedDatagramCounter +
    (realizer L).countSteps ForgetsDropped start operations = (missing first ids).card
  warning : ∀ f ∈ runFeeds start operations, ∀ distance ∈ acceptedDistance? f.1 f.2,
    1 < distance → true ∈ (feedLoss f.1 f.2).flatMap LossEvent.samples

theorem samples_feedLoss {self : NimbleClient L} {datagram : Datagram L} {distance : Int}
    (h : acceptedDistance? self datagram = some distance) (hskips : 1 < distance) :
    true ∈ (feedLoss self datagram).flatMap LossEvent.samples ↔ distance ≠ 2 := by
  have hsteps : true ∉ ((dispatch? self datagram).toList.flatMap Dispatch.lossEvents).flatMap
      LossEvent.samples := by
    cases dispatch? self datagram with
    | none => simp
    | some x =>
        simp only [Option.toList_some, List.flatMap_singleton, Dispatch.lossEvents]
        split <;> simp [LossEvent.samples]
  rw [feedLoss, List.flatMap_append, List.mem_append, or_iff_left hsteps, h]
  simp only [Option.toList_some, List.flatMap_singleton, distanceEvents, if_pos hskips,
    LossEvent.samples, gap, List.mem_singleton, true_eq_decide_iff]
  omega

/-- In every run from a reset the lagometer and the counter account for the skipped ids. The
warning does so exactly when no accepted datagram skips a single id. -/
theorem datagram_loss (memory : NimbleClient L) (now : MonotonicTimeMs)
    (start : NimbleClientRealize L) (hreset : start.client = nimbleClientReset memory now)
    (operations : List (Operation L)) (h : ∀ operation ∈ operations, ¬operation.Restarts)
    (first : Int) (ids : List Int)
    (hids : acceptedDistances start operations = distances first ids) :
    ((realizer L).run start operations).client.lagometer =
        ((runLoss start operations).flatMap LossEvent.packets).foldl L.lagometerAddPacket
          L.lagometerInit ∧
      ((realizer L).run start operations).client.quality.droppingDatagramWarning =
        ((runLoss start operations).flatMap LossEvent.samples).foldl L.statsHoldPositiveAdd
          (L.statsHoldPositiveInit 20) ∧
      (LossIsAccounted start operations first ids ↔ 2 ∉ distances first ids) := by
  have hstart : start.client.lossRecord = ⟨L.lagometerInit, L.statsHoldPositiveInit 20, 0⟩ := by
    rw [hreset]
    rfl
  have hrecord := lossRecord_run start h
  have hmissing : (missing first ids).card = ((runLoss start operations).map
      LossEvent.lost).sum := by
    rw [lost_runLoss, hids]
    apply card_missing
    rw [← hids]
    intro distance hdistance
    obtain ⟨f, _, hf⟩ := List.mem_filterMap.mp hdistance
    exact acceptedDistance?_pos hf
  refine ⟨?_, ?_, ?_⟩
  · have hlagometer := congrArg LossRecord.lagometer hrecord
    rw [lagometer_foldl_receive, hstart] at hlagometer
    exact hlagometer
  · have hwarning := congrArg LossRecord.droppingDatagramWarning hrecord
    rw [droppingDatagramWarning_foldl_receive, hstart] at hwarning
    exact hwarning
  · rw [← hids]
    constructor
    · intro haccounted hsingle
      obtain ⟨f, hf, htwo⟩ := List.mem_filterMap.mp hsingle
      exact (samples_feedLoss htwo (by decide)).mp
        (haccounted.warning f hf 2 htwo (by decide)) rfl
    · intro hsingle
      have hcounter := droppedDatagramCounter_run start h
      rw [hstart, Nat.zero_add, ← hmissing] at hcounter
      refine ⟨(countP_dropped_flatMap _).trans hmissing.symm, hcounter, ?_⟩
      intro f hf distance hdistance hskips
      apply (samples_feedLoss hdistance hskips).mpr
      rintro rfl
      exact hsingle (List.mem_filterMap.mpr ⟨f, hf, hdistance⟩)

/-! ## Runs on fixed inputs -/

namespace Small

/-- A realizer whose client has just been reset. -/
def restartedRealizer : NimbleClientRealize smallLibraries :=
  (performOperation syncedRealizer (.reset 0)).1

/-- Datagrams with the ids 1 and `next`. -/
def twoDatagrams (next : UInt8) : List (Operation smallLibraries) :=
  [.update (updateWith [connectResponse 1, connectResponse next])]

end Small

open Nimble.Small

/-- The ids 2 and 3 are missing, and accounted for. -/
theorem datagram_loss_accounted : LossIsAccounted restartedRealizer (twoDatagrams 4) 0 [1, 4] :=
  (datagram_loss syncedRealizer.client 0 restartedRealizer rfl (twoDatagrams 4)
    (by simp [twoDatagrams, Operation.Restarts]) 0 [1, 4] (by decide +kernel)).2.2.mpr (by decide)

/-- The id 2 is missing, and the feed that finds that out reports a negative sample. -/
theorem datagram_loss_counterexample :
    Reachable restartedRealizer ∧ restartedRealizer.client = nimbleClientReset syncedRealizer.client 0 ∧
      acceptedDistances restartedRealizer (twoDatagrams 3) = distances 0 [1, 3] ∧
      ¬LossIsAccounted restartedRealizer (twoDatagrams 3) 0 [1, 3] := by
  have hsilent : ∃ f ∈ runFeeds restartedRealizer (twoDatagrams 3),
      acceptedDistance? f.1 f.2 = some 2 ∧
        true ∉ (feedLoss f.1 f.2).flatMap LossEvent.samples := by
    decide +kernel
  refine ⟨reachable_syncedRealizer.step _, rfl, by decide +kernel, fun haccounted => ?_⟩
  obtain ⟨f, hf, hdistance, hsample⟩ := hsilent
  exact hsample (haccounted.warning f hf 2 hdistance (by decide))

end Nimble
