import Nimble.Library.Queue
import Nimble.Verification.DatagramLoss
import Nimble.Verification.Pacing
import Nimble.Verification.Sessions

/-! # Traffic statistics

The statistics per second hear of the datagrams in both directions, of the steps that the server
sends, and of the clock. -/

namespace Nimble

variable {L : Libraries}

/-! ## What the statistics hear -/

inductive TrafficEvent
  | received
  | tookSteps (stepCount : Int)
  | clock (now : MonotonicTimeMs)
  | sentSteps
  | sentMessage
  deriving DecidableEq

/-- A datagram is handed to the transport. -/
def TrafficEvent.isSend : TrafficEvent → Bool
  | .sentSteps => true
  | .sentMessage => true
  | _ => false

structure TrafficStats (L : Libraries) where
  packetsPerSecondOut : L.StatsIntPerSecond
  packetsPerSecondIn : L.StatsIntPerSecond
  simulationStepsPerSecond : L.StatsIntPerSecond
  sentStepsDatagramCountPerSecond : L.StatsIntPerSecond

def NimbleClient.trafficStats (self : NimbleClient L) : TrafficStats L where
  packetsPerSecondOut := self.packetsPerSecondOut
  packetsPerSecondIn := self.packetsPerSecondIn
  simulationStepsPerSecond := self.simulationStepsPerSecond
  sentStepsDatagramCountPerSecond := self.sentStepsDatagramCountPerSecond

/-- The statistics behind an event: one count for each datagram, and all of them see the clock. -/
def TrafficStats.hear (stats : TrafficStats L) : TrafficEvent → TrafficStats L
  | .received =>
    { stats with packetsPerSecondIn := L.statsIntPerSecondAdd stats.packetsPerSecondIn 1 }
  | .tookSteps stepCount =>
    { stats with
      simulationStepsPerSecond :=
        L.statsIntPerSecondAdd stats.simulationStepsPerSecond (intCast stepCount) }
  | .clock now =>
    { packetsPerSecondOut := L.statsIntPerSecondUpdate stats.packetsPerSecondOut now
      packetsPerSecondIn := L.statsIntPerSecondUpdate stats.packetsPerSecondIn now
      simulationStepsPerSecond := L.statsIntPerSecondUpdate stats.simulationStepsPerSecond now
      sentStepsDatagramCountPerSecond :=
        L.statsIntPerSecondUpdate stats.sentStepsDatagramCountPerSecond now }
  | .sentSteps =>
    { stats with
      packetsPerSecondOut := L.statsIntPerSecondAdd stats.packetsPerSecondOut 1
      sentStepsDatagramCountPerSecond :=
        L.statsIntPerSecondAdd stats.sentStepsDatagramCountPerSecond 1 }
  | .sentMessage =>
    { stats with packetsPerSecondOut := L.statsIntPerSecondAdd stats.packetsPerSecondOut 1 }

/-- The statistics behind some events. -/
def TrafficStats.hearAll (stats : TrafficStats L) (events : List TrafficEvent) : TrafficStats L :=
  events.foldl hear stats

theorem TrafficStats.hearAll_append (stats : TrafficStats L) (events more : List TrafficEvent) :
    stats.hearAll (events ++ more) = (stats.hearAll events).hearAll more :=
  List.foldl_append

/-! ## Receiving -/

/-- The number of steps in the game step response that a feed takes in. -/
def stepsTaken? (f : NimbleClient L × Datagram L) : Option Int :=
  (dispatch? f.1 f.2).bind fun x =>
    if x.TakesSteps then some (serializeSteps x.client x.inStream x.locals).1 else none

/-- The traffic of a feed: the datagram, and its steps. -/
def feedTraffic (f : NimbleClient L × Datagram L) : List TrafficEvent :=
  .received :: (stepsTaken? f).toList.map .tookSteps

theorem headerKeeps_trafficStats : HeaderKeeps (@NimbleClient.trafficStats L) :=
  headerKeeps_of fun _ _ _ _ _ _ => rfl

theorem Dispatch.trafficStats_outcome (x : Dispatch L) :
    x.outcome.2.trafficStats =
      if x.TakesSteps then
        x.client.trafficStats.hear (.tookSteps (serializeSteps x.client x.inStream x.locals).1)
      else x.client.trafficStats := by
  have heffect := x.effect
  generalize x.outcome.2 = client at heffect ⊢
  cases heffect with
  | takeSteps h => exact (if_pos h).symm
  | failSteps _ h => exact (if_neg h).symm
  | connect h => exact (if_neg (by simp [TakesSteps, h.1])).symm
  | takePart h => exact (if_neg (by simp [TakesSteps, h.1])).symm
  | adoptBlob h => exact (if_neg (by simp [TakesSteps, h.1.1])).symm
  | join h => exact (if_neg (by simp [TakesSteps, h.1])).symm
  | startDownload h => exact (if_neg (by simp [TakesSteps, h.1])).symm
  | outOfSlots h => exact (if_neg (by simp [TakesSteps, h])).symm
  | ignore h => exact (if_neg fun htakes => h.steps htakes.1).symm

/-- Behind the count of the datagram, a feed only tells its steps. -/
theorem trafficStats_nimbleClientFeed (f : NimbleClient L × Datagram L) :
    (nimbleClientFeed f.1 f.2).2.trafficStats =
      f.1.trafficStats.hearAll ((stepsTaken? f).toList.map .tookSteps) := by
  rw [stepsTaken?]
  cases hx : dispatch? f.1 f.2 with
  | none => exact headerKeeps_trafficStats.of_dispatch_eq_none hx
  | some x =>
      rw [nimbleClientFeed_of_dispatch hx, x.trafficStats_outcome,
        headerKeeps_trafficStats.of_dispatch hx, Option.bind_some]
      split <;> rfl

theorem trafficStats_countPacketIn {self : NimbleClient L} (h : self.useStats = true) :
    self.countPacketIn.trafficStats = self.trafficStats.hear .received := by
  rw [NimbleClient.countPacketIn]
  simp only [if_pos h]
  rfl

theorem useStats_nimbleClientFeed (self : NimbleClient L) (datagram : Datagram L) :
    (nimbleClientFeed self datagram).2.useStats = self.useStats :=
  congrArg (fun fields => fields.setup.useStats) (localFields_nimbleClientFeed self datagram)

theorem trafficStats_receiveLoop {self : NimbleClient L} (h : self.useStats = true) (count : Nat)
    (queue : List (Received L)) :
    (receiveLoop self count queue).client.trafficStats =
      self.trafficStats.hearAll ((feeds self queue).flatMap feedTraffic) := by
  induction queue generalizing self count with
  | nil => rfl
  | cons received queue ih =>
      cases received with
      | error code => rfl
      | datagram datagram =>
          by_cases hoctets : datagram.octets = []
          · rw [feeds_of_empty hoctets, receiveLoop_of_empty hoctets]
            exact rfl
          have hfeed := trafficStats_nimbleClientFeed (self.countPacketIn, datagram)
          rw [trafficStats_countPacketIn h] at hfeed
          have hstats : (nimbleClientFeed self.countPacketIn datagram).2.useStats = true :=
            (useStats_nimbleClientFeed _ datagram).trans h
          rw [receiveLoop_datagram hoctets, feeds_datagram hoctets, List.flatMap_cons,
            TrafficStats.hearAll_append, feedTraffic]
          change _ = ((self.trafficStats.hear .received).hearAll _).hearAll _
          rw [← hfeed]
          split
          · rfl
          · exact @ih (nimbleClientFeed self.countPacketIn datagram).2.receivedUsableDatagram
              hstats (count + 1)

/-! ## Sending -/

/-- The traffic of a call of `nimbleClientOutgoing`: its steps datagram, and what it sends behind
it. -/
def callTraffic (call : NimbleClient L × OutgoingInput) : List TrafficEvent :=
  let steps := stepsDatagrams call.1 call.2
  steps.map (fun _ => .sentSteps) ++
    ((sentOctets (nimbleClientOutgoing call.1 call.2).events).drop steps.length).map
      fun _ => .sentMessage

theorem trafficStats_sendStepsToStream (self : NimbleClient L) (stream : FldOutStream) :
    (sendStepsToStream self stream).2.1.trafficStats = self.trafficStats := by
  simp only [sendStepsToStream]
  split
  · rfl
  · split <;> rfl

theorem trafficStats_nimbleClientSendStepsToServer (self : NimbleClient L)
    (input : OutgoingInput) :
    (nimbleClientSendStepsToServer self input).client.trafficStats = self.trafficStats.hearAll
      ((sentOctets (nimbleClientSendStepsToServer self input).events).map
        fun _ => .sentSteps) := by
  have hwritten := trafficStats_sendStepsToStream
    (nimbleClientWriteHeader self (fldOutStreamInit L) input.stepsHeaderNow).1
    (nimbleClientWriteHeader self (fldOutStreamInit L) input.stepsHeaderNow).2
  rw [nimbleClientSendStepsToServer]
  dsimp only
  split
  · exact hwritten
  · exact congrArg (fun stats => stats.hear .sentSteps) hwritten

theorem trafficStats_outgoingMessage (self : NimbleClient L) (input : OutgoingInput) :
    (outgoingMessage self input).client.trafficStats = self.trafficStats := by
  simp only [outgoingMessage, sendMessageUsingStream, updateSyncedSubState, sendBlobStreamCommands]
  split
  case h_4 => split <;> rfl
  case h_7 => split <;> rfl
  all_goals rfl

theorem trafficStats_sendMessageDatagram (self : NimbleClient L) (input : OutgoingInput) :
    (sendMessageDatagram self input).client.trafficStats = self.trafficStats.hearAll
      ((sentOctets (sendMessageDatagram self input).events).map fun _ => .sentMessage) := by
  have hmessage := trafficStats_outgoingMessage self input
  have hsilent := sentOctets_outgoingMessage self input []
  rw [List.append_nil] at hsilent
  rw [sendMessageDatagram_eq]
  dsimp only
  split
  · rw [hsilent]
    exact hmessage
  · split
    · rw [sentOctets_outgoingMessage]
      exact hmessage
    · rw [sentOctets_outgoingMessage]
      exact congrArg (fun stats => stats.hear .sentMessage) hmessage

/-- The datagrams of a call are its steps datagrams and messages, and each is counted once. -/
theorem trafficStats_handleState (self : NimbleClient L) (input : OutgoingInput) :
    ∃ messages, sentOctets (handleState self input).events =
        stepsDatagrams self input ++ messages ∧
      (handleState self input).client.trafficStats = self.trafficStats.hearAll
        ((stepsDatagrams self input).map (fun _ => .sentSteps) ++
          messages.map fun _ => .sentMessage) := by
  have hmessage := trafficStats_sendMessageDatagram self input
  rw [handleState, stepsDatagrams]
  cases hstate : self.state with
  | idle => exact ⟨[], rfl, rfl⟩
  | connected => exact ⟨[], rfl, rfl⟩
  | disconnected => exact ⟨[], rfl, rfl⟩
  | requestingConnect => exact ⟨_, rfl, hmessage⟩
  | joiningRequestingState => exact ⟨_, rfl, hmessage⟩
  | joiningDownloadingState => exact ⟨_, rfl, hmessage⟩
  | synced =>
      have hsteps := trafficStats_nimbleClientSendStepsToServer self input
      rw [if_pos rfl]
      dsimp only
      split
      · exact ⟨[], (List.append_nil _).symm, by rw [List.map_nil, List.append_nil, hsteps]⟩
      · refine ⟨_, sentOctets_append _ _, ?_⟩
        rw [trafficStats_sendMessageDatagram, hsteps, TrafficStats.hearAll_append]

theorem trafficStats_nimbleClientOutgoing (call : NimbleClient L × OutgoingInput) :
    (nimbleClientOutgoing call.1 call.2).client.trafficStats =
      call.1.trafficStats.hearAll (callTraffic call) := by
  obtain ⟨messages, hsent, hstats⟩ := trafficStats_handleState call.1 call.2
  rw [callTraffic, events_nimbleClientOutgoing, hsent, List.drop_left, ← hstats, nimbleClientOutgoing]
  dsimp only
  split <;> rfl

/-- As many datagrams are counted as are handed to the transport. -/
theorem countP_callTraffic (call : NimbleClient L × OutgoingInput) :
    (callTraffic call).countP TrafficEvent.isSend =
      (sentOctets (nimbleClientOutgoing call.1 call.2).events).length := by
  obtain ⟨messages, hsent, _⟩ := trafficStats_handleState call.1 call.2
  rw [callTraffic, events_nimbleClientOutgoing, hsent, List.drop_left, List.countP_append, List.length_append]
  simp [List.countP_replicate, TrafficEvent.isSend]

/-! ## Calls -/

/-- The traffic of an update up to where it sends: that of its feeds, and the clock if it gets past
the receive loop and does not wait. -/
def updateTraffic (self : NimbleClient L) (input : UpdateInput L) : List TrafficEvent :=
  (feeds (beginUpdate self input.now) input.queue).flatMap feedTraffic ++
    if self.IsCutShort input ∨ 0 < (updateSender self input).waitTime then []
    else [.clock input.now]

/-- The traffic of a call: that of the update it makes, and that of the datagrams it sends. -/
def operationTraffic (self : NimbleClientRealize L) (operation : Operation L) :
    List TrafficEvent :=
  (clientUpdate? self operation).toList.flatMap (updateTraffic self.client) ++
    (outgoingCall? self operation).toList.flatMap callTraffic

theorem trafficStats_received {self : NimbleClient L} (h : self.useStats = true)
    (input : UpdateInput L) :
    (self.received input).client.trafficStats = self.trafficStats.hearAll
      ((feeds (beginUpdate self input.now) input.queue).flatMap feedTraffic) := by
  obtain ⟨_, _, _, _, hbegin⟩ := beginUpdate_eq self input.now
  have hstats : (beginUpdate self input.now).useStats = true := by
    rw [hbegin]
    exact h
  have hsame : (beginUpdate self input.now).trafficStats = self.trafficStats := by
    rw [hbegin]
    rfl
  rw [← hsame]
  exact trafficStats_receiveLoop hstats 0 input.queue

theorem trafficStats_watched (self : NimbleClient L) :
    (watched self).trafficStats = self.trafficStats := by
  obtain ⟨_, _, hwatched⟩ := watched_eq self
  rw [hwatched]
  rfl

theorem trafficStats_nimbleClientUpdate {self : NimbleClient L} (h : self.useStats = true)
    (input : UpdateInput L) :
    (nimbleClientUpdate self input).client.trafficStats = self.trafficStats.hearAll
      (updateTraffic self input ++ (updateCall? self input).toList.flatMap callTraffic) := by
  have hreceived := trafficStats_received h input
  rw [TrafficStats.hearAll_append, updateTraffic, TrafficStats.hearAll_append, ← hreceived,
    updateCall?]
  by_cases hcut : self.IsCutShort input
  · rw [if_pos (Or.inl hcut), if_pos (Or.inl hcut), nimbleClientUpdate_of_cutShort hcut]
    rfl
  by_cases hwait : 0 < (updateSender self input).waitTime
  · rw [if_pos (Or.inr hwait), if_pos (Or.inr (Or.inl hwait)), nimbleClientUpdate_of_waits hcut hwait]
    exact trafficStats_watched _
  have hsender : (updateSender self input).trafficStats =
      (self.received input).client.trafficStats.hearAll [.clock input.now] :=
    congrArg (fun stats : TrafficStats L => stats.hear (.clock input.now)) (trafficStats_watched _)
  rw [if_neg (by simp [hcut, hwait]), nimbleClientUpdate_of_sends hcut hwait, ← hsender]
  dsimp only
  rw [sendPackets]
  split
  · rw [if_pos (Or.inr (Or.inr ‹_›))]
    rfl
  · rw [if_neg (by simp_all)]
    exact (trafficStats_nimbleClientOutgoing (updateSender self input, input.outgoing)).trans
      (congrArg _ (List.append_nil _).symm)

theorem operationTraffic_of_update {self : NimbleClientRealize L} {operation : Operation L}
    {input : UpdateInput L} (h : clientUpdate? self operation = some input) :
    operationTraffic self operation = updateTraffic self.client input ++
      (updateCall? self.client input).toList.flatMap callTraffic := by
  rw [operationTraffic, outgoingCall?_of_update h, h, Option.toList_some, List.flatMap_singleton]

/-- The traffic of a call that is not a direct one is that of its update. -/
theorem trafficStats_updatedClient {self : NimbleClientRealize L}
    (h : self.client.useStats = true) {operation : Operation L}
    (hdirect : outgoingCall? self operation =
      (clientUpdate? self operation).bind (updateCall? self.client)) :
    (updatedClient self operation).trafficStats =
      self.client.trafficStats.hearAll (operationTraffic self operation) := by
  cases hupdate : clientUpdate? self operation with
  | none =>
      rw [updatedClient_of_no_update hupdate, operationTraffic, hdirect, hupdate]
      rfl
  | some input =>
      rw [updatedClient_of_update hupdate, operationTraffic_of_update hupdate]
      exact trafficStats_nimbleClientUpdate h input

theorem trafficStats_performOperation {self : NimbleClientRealize L}
    (h : self.client.useStats = true) {operation : Operation L} (hrestarts : ¬operation.Restarts) :
    (performOperation self operation).1.client.trafficStats =
      self.client.trafficStats.hearAll (operationTraffic self operation) := by
  cases operation with
  | realizeInit settings now => exact absurd trivial hrestarts
  | realizeReInit settings now => exact absurd trivial hrestarts
  | realizeReset now => exact absurd trivial hrestarts
  | reset now => exact absurd trivial hrestarts
  | reInit transport now => exact absurd trivial hrestarts
  | outgoing input =>
      exact (trafficStats_nimbleClientOutgoing (self.client, input)).trans
        (congrArg _ (List.append_nil _).symm)
  | realizeUpdate input =>
      obtain ⟨_, _, _, hclient⟩ := client_realizeUpdate self input
      rw [hclient]
      exact @trafficStats_updatedClient _ _ h (.realizeUpdate input) rfl
  | update input => exact @trafficStats_updatedClient _ _ h (.update input) rfl
  | _ => rfl

/-! ## Runs -/

/-- The traffic of a run. -/
def runTraffic (start : NimbleClientRealize L) (operations : List (Operation L)) :
    List TrafficEvent :=
  (realizer L).gather operationTraffic start operations

/-- The datagrams that a run hands to the transport. -/
def runDatagrams (start : NimbleClientRealize L) (operations : List (Operation L)) :
    List (List UInt8) :=
  ((realizer L).outputs start operations).flatMap fun outcome => sentOctets outcome.events

theorem countP_feedTraffic (fed : List (NimbleClient L × Datagram L)) :
    (fed.flatMap feedTraffic).countP TrafficEvent.isSend = 0 ∧
      (fed.flatMap feedTraffic).count .received = fed.length := by
  induction fed with
  | nil => exact ⟨rfl, rfl⟩
  | cons f fed ih =>
      have hhead : (feedTraffic f).countP TrafficEvent.isSend = 0 ∧
          (feedTraffic f).count .received = 1 := by
        rw [feedTraffic]
        cases stepsTaken? f <;> exact ⟨rfl, rfl⟩
      rw [List.flatMap_cons, List.countP_append, List.count_append, hhead.1, hhead.2, ih.1, ih.2,
        List.length_cons]
      omega

theorem count_callTraffic (call : NimbleClient L × OutgoingInput) :
    (callTraffic call).count .received = 0 := by
  simp [callTraffic, List.count_eq_zero]

/-- A call counts the datagrams that it feeds and the datagrams that it sends. -/
theorem count_operationTraffic (self : NimbleClientRealize L) (operation : Operation L) :
    (operationTraffic self operation).count .received = (operationFeeds self operation).length ∧
      (operationTraffic self operation).countP TrafficEvent.isSend =
        (sentOctets (performOperation self operation).2.events).length := by
  have hupdate : ((clientUpdate? self operation).toList.flatMap
      (updateTraffic self.client)).count .received = (operationFeeds self operation).length ∧
      ((clientUpdate? self operation).toList.flatMap
        (updateTraffic self.client)).countP TrafficEvent.isSend = 0 := by
    rw [operationFeeds]
    cases clientUpdate? self operation with
    | none => exact ⟨rfl, rfl⟩
    | some input =>
        obtain ⟨hsends, hreceived⟩ :=
          countP_feedTraffic (feeds (beginUpdate self.client input.now) input.queue)
        rw [Option.toList_some, List.flatMap_singleton, updateTraffic, List.count_append,
          List.countP_append, hreceived, hsends]
        split <;> exact ⟨rfl, rfl⟩
  have hcall : ((outgoingCall? self operation).toList.flatMap callTraffic).count .received = 0 ∧
      ((outgoingCall? self operation).toList.flatMap callTraffic).countP TrafficEvent.isSend =
        (sentOctets (performOperation self operation).2.events).length := by
    rw [events_performOperation]
    cases outgoingCall? self operation with
    | none => exact ⟨rfl, rfl⟩
    | some call =>
        rw [Option.toList_some, List.flatMap_singleton]
        exact ⟨count_callTraffic call, countP_callTraffic call⟩
  rw [operationTraffic, List.count_append, List.countP_append, hupdate.1, hupdate.2, hcall.1,
    hcall.2]
  omega

theorem count_runTraffic (start : NimbleClientRealize L) (operations : List (Operation L)) :
    (runTraffic start operations).count .received = (runFeeds start operations).length ∧
      (runTraffic start operations).countP TrafficEvent.isSend =
        (runDatagrams start operations).length := by
  induction operations generalizing start with
  | nil => exact ⟨rfl, rfl⟩
  | cons operation operations ih =>
      obtain ⟨hreceived, hsends⟩ := count_operationTraffic start operation
      obtain ⟨hrest, hsent⟩ := ih (performOperation start operation).1
      have hfeeds : runFeeds start (operation :: operations) =
          operationFeeds start operation ++
            runFeeds (performOperation start operation).1 operations := List.flatMap_cons
      have hdatagrams : runDatagrams start (operation :: operations) =
          sentOctets (performOperation start operation).2.events ++
            runDatagrams (performOperation start operation).1 operations := List.flatMap_cons
      rw [runTraffic, Machine.gather_cons, List.count_append, List.countP_append, hfeeds,
        hdatagrams, List.length_append, List.length_append]
      exact ⟨congrArg₂ (· + ·) hreceived hrest, congrArg₂ (· + ·) hsends hsent⟩

/-- Between restarts the statistics per second account for all traffic: each datagram is counted
once when it is fed and once when it is sent, each taken response with its steps, and the clock is
seen by the updates that get to send. -/
theorem traffic_is_accounted (start : NimbleClientRealize L) (hreachable : Reachable start)
    (operations : List (Operation L)) (h : ∀ operation ∈ operations, ¬operation.Restarts) :
    ((realizer L).run start operations).client.trafficStats =
        start.client.trafficStats.hearAll (runTraffic start operations) ∧
      (runTraffic start operations).count .received = (runFeeds start operations).length ∧
      (runTraffic start operations).countP TrafficEvent.isSend =
        (runDatagrams start operations).length := by
  refine ⟨?_, count_runTraffic start operations⟩
  apply @Machine.foldl_gather _ _ _ _ (realizer L) _ (fun self => self.client.trafficStats)
    TrafficStats.hear operationTraffic (fun self => self.client.useStats = true)
    (fun _ operation => ¬operation.Restarts) _ start operations
    hreachable.isInitialized.useStats (fun v hv => h v.2 ((realizer L).mem_of_mem_visits hv))
  intro self operation hstats hrestarts
  have hkept : (performOperation self operation).1.client.useStats = self.client.useStats :=
    congrArg Setup.useStats (setup_performOperation self hrestarts)
  exact ⟨hkept.trans hstats, trafficStats_performOperation hstats hrestarts⟩

/-! ## A run on fixed inputs -/

open Nimble.Small

/-- A client that joins a game, predicts a step and takes one in. -/
def trafficCalls : List (Operation smallLibraries) :=
  syncSession 10 5 ++ [.writeStep 10 [1], .realizeUpdate (updateWith [stepResponse 4 9 10 [7]])]

theorem traffic_is_accounted_playing :
    ((realizer smallLibraries).run (freshRealizer 1) trafficCalls).client.trafficStats =
      (freshRealizer 1).client.trafficStats.hearAll
        [.clock 0, .received, .clock 0, .clock 0, .sentMessage, .received, .clock 0, .sentMessage,
          .received, .clock 0, .sentMessage, .received, .tookSteps 1, .clock 0, .sentSteps,
          .sentMessage] :=
  (traffic_is_accounted (freshRealizer 1) ⟨_, _, _, [], rfl⟩ trafficCalls
    (by simp [trafficCalls, syncSession, Operation.Restarts])).1.trans
    (congrArg _ (by decide +kernel))

end Nimble
