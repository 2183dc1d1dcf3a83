import Nimble.Verification.Alike
import Nimble.Verification.Twins

/-! # Measurements and incoming datagrams

Two clients that differ in what they have measured take in datagrams that differ in the readings
they carry, and still differ in nothing else. -/

namespace Nimble

variable {L : Libraries}

/-! ## What a client has measured -/

/-- The fields that hold readings of a clock, or statistics of the connection. -/
structure ClockFields (L : Libraries) where
  stepCountInIncomingBufferOnServerStat : L.StatsInt
  authoritativeBufferDeltaStat : L.StatsInt
  latencyMsStat : L.StatsInt
  packetsPerSecondOut : L.StatsIntPerSecond
  packetsPerSecondIn : L.StatsIntPerSecond
  simulationStepsPerSecond : L.StatsIntPerSecond
  sentStepsDatagramCountPerSecond : L.StatsIntPerSecond
  lastUpdateMonotonicMsIsSet : Bool
  lastUpdateMonotonicMs : MonotonicTimeMs
  tickDuration : L.StatsInt
  latencyMs : Nat
  lagometer : L.Lagometer
  qualityLatencyMsStat : L.StatsInt
  ratingStat : L.StatsInt
  lastLatencyMs : Nat
  qualityRating : Nat
  loggingTickCount : UInt32

/-- The quality of a connection with other measurements. -/
def NimbleClientConnectionQuality.withClock (self : NimbleClientConnectionQuality L)
    (clock : ClockFields L) : NimbleClientConnectionQuality L :=
  { self with
    latencyMsStat := clock.qualityLatencyMsStat
    ratingStat := clock.ratingStat
    lastLatencyMs := clock.lastLatencyMs
    qualityRating := clock.qualityRating }

/-- The client with other values in these fields. -/
def NimbleClient.withClock (self : NimbleClient L) (clock : ClockFields L) : NimbleClient L :=
  { self with
    stepCountInIncomingBufferOnServerStat := clock.stepCountInIncomingBufferOnServerStat
    authoritativeBufferDeltaStat := clock.authoritativeBufferDeltaStat
    latencyMsStat := clock.latencyMsStat
    packetsPerSecondOut := clock.packetsPerSecondOut
    packetsPerSecondIn := clock.packetsPerSecondIn
    simulationStepsPerSecond := clock.simulationStepsPerSecond
    sentStepsDatagramCountPerSecond := clock.sentStepsDatagramCountPerSecond
    lastUpdateMonotonicMsIsSet := clock.lastUpdateMonotonicMsIsSet
    lastUpdateMonotonicMs := clock.lastUpdateMonotonicMs
    tickDuration := clock.tickDuration
    latencyMs := clock.latencyMs
    lagometer := clock.lagometer
    quality := self.quality.withClock clock
    loggingTickCount := clock.loggingTickCount }

def NimbleClient.clock (self : NimbleClient L) : ClockFields L where
  stepCountInIncomingBufferOnServerStat := self.stepCountInIncomingBufferOnServerStat
  authoritativeBufferDeltaStat := self.authoritativeBufferDeltaStat
  latencyMsStat := self.latencyMsStat
  packetsPerSecondOut := self.packetsPerSecondOut
  packetsPerSecondIn := self.packetsPerSecondIn
  simulationStepsPerSecond := self.simulationStepsPerSecond
  sentStepsDatagramCountPerSecond := self.sentStepsDatagramCountPerSecond
  lastUpdateMonotonicMsIsSet := self.lastUpdateMonotonicMsIsSet
  lastUpdateMonotonicMs := self.lastUpdateMonotonicMs
  tickDuration := self.tickDuration
  latencyMs := self.latencyMs
  lagometer := self.lagometer
  qualityLatencyMsStat := self.quality.latencyMsStat
  ratingStat := self.quality.ratingStat
  lastLatencyMs := self.quality.lastLatencyMs
  qualityRating := self.quality.qualityRating
  loggingTickCount := self.loggingTickCount

/-- The two clients differ in their measurements at most. -/
def SameButClock (a b : NimbleClient L) : Prop :=
  b = a.withClock b.clock

theorem SameButClock.refl (self : NimbleClient L) : SameButClock self self := rfl

theorem SameButClock.eq_withClock {a b : NimbleClient L} (h : SameButClock a b) :
    ∃ clock, b = a.withClock clock :=
  ⟨b.clock, h⟩

/-- What does not depend on the measurements is the same for both clients. -/
theorem SameButClock.congr {a b : NimbleClient L} {α : Type} (h : SameButClock a b)
    (f : NimbleClient L → α) (hf : ∀ c clock, f (NimbleClient.withClock c clock) = f c) :
    f b = f a :=
  (congrArg f (show b = a.withClock b.clock from h)).trans (hf a b.clock)

/-- Two outcomes with the same value, and clients that differ in their measurements. -/
def SameResults {α : Type} (x y : α × NimbleClient L) : Prop :=
  y.1 = x.1 ∧ SameButClock x.2 y.2

/-! ## Handlers -/

theorem same_trySetInitialGameState {a b : NimbleClient L} (h : SameButClock a b) :
    SameButClock (trySetInitialGameState a) (trySetInitialGameState b) := by
  obtain ⟨clock, rfl⟩ := h.eq_withClock
  exact related_ite Iff.rfl rfl rfl

section

variable (laws : InStreamLaws L) {a b : NimbleClient L} {s t : FldInStream}

include laws

theorem same_nimbleClientOnConnectResponse (h : SameButClock a b) (hs : SameAhead s t)
    (locals : FeedLocals L) :
    SameResults (nimbleClientOnConnectResponse a s locals)
      (nimbleClientOnConnectResponse b t locals) := by
  obtain ⟨clock, rfl⟩ := h.eq_withClock
  obtain ⟨hcode, hvalue, _⟩ := laws.connectResponse s t hs
  unfold nimbleClientOnConnectResponse
  dsimp only
  rw [hcode, hvalue]
  refine related_ite Iff.rfl ⟨rfl, rfl⟩ ?_
  exact related_ite Iff.rfl ⟨rfl, rfl⟩ ⟨rfl, rfl⟩

theorem same_nimbleClientOnJoinGameResponse (h : SameButClock a b) (hs : SameAhead s t)
    (locals : FeedLocals L) :
    SameResults (nimbleClientOnJoinGameResponse a s locals)
      (nimbleClientOnJoinGameResponse b t locals) := by
  obtain ⟨clock, rfl⟩ := h.eq_withClock
  obtain ⟨hcode, hvalue, _⟩ := laws.joinGameResponse s t hs
  unfold nimbleClientOnJoinGameResponse
  dsimp only
  rw [hcode, hvalue]
  refine related_ite Iff.rfl ⟨rfl, rfl⟩ ?_
  exact related_ite Iff.rfl ⟨rfl, rfl⟩ ⟨rfl, rfl⟩

theorem same_nimbleClientOnDownloadGameStateResponse (h : SameButClock a b)
    (hs : SameAhead s t) (locals : FeedLocals L) :
    SameResults (nimbleClientOnDownloadGameStateResponse a s locals)
      (nimbleClientOnDownloadGameStateResponse b t locals) := by
  obtain ⟨clock, rfl⟩ := h.eq_withClock
  obtain ⟨_, hrequest, hs⟩ := laws.uint8.readsAhead s t hs
  obtain ⟨_, hstate, hs⟩ := laws.stateId _ _ hs
  obtain ⟨hcode, hchannel, _⟩ := laws.channelId _ _ hs
  unfold nimbleClientOnDownloadGameStateResponse
  dsimp only
  rw [hrequest, hstate, hcode, hchannel]
  refine related_ite Iff.rfl ⟨rfl, rfl⟩ ?_
  refine related_ite Iff.rfl ⟨rfl, rfl⟩ ?_
  exact related_ite Iff.rfl ⟨rfl, rfl⟩ ⟨rfl, rfl⟩

theorem same_nimbleClientOnJoinGameParticipantOutOfSpaceResponse (h : SameButClock a b)
    (hs : SameAhead s t) :
    SameResults (nimbleClientOnJoinGameParticipantOutOfSpaceResponse a s)
      (nimbleClientOnJoinGameParticipantOutOfSpaceResponse b t) := by
  obtain ⟨clock, rfl⟩ := h.eq_withClock
  obtain ⟨hcode, _, _⟩ := laws.nonce s t hs
  unfold nimbleClientOnJoinGameParticipantOutOfSpaceResponse
  dsimp only
  rw [hcode]
  exact related_ite Iff.rfl ⟨rfl, rfl⟩ ⟨rfl, rfl⟩

theorem same_takePart (h : SameButClock a b) (hs : SameAhead s t) :
    SameResults (a.takePart s) (b.takePart t) := by
  obtain ⟨clock, rfl⟩ := h.eq_withClock
  have hchunk := laws.chunk a.blobStreamInLogic a.blobStreamIn _ _ (laws.channelId s t hs).2.2
  rw [NimbleClient.takePart, NimbleClient.receiveBlob]
  dsimp only
  refine ⟨congrArg (·.1) hchunk, ?_⟩
  change _ = NimbleClient.withClock _ clock
  exact congrArg (fun received => NimbleClient.withClock
    { a with blobStreamInLogic := received.2.1, blobStreamIn := received.2.2 } clock) hchunk

theorem same_nimbleClientOnDownloadGameStatePart (h : SameButClock a b) (hs : SameAhead s t)
    (locals : FeedLocals L) :
    SameResults (nimbleClientOnDownloadGameStatePart a s locals)
      (nimbleClientOnDownloadGameStatePart b t locals) := by
  obtain ⟨hresult, hclient⟩ := same_takePart laws h hs
  have hsame := h.congr NimbleClient.joinStateChannel fun _ _ => rfl
  have hpart : partChannelId t locals = partChannelId s locals :=
    congrArg (fun value : Option Nat => value.getD locals.partChannelId)
      (laws.channelId s t hs).2.1
  by_cases hchannel : partChannelId s locals = a.joinStateChannel
  · rw [nimbleClientOnDownloadGameStatePart_of_eq hchannel,
      nimbleClientOnDownloadGameStatePart_of_eq (hpart.trans (hchannel.trans hsame.symm)),
      hresult, hclient.congr NimbleClient.blobStreamIn fun _ _ => rfl]
    refine related_ite Iff.rfl ⟨hresult, hclient⟩ ?_
    exact related_ite Iff.rfl ⟨rfl, same_trySetInitialGameState hclient⟩ ⟨rfl, hclient⟩
  · rw [nimbleClientOnDownloadGameStatePart_of_ne hchannel,
      nimbleClientOnDownloadGameStatePart_of_ne fun heq =>
        hchannel (hpart.symm.trans (heq.trans hsame))]
    exact ⟨rfl, h⟩

/-- The server's count and delta are in front of `behindDelta`. -/
theorem same_nimbleClientOnGameStepResponse (h : SameButClock a b)
    (hs : SameAhead (@behindDelta L s) (@behindDelta L t)) (locals : FeedLocals L) :
    SameResults (nimbleClientOnGameStepResponse a s locals)
      (nimbleClientOnGameStepResponse b t locals) := by
  obtain ⟨clock, rfl⟩ := h.eq_withClock
  obtain ⟨_, hreceived, hs⟩ := laws.uint32 _ _ hs
  have hack : acknowledgedStepId (a.withClock clock) t locals = acknowledgedStepId a s locals :=
    congrArg (fun value : Option UInt32 => value.getD locals.serverReceivedPredictedStepId)
      hreceived
  have hsteps : serializeSteps (a.withClock clock) t locals = serializeSteps a s locals :=
    laws.steps _ _ a.authoritativePendingStepsFromServer hs
  have hbuffers : authoritativeBuffersAfter (a.withClock clock) t locals =
      authoritativeBuffersAfter a s locals := by
    rw [authoritativeBuffersAfter]
    rw [hsteps]
    rfl
  obtain ⟨_, _, _, hdiscard⟩ := discardAcknowledged_eq a s locals
  obtain ⟨_, _, _, hdiscard'⟩ := discardAcknowledged_eq (a.withClock clock) t locals
  rw [nimbleClientOnGameStepResponse_eq, nimbleClientOnGameStepResponse_eq, hsteps, hbuffers,
    hdiscard', hdiscard, hack]
  exact related_ite Iff.rfl ⟨rfl, rfl⟩ ⟨rfl, rfl⟩

theorem same_dispatchCommand (h : SameButClock a b) (cmd : UInt8)
    (hs : L.nimbleSerializeCmd cmd ≠ some .gameStepResponse → SameAhead s t)
    (hbehind : SameAhead (@behindDelta L s) (@behindDelta L t)) (locals : FeedLocals L) :
    SameResults (dispatchCommand a cmd s locals) (dispatchCommand b cmd t locals) := by
  unfold dispatchCommand
  cases hcmd : L.nimbleSerializeCmd cmd with
  | none => exact ⟨rfl, h⟩
  | some command =>
      rw [hcmd] at hs
      cases command with
      | connectResponse => exact same_nimbleClientOnConnectResponse laws h (hs nofun) locals
      | serverOutBlobStream =>
          exact same_nimbleClientOnDownloadGameStatePart laws h (hs nofun) locals
      | gameStepResponse =>
          obtain ⟨hresult, hclient⟩ := same_nimbleClientOnGameStepResponse laws h hbehind locals
          exact ⟨congrArg intCast hresult, hclient⟩
      | joinGameResponse => exact same_nimbleClientOnJoinGameResponse laws h (hs nofun) locals
      | gameStateResponse =>
          exact same_nimbleClientOnDownloadGameStateResponse laws h (hs nofun) locals
      | joinGameOutOfParticipantSlotsResponse =>
          exact same_nimbleClientOnJoinGameParticipantOutOfSpaceResponse laws h (hs nofun)
      | _ => exact ⟨rfl, h⟩

end

/-! ## Feeds -/

theorem same_reportDropped {a b : NimbleClient L} (h : SameButClock a b) (delta : Int) :
    SameButClock (reportDropped a delta) (reportDropped b delta) := by
  obtain ⟨clock, rfl⟩ := h.eq_withClock
  exact related_ite Iff.rfl rfl rfl

theorem readAndCheckOrderedDatagram_eq (inLogic : L.OrderedDatagramInLogic)
    (inStream : FldInStream) :
    readAndCheckOrderedDatagram inLogic inStream =
      (if (L.orderedDatagramInLogicReceive inLogic inStream).1 ≤ 0 then -91
        else (L.orderedDatagramInLogicReceive inLogic inStream).1,
        (L.orderedDatagramInLogicReceive inLogic inStream).2) := by
  unfold readAndCheckOrderedDatagram
  dsimp only
  split <;> rfl

section

variable {laws : InStreamLaws L} {a b : NimbleClient L} {datagram other : Datagram L}

/-- The id is judged alike, and the pong time of either datagram comes next. -/
theorem InStreamLaws.Twins.readAndCheck_eq (htwins : laws.Twins datagram other)
    (inLogic : L.OrderedDatagramInLogic) :
    readAndCheckOrderedDatagram inLogic other.inStream =
        ((readAndCheckOrderedDatagram inLogic datagram.inStream).1,
          (readAndCheckOrderedDatagram inLogic datagram.inStream).2.1, other.behindId) ∧
      (readAndCheckOrderedDatagram inLogic datagram.inStream).2.2 = datagram.behindId := by
  obtain ⟨hcode, hlogic⟩ := htwins.receive_eq inLogic
  have hstream := laws.orderedIdStream L.orderedDatagramInLogicInit inLogic
  rw [readAndCheckOrderedDatagram_eq, readAndCheckOrderedDatagram_eq, hcode]
  exact ⟨Prod.ext rfl (Prod.ext hlogic (hstream _)), hstream _⟩

/-- The headers of the two datagrams have been read, with the same code; if there is a command,
it comes next. -/
def SameAtCommand (datagram other : Datagram L) (x y : Int × NimbleClient L × FldInStream) :
    Prop :=
  y.1 = x.1 ∧ SameButClock x.2.1 y.2.1 ∧
    (0 ≤ x.1 → x.2.2 = datagram.behindTime ∧ y.2.2 = other.behindTime)

/-- The time of the pong goes to statistics, whatever it is. -/
theorem same_nimbleClientReceivePong (h : SameButClock a b) (htwins : laws.Twins datagram other) :
    SameAtCommand datagram other
      (nimbleClientReceivePong a datagram.behindId datagram.now datagram.locals)
      (nimbleClientReceivePong b other.behindId other.now other.locals) := by
  obtain ⟨clock, rfl⟩ := h.eq_withClock
  have hcode := htwins.course_time.1
  have hfails : (L.fldInStreamReadUInt16 datagram.atTime).code < 0 ↔
      (L.fldInStreamReadUInt16 other.atTime).code < 0 := by rw [hcode]
  exact related_ite hfails ⟨hcode, rfl, fun _ => ⟨rfl, rfl⟩⟩ ⟨rfl, rfl, fun _ => ⟨rfl, rfl⟩⟩

theorem readDatagramHeader_of_check {self : NimbleClient L} {delta : Int}
    {logic : L.OrderedDatagramInLogic} {stream : FldInStream}
    (h : readAndCheckOrderedDatagram self.orderedDatagramIn datagram.inStream =
      (delta, logic, stream)) :
    readDatagramHeader self datagram =
      if delta < 0 then (delta, { self with orderedDatagramIn := logic }, stream)
      else nimbleClientReceivePong (reportDropped { self with orderedDatagramIn := logic } delta)
        stream datagram.now datagram.locals := by
  have heq : readDatagramHeader self datagram =
      (fun checked : Int × L.OrderedDatagramInLogic × FldInStream =>
        if checked.1 < 0 then
          (checked.1, { self with orderedDatagramIn := checked.2.1 }, checked.2.2)
        else nimbleClientReceivePong
          (reportDropped { self with orderedDatagramIn := checked.2.1 } checked.1) checked.2.2
          datagram.now datagram.locals)
        (readAndCheckOrderedDatagram self.orderedDatagramIn datagram.inStream) := rfl
  rw [heq, h]

theorem same_readDatagramHeader (h : SameButClock a b) (htwins : laws.Twins datagram other) :
    SameAtCommand datagram other (readDatagramHeader a datagram) (readDatagramHeader b other) := by
  obtain ⟨clock, rfl⟩ := h.eq_withClock
  obtain ⟨hother, hstream⟩ := htwins.readAndCheck_eq a.orderedDatagramIn
  rcases hcheck : readAndCheckOrderedDatagram a.orderedDatagramIn datagram.inStream with
    ⟨delta, logic, stream⟩
  rw [hcheck] at hother hstream
  obtain rfl : stream = datagram.behindId := hstream
  rw [readDatagramHeader_of_check hcheck,
    @readDatagramHeader_of_check _ other (a.withClock clock) _ _ _ hother]
  by_cases hdelta : delta < 0
  · rw [if_pos hdelta, if_pos hdelta]
    exact ⟨rfl, rfl, fun hcode => absurd hdelta (Int.not_lt.mpr hcode)⟩
  · rw [if_neg hdelta, if_neg hdelta]
    refine same_nimbleClientReceivePong (same_reportDropped ?_ delta) htwins
    exact rfl

theorem same_nimbleClientFeed (h : SameButClock a b) (htwins : laws.Twins datagram other) :
    SameResults (nimbleClientFeed a datagram) (nimbleClientFeed b other) := by
  obtain ⟨hcode, hclient, hstreams⟩ := same_readDatagramHeader h htwins
  have hstate := h.congr NimbleClient.state fun _ _ => rfl
  rw [nimbleClientFeed_eq, nimbleClientFeed_eq, hcode, hstate, htwins.length]
  refine related_ite Iff.rfl ⟨rfl, h⟩ (related_ite Iff.rfl ⟨rfl, h⟩ ?_)
  by_cases hfails : (readDatagramHeader a datagram).1 < 0
  · rw [if_pos hfails, if_pos hfails]
    exact ⟨rfl, hclient⟩
  · rw [if_neg hfails, if_neg hfails]
    obtain ⟨hdatagram, hother⟩ := hstreams (Int.not_lt.mp hfails)
    rw [hdatagram, hother, htwins.readCommand_eq.1, htwins.locals]
    refine same_dispatchCommand laws hclient _ htwins.sameAhead_behindCommand ?_ _
    have hbehind := htwins.sameAhead_behindDelta
    unfold Datagram.behindCommand at hbehind
    rwa [htwins.locals] at hbehind

end

theorem same_countPacketIn {a b : NimbleClient L} (h : SameButClock a b) :
    SameButClock a.countPacketIn b.countPacketIn := by
  obtain ⟨clock, rfl⟩ := h.eq_withClock
  rfl

theorem same_receivedUsableDatagram {a b : NimbleClient L} (h : SameButClock a b) :
    SameButClock a.receivedUsableDatagram b.receivedUsableDatagram := by
  obtain ⟨clock, rfl⟩ := h.eq_withClock
  rfl

section

variable (laws : InStreamLaws L)

/-- What two transports give: twins, or the same error. -/
inductive InStreamLaws.ReceivedTwins : Received L → Received L → Prop
  | datagram {d e : Datagram L} (h : laws.Twins d e) : ReceivedTwins (.datagram d) (.datagram e)
  | error (code : Nat) : ReceivedTwins (.error code) (.error code)

/-- Receive loops stop at the same place of their queues, with the same result. -/
theorem same_receiveLoop {a b : NimbleClient L} (h : SameButClock a b) (count : Nat)
    {queue other : List (Received L)} (hqueue : List.Forall₂ laws.ReceivedTwins queue other) :
    (receiveLoop b count other).result = (receiveLoop a count queue).result ∧
      List.Forall₂ laws.ReceivedTwins (receiveLoop a count queue).queue
        (receiveLoop b count other).queue ∧
      SameButClock (receiveLoop a count queue).client (receiveLoop b count other).client := by
  induction hqueue generalizing a b count with
  | nil => exact ⟨rfl, .nil, h⟩
  | @cons received received' queue other hreceived hqueue ih =>
      cases hreceived with
      | error code => exact ⟨rfl, hqueue, h⟩
      | @datagram d e htwins =>
          by_cases hoctets : d.octets = []
          · rw [receiveLoop_of_empty hoctets,
              receiveLoop_of_empty (htwins.octets_eq_nil_iff.mpr hoctets)]
            exact ⟨rfl, hqueue, h⟩
          obtain ⟨hresult, hclient⟩ := same_nimbleClientFeed (same_countPacketIn h) htwins
          rw [receiveLoop_datagram hoctets,
            receiveLoop_datagram (htwins.octets_eq_nil_iff.not.mpr hoctets), hresult]
          by_cases hfails : (nimbleClientFeed a.countPacketIn d).1 < 0
          · rw [if_pos hfails, if_pos hfails]
            exact ⟨rfl, hqueue, hclient⟩
          · rw [if_neg hfails, if_neg hfails]
            exact ih (same_receivedUsableDatagram hclient) (count + 1)

end

end Nimble
