import Nimble.Verification.FeedTrace
import Nimble.Verification.Prediction

/-! # Round trips

The server sends back the lower bits of the time that it has found in the client's datagrams. The
client measures its round trips with them, and predicts as far ahead as these tell it to. -/

namespace Nimble

variable {L : Libraries}

/-! ## What the libraries have to do -/

/-- The time that is restored from its lower bits is the one they are taken from, as long as that
is less than the 16 bits ago. -/
def RestoresLowerBits (L : Libraries) : Prop :=
  ∀ now sentAt, sentAt ≤ now → now - sentAt < 2 ^ 16 →
    L.monotonicTimeMsFromLowerBits now (L.monotonicTimeMsToLowerBits sentAt) = sentAt

/-- The average of a statistic lies between the samples. -/
def AveragesSamples (L : Libraries) (threshold : Nat) : Prop :=
  ∀ (low high : Int) (samples : List Int), (∀ v ∈ samples, low ≤ v ∧ v ≤ high) →
    let stat := samples.foldl L.statsIntAdd (L.statsIntInit threshold)
    L.avgIsSet stat = true → low ≤ L.avg stat ∧ L.avg stat ≤ high

/-! ## What a feed measures -/

/-- The read of the echoed time. -/
def pongRead (f : NimbleClient L × Datagram L) : ReadResult UInt16 :=
  L.fldInStreamReadUInt16 (L.fldInStreamCheckMarker
    (L.orderedDatagramInLogicReceive f.1.orderedDatagramIn f.2.inStream).2.2 0xdd)

/-- The feed accepts the ordered id and gets the echoed time. -/
def MeasuresRoundTrip (f : NimbleClient L × Datagram L) : Prop :=
  (acceptedDistance? f.1 f.2).isSome = true ∧ 0 ≤ (pongRead f).code

instance (f : NimbleClient L × Datagram L) : Decidable (MeasuresRoundTrip f) :=
  inferInstanceAs (Decidable (_ ∧ _))

/-- The datagram echoes the time at which the client sent, and arrives before the lower bits come
round again. -/
structure Echoes (sentAt : Datagram L → MonotonicTimeMs) (f : NimbleClient L × Datagram L) :
    Prop where
  bits : (pongRead f).value = some (L.monotonicTimeMsToLowerBits (sentAt f.2))
  past : sentAt f.2 ≤ f.2.now
  recent : f.2.now - sentAt f.2 < 2 ^ 16

/-- The round trip that ends with the feed. -/
def roundTrip? (sentAt : Datagram L → MonotonicTimeMs) (f : NimbleClient L × Datagram L) :
    Option Nat :=
  if MeasuresRoundTrip f then some (f.2.now - sentAt f.2).toNat else none

/-- The round trips that end with the feeds. -/
def roundTrips (sentAt : Datagram L → MonotonicTimeMs) (fed : List (NimbleClient L × Datagram L)) :
    List Nat :=
  fed.filterMap (roundTrip? sentAt)

/-- The buffer delta in a game step response. -/
def bufferDelta? (f : NimbleClient L × Datagram L) : Option Int8 :=
  (dispatch? f.1 f.2).bind fun x =>
    if x.command = some .gameStepResponse then
      some ((L.fldInStreamReadInt8 (L.fldInStreamReadUInt8 x.inStream).stream).value.getD
        x.locals.deltaAgainstServerAuthoritativeBuffer)
    else none

/-- What the distance of the prediction is calculated from. -/
structure PredictionInputs (L : Libraries) where
  useStats : Bool
  latencyMs : Nat
  latencyMsStat : L.StatsInt
  authoritativeBufferDeltaStat : L.StatsInt

def NimbleClient.predictionInputs (self : NimbleClient L) : PredictionInputs L :=
  ⟨self.useStats, self.latencyMs, self.latencyMsStat, self.authoritativeBufferDeltaStat⟩

namespace PredictionInputs

/-- A round trip is measured. -/
def measure (inputs : PredictionInputs L) (roundTrip : Nat) : PredictionInputs L :=
  { inputs with
    latencyMs := roundTrip
    latencyMsStat := L.statsIntAdd inputs.latencyMsStat roundTrip }

/-- The server tells how far its buffer is ahead. -/
def hear (inputs : PredictionInputs L) (delta : Int8) : PredictionInputs L :=
  { inputs with
    authoritativeBufferDeltaStat :=
      L.statsIntAdd inputs.authoritativeBufferDeltaStat delta.toInt }

/-- What a feed does. -/
def see (inputs : PredictionInputs L) (roundTrip : Option Nat) (delta : Option Int8) :
    PredictionInputs L :=
  delta.toList.foldl hear (roundTrip.toList.foldl measure inputs)

end PredictionInputs

theorem writtenByFeeds_predictionInputs :
    WrittenByFeeds (@NimbleClient.predictionInputs L) :=
  ⟨fun _ _ _ _ _ => rfl, fun _ => rfl, fun _ => rfl, fun _ _ => rfl, fun _ _ => rfl⟩

/-! ## One feed -/

theorem predictionInputs_reportDropped (self : NimbleClient L) (delta : Int) :
    (reportDropped self delta).predictionInputs = self.predictionInputs := by
  rw [reportDropped]
  split <;> rfl

/-- A pong that echoes a recent time measures the time since. -/
theorem predictionInputs_nimbleClientReceivePong (hbits : RestoresLowerBits L)
    {self : NimbleClient L} (hstats : self.useStats = true) {inStream : FldInStream}
    {now sentAt : Int} {locals : FeedLocals L}
    (hread : ¬(L.fldInStreamReadUInt16 (L.fldInStreamCheckMarker inStream 0xdd)).code < 0)
    (hvalue : (L.fldInStreamReadUInt16 (L.fldInStreamCheckMarker inStream 0xdd)).value =
      some (L.monotonicTimeMsToLowerBits sentAt))
    (hpast : sentAt ≤ now) (hrecent : now - sentAt < 2 ^ 16) :
    (nimbleClientReceivePong self inStream now locals).2.1.predictionInputs =
      self.predictionInputs.measure (now - sentAt).toNat := by
  have hsentAt := hbits now sentAt hpast hrecent
  have hcast : intCast ((now - sentAt).toNat : Int) = ((now - sentAt).toNat : Int) :=
    intCast_of_mem (by omega) (by omega)
  rw [nimbleClientReceivePong]
  dsimp only
  rw [if_neg hread, hvalue, Option.getD_some, hsentAt, if_neg (not_lt.mpr hpast), hcast,
    if_pos hstats]
  rfl

/-- A datagram whose ordered id is accepted has its pong read. -/
theorem readDatagramHeader_of_accepted {self : NimbleClient L} {datagram : Datagram L}
    {distance : Int} (h : acceptedDistance? self datagram = some distance) :
    ∃ client : NimbleClient L, client.predictionInputs = self.predictionInputs ∧
      readDatagramHeader self datagram = nimbleClientReceivePong client
        (L.orderedDatagramInLogicReceive self.orderedDatagramIn datagram.inStream).2.2
        datagram.now datagram.locals := by
  rw [acceptedDistance?] at h
  split at h
  · cases h
  rename_i haccepted
  rw [not_or, not_or] at haccepted
  have hcheck : readAndCheckOrderedDatagram self.orderedDatagramIn datagram.inStream =
      L.orderedDatagramInLogicReceive self.orderedDatagramIn datagram.inStream :=
    if_neg haccepted.2.2
  refine ⟨reportDropped { self with orderedDatagramIn := (L.orderedDatagramInLogicReceive
      self.orderedDatagramIn datagram.inStream).2.1 } (L.orderedDatagramInLogicReceive
      self.orderedDatagramIn datagram.inStream).1, predictionInputs_reportDropped _ _, ?_⟩
  have hpositive : ¬(L.orderedDatagramInLogicReceive self.orderedDatagramIn
    datagram.inStream).1 < 0 := by omega
  unfold Datagram.inStream at hcheck hpositive ⊢
  rw [readDatagramHeader, hcheck]
  exact if_neg hpositive

/-- A stale one has not. -/
theorem predictionInputs_of_stale {self : NimbleClient L} {datagram : Datagram L}
    (hreaches : ¬(datagram.octets.length < 1 ∨ self.state = .disconnected))
    (h : acceptedDistance? self datagram = none) :
    (readDatagramHeader self datagram).2.1.predictionInputs = self.predictionInputs := by
  rw [not_or] at hreaches
  simp only [acceptedDistance?, hreaches.1, hreaches.2, false_or] at h
  split at h
  · have hcheck : readAndCheckOrderedDatagram self.orderedDatagramIn datagram.inStream =
        (-91, (L.orderedDatagramInLogicReceive self.orderedDatagramIn datagram.inStream).2) :=
      if_pos ‹_›
    unfold Datagram.inStream at hcheck
    rw [readDatagramHeader, hcheck]
    rfl
  · cases h

theorem predictionInputs_readDatagramHeader (hbits : RestoresLowerBits L)
    {sentAt : Datagram L → MonotonicTimeMs} {f : NimbleClient L × Datagram L}
    (hreaches : ¬(f.2.octets.length < 1 ∨ f.1.state = .disconnected))
    (hstats : f.1.useStats = true) (hechoes : MeasuresRoundTrip f → Echoes sentAt f) :
    (readDatagramHeader f.1 f.2).2.1.predictionInputs =
      (roundTrip? sentAt f).toList.foldl PredictionInputs.measure f.1.predictionInputs := by
  cases hdistance : acceptedDistance? f.1 f.2 with
  | none =>
      have hmeasures : ¬MeasuresRoundTrip f := by simp [MeasuresRoundTrip, hdistance]
      rw [predictionInputs_of_stale hreaches hdistance, roundTrip?, if_neg hmeasures]
      rfl
  | some distance =>
      obtain ⟨client, hsame, hheader⟩ := readDatagramHeader_of_accepted hdistance
      have hmeasures : MeasuresRoundTrip f ↔ 0 ≤ (pongRead f).code := by
        simp [MeasuresRoundTrip, hdistance]
      rw [hheader, roundTrip?, ← hsame]
      by_cases hread : (pongRead f).code < 0
      · rw [if_neg (by rw [hmeasures]; omega), nimbleClientReceivePong]
        unfold pongRead at hread
        dsimp only
        rw [if_pos hread]
        rfl
      · have hm : MeasuresRoundTrip f := hmeasures.mpr (not_lt.mp hread)
        obtain ⟨hvalue, hpast, hrecent⟩ := hechoes hm
        have hclient : client.useStats = true :=
          (congrArg PredictionInputs.useStats hsame).trans hstats
        rw [if_pos hm]
        exact predictionInputs_nimbleClientReceivePong hbits hclient hread hvalue hpast hrecent

theorem headerKeeps_useStats : HeaderKeeps fun self : NimbleClient L => self.useStats :=
  headerKeeps_of fun _ _ _ _ _ _ => rfl

theorem Dispatch.predictionInputs_outcome (x : Dispatch L) (hstats : x.client.useStats = true) :
    x.outcome.2.predictionInputs =
      (if x.command = some .gameStepResponse then
        some ((L.fldInStreamReadInt8 (L.fldInStreamReadUInt8 x.inStream).stream).value.getD
          x.locals.deltaAgainstServerAuthoritativeBuffer)
      else none).toList.foldl PredictionInputs.hear x.client.predictionInputs := by
  have hhears : ∀ inStream locals,
      (x.client.discardAcknowledged inStream locals).predictionInputs =
        x.client.predictionInputs.hear
          ((L.fldInStreamReadInt8 (L.fldInStreamReadUInt8 inStream).stream).value.getD
            locals.deltaAgainstServerAuthoritativeBuffer) := by
    intro inStream locals
    simp only [NimbleClient.discardAcknowledged, readGameStepHeader, NimbleClient.predictionInputs,
      PredictionInputs.hear, if_pos hstats]
  have heffect := x.effect
  generalize x.outcome.2 = client at heffect ⊢
  cases heffect with
  | failSteps h => rw [if_pos h]; exact hhears _ _
  | takeSteps h => rw [if_pos h.1]; exact hhears _ _
  | connect h => rw [if_neg (by simp [h.1])]; rfl
  | takePart h => rw [if_neg (by simp [h.1])]; rfl
  | adoptBlob h => rw [if_neg (by simp [h.1.1])]; rfl
  | join h => rw [if_neg (by simp [h.1])]; rfl
  | startDownload h => rw [if_neg (by simp [h.1])]; rfl
  | outOfSlots h => rw [if_neg (by simp [h])]; rfl
  | ignore h => rw [if_neg h.steps]; rfl

/-- A feed measures the round trip that ends with it, and hears the buffer delta in it. -/
theorem predictionInputs_nimbleClientFeed (hbits : RestoresLowerBits L)
    {sentAt : Datagram L → MonotonicTimeMs} {f : NimbleClient L × Datagram L}
    (hstats : f.1.useStats = true) (hechoes : MeasuresRoundTrip f → Echoes sentAt f) :
    (nimbleClientFeed f.1 f.2).2.predictionInputs =
      f.1.predictionInputs.see (roundTrip? sentAt f) (bufferDelta? f) := by
  by_cases hearly : f.2.octets.length < 1 ∨ f.1.state = .disconnected
  · have hnone : dispatch? f.1 f.2 = none := if_pos hearly
    have hmeasures : ¬MeasuresRoundTrip f := by
      have hdistance : acceptedDistance? f.1 f.2 = none := if_pos (hearly.imp_right Or.inl)
      simp [MeasuresRoundTrip, hdistance]
    rw [bufferDelta?, hnone, roundTrip?, if_neg hmeasures, nimbleClientFeed_eq]
    rcases hearly with hlength | hstate
    · rw [if_pos hlength]
      rfl
    · rw [if_pos hstate]
      split <;> rfl
  have hheader := predictionInputs_readDatagramHeader hbits hearly hstats hechoes
  rw [PredictionInputs.see, ← hheader]
  cases hx : dispatch? f.1 f.2 with
  | none =>
      rw [bufferDelta?, hx]
      rw [not_or] at hearly
      simp only [dispatch?, not_or.mpr hearly, ↓reduceIte] at hx
      split at hx
      · rename_i hfails
        rw [nimbleClientFeed_eq, if_neg hearly.1, if_neg hearly.2, if_pos hfails]
        rfl
      · cases hx
  | some x =>
      have hclient := dispatch?_client hx
      have hkept : x.client.useStats = true := (headerKeeps_useStats.of_dispatch hx).trans hstats
      rw [nimbleClientFeed_of_dispatch hx, x.predictionInputs_outcome hkept, bufferDelta?, hx,
        hclient]
      rfl

/-! ## A run -/

/-- The inputs are those that the feeds have brought. -/
structure PredictionInputs.Follow (sentAt : Datagram L → MonotonicTimeMs)
    (start : PredictionInputs L) (fed : List (NimbleClient L × Datagram L))
    (after : PredictionInputs L) : Prop where
  useStats : after.useStats = start.useStats
  latencyMs : after.latencyMs = (roundTrips sentAt fed).getLastD start.latencyMs
  latencyMsStat : after.latencyMsStat =
    ((roundTrips sentAt fed).map Nat.cast).foldl L.statsIntAdd start.latencyMsStat
  authoritativeBufferDeltaStat : after.authoritativeBufferDeltaStat =
    ((fed.filterMap bufferDelta?).map Int8.toInt).foldl L.statsIntAdd
      start.authoritativeBufferDeltaStat

theorem PredictionInputs.follow_see (sentAt : Datagram L → MonotonicTimeMs)
    (start : PredictionInputs L) (f : NimbleClient L × Datagram L) :
    start.Follow sentAt [f] (start.see (roundTrip? sentAt f) (bufferDelta? f)) := by
  cases hround : roundTrip? sentAt f <;> cases hdelta : bufferDelta? f <;>
    constructor <;> simp [roundTrips, hround, hdelta, see, measure, hear]

theorem PredictionInputs.Follow.append {sentAt : Datagram L → MonotonicTimeMs}
    {start middle after : PredictionInputs L} {fed more : List (NimbleClient L × Datagram L)}
    (h : start.Follow sentAt fed middle) (h' : middle.Follow sentAt more after) :
    start.Follow sentAt (fed ++ more) after where
  useStats := h'.useStats.trans h.useStats
  latencyMs := by
    rw [h'.latencyMs, h.latencyMs, roundTrips, roundTrips, roundTrips, List.filterMap_append]
    simp [List.getLastD_eq_getLast?, List.getLast?_append]
  latencyMsStat := by
    rw [h'.latencyMsStat, h.latencyMsStat]
    simp [roundTrips]
  authoritativeBufferDeltaStat := by
    rw [h'.authoritativeBufferDeltaStat, h.authoritativeBufferDeltaStat]
    simp

theorem follow_of_trace (hbits : RestoresLowerBits L) {sentAt : Datagram L → MonotonicTimeMs}
    {start after : PredictionInputs L} {fed : List (NimbleClient L × Datagram L)}
    (h : Trace (FeedStep NimbleClient.predictionInputs) start fed after)
    (hstats : start.useStats = true)
    (hechoes : ∀ f ∈ fed, MeasuresRoundTrip f → Echoes sentAt f) :
    start.Follow sentAt fed after := by
  induction h with
  | nil => exact ⟨rfl, rfl, rfl, rfl⟩
  | @cons start middle after f fed hstep _ ih =>
      obtain ⟨rfl, rfl⟩ := hstep
      rw [List.forall_mem_cons] at hechoes
      have hfeed := predictionInputs_nimbleClientFeed hbits hstats hechoes.1
      have hsees := f.1.predictionInputs.follow_see sentAt f
      rw [← hfeed] at hsees
      exact hsees.append (ih (hsees.useStats.trans hstats) hechoes.2)

/-- Starting over starts the statistics over. -/
theorem predictionInputs_of_restarts (self : NimbleClientRealize L) {operation : Operation L}
    (h : operation.Restarts) :
    (performOperation self operation).1.client.predictionInputs =
      ⟨true, self.client.latencyMs, L.statsIntInit 20, L.statsIntInit 10⟩ := by
  have hreset : ∀ (client : NimbleClient L) now, (nimbleClientReset client now).predictionInputs =
      ⟨true, client.latencyMs, L.statsIntInit 20, L.statsIntInit 10⟩ := by
    intro client now
    unfold nimbleClientReset
    dsimp only
    obtain ⟨_, _, hfreed⟩ := freeGameState_eq _
    rw [hfreed]
    rfl
  cases operation with
  | realizeInit settings now => exact hreset _ now
  | realizeReInit settings now => exact hreset _ now
  | realizeReset now => exact hreset _ now
  | reset now => exact hreset _ now
  | reInit transport now => exact hreset _ now
  | _ => exact h.elim

/-- Every round trip is shorter than what 16 bits can tell. -/
theorem roundTrips_lt {sentAt : Datagram L → MonotonicTimeMs}
    {fed : List (NimbleClient L × Datagram L)}
    (hechoes : ∀ f ∈ fed, MeasuresRoundTrip f → Echoes sentAt f) :
    ∀ r ∈ roundTrips sentAt fed, r < 2 ^ 16 := by
  intro r hr
  obtain ⟨f, hf, hround⟩ := List.mem_filterMap.mp hr
  rw [roundTrip?] at hround
  split at hround
  · obtain rfl := Option.some.inj hround
    have hlt : ∀ now sentAt : Int, now - sentAt < 2 ^ 16 → (now - sentAt).toNat < 2 ^ 16 := by
      omega
    exact hlt _ _ (hechoes f hf ‹_›).recent
  · cases hround

/-- The average of the latency lies between the round trips. -/
theorem avg_of_roundTrips (haverages : AveragesSamples L 20) {rounds : List Nat} {low high : Nat}
    (hrounds : ∀ r ∈ rounds, low ≤ r ∧ r ≤ high)
    (hset : L.avgIsSet ((rounds.map Nat.cast).foldl L.statsIntAdd (L.statsIntInit 20)) = true) :
    low ≤ L.avg ((rounds.map Nat.cast).foldl L.statsIntAdd (L.statsIntInit 20)) ∧
      L.avg ((rounds.map Nat.cast).foldl L.statsIntAdd (L.statsIntInit 20)) ≤ high := by
  apply haverages low high _ _ hset
  intro v hv
  obtain ⟨r, hr, rfl⟩ := List.mem_map.mp hv
  have hbounds := hrounds r hr
  omega

theorem int8_toInt_mem {deltas : List Int8} : ∀ v ∈ deltas.map Int8.toInt, -128 ≤ v ∧ v ≤ 127 := by
  intro v hv
  obtain ⟨delta, _, rfl⟩ := List.mem_map.mp hv
  exact ⟨delta.le_toInt, Int.le_of_lt_add_one delta.toInt_lt⟩

/-- Behind a restart, the latency statistic is that of the round trips, and the last latency the
last of them. Once there is an average, the prediction is far enough ahead to cover the shortest
round trip, and no more than six ticks further ahead than the longest. -/
theorem prediction_follows_round_trips (hbits : RestoresLowerBits L)
    (hlatencies : AveragesSamples L 20) (hdeltas : AveragesSamples L 10)
    {self : NimbleClientRealize L} (hreachable : Reachable self) {restart : Operation L}
    (hrestart : restart.Restarts) {operations : List (Operation L)}
    (h : ∀ operation ∈ operations, ¬operation.Restarts) (sentAt : Datagram L → MonotonicTimeMs)
    (hechoes : ∀ f ∈ runFeeds (performOperation self restart).1 operations,
      MeasuresRoundTrip f → Echoes sentAt f) (low high : Nat)
    (hrounds : ∀ r ∈ roundTrips sentAt (runFeeds (performOperation self restart).1 operations),
      low ≤ r ∧ r ≤ high) :
    let rounds := roundTrips sentAt (runFeeds (performOperation self restart).1 operations)
    let client := ((realizer L).run self (restart :: operations)).client
    client.latencyMs = rounds.getLastD self.client.latencyMs ∧
      client.latencyMsStat = (rounds.map Nat.cast).foldl L.statsIntAdd (L.statsIntInit 20) ∧
      (L.avgIsSet client.latencyMsStat = true → ∃ outDiff,
        nimbleClientOptimalStepIdToSend client =
          (true, L.expectedWriteId client.authoritativeStepsFromServer + UInt32.ofNat outDiff,
            some outDiff) ∧
        low < 16 * outDiff ∧ 16 * outDiff ≤ high + 6 * 16) := by
  intro rounds client
  have hstart := predictionInputs_of_restarts self hrestart
  have hfollow := follow_of_trace hbits
    (writtenByFeeds_predictionInputs.trace_run (performOperation self restart).1 h)
    (by rw [hstart]) hechoes
  rw [hstart] at hfollow
  have hstat : client.latencyMsStat =
      (rounds.map Nat.cast).foldl L.statsIntAdd (L.statsIntInit 20) := hfollow.latencyMsStat
  have hdeltaStat : client.authoritativeBufferDeltaStat =
      List.foldl L.statsIntAdd (L.statsIntInit 10) _ := hfollow.authoritativeBufferDeltaStat
  refine ⟨hfollow.latencyMs, hstat, fun hset => ?_⟩
  obtain ⟨memory, settings, now, past, rfl⟩ := hreachable
  have htick : client.expectedTickDurationMs = 16 := by
    have hrun : Reachable ((realizer L).run ((realizer L).run
        (nimbleClientRealizeInit memory settings now) past) (restart :: operations)) :=
      ⟨memory, settings, now, past ++ restart :: operations, (Machine.run_append _ _ _ _).symm⟩
    exact hrun.isInitialized.expectedTickDurationMs
  rw [hstat] at hset
  have hmem := avg_of_roundTrips hlatencies hrounds hset
  have hshort := avg_of_roundTrips hlatencies (fun r hr =>
    ⟨Nat.zero_le r, (roundTrips_lt hechoes r hr).le⟩) hset
  rw [← hstat] at hset hmem hshort
  have hpredicts : CanPredict client :=
    ⟨hset, by omega, by omega, fun hdelta => by
      rw [hdeltaStat] at hdelta ⊢
      exact hdeltas _ _ _ int8_toInt_mem hdelta⟩
  obtain ⟨hcovers, hexceeds⟩ := hpredicts.distance_mem
  have haverage : low ≤ latencyAverage client ∧ latencyAverage client ≤ high := by
    rw [latencyAverage]
    omega
  rw [htick, Nat.mul_comm] at hcovers hexceeds
  exact ⟨_, nimbleClientOptimalStepIdToSend_of_canPredict hpredicts, by omega, by omega⟩

/-! ## A run on fixed inputs -/

namespace Small

/-- The average lies between two bounds of the samples, and so does that of the samples since. -/
structure Stats.IsBetween (s : Stats) (low high : Int) : Prop where
  low_le : low * s.count ≤ s.sum
  le_high : s.sum ≤ high * s.count
  average : s.avgIsSet = true → low ≤ s.avg ∧ s.avg ≤ high

theorem Stats.IsBetween.add {s : Stats} {low high v : Int} (h : s.IsBetween low high)
    (hv : low ≤ v ∧ v ≤ high) : (s.add v).IsBetween low high := by
  have hlow : low * (s.count + 1) ≤ s.sum + v := by
    rw [Int.mul_add, Int.mul_one]
    exact Int.add_le_add h.low_le hv.1
  have hhigh : s.sum + v ≤ high * (s.count + 1) := by
    rw [Int.mul_add, Int.mul_one]
    exact Int.add_le_add h.le_high hv.2
  rw [Stats.add]
  split
  · have hcount : (s.count : Int) + 1 ≠ 0 := by omega
    refine ⟨by simp, by simp, fun _ => ⟨?_, ?_⟩⟩
    · rw [← Int.mul_tdiv_cancel low hcount]
      exact Int.tdiv_le_tdiv (by omega) hlow
    · rw [← Int.mul_tdiv_cancel high hcount]
      exact Int.tdiv_le_tdiv (by omega) hhigh
  · exact ⟨by simpa using hlow, by simpa using hhigh, h.average⟩

theorem averagesSamples_smallLibraries (threshold : Nat) :
    AveragesSamples smallLibraries threshold := by
  intro low high samples hsamples stat hset
  have hbetween : ∀ s : Stats, s.IsBetween low high →
      (samples.foldl Stats.add s).IsBetween low high := by
    clear stat hset
    induction samples with
    | nil => exact fun _ hs => hs
    | cons v samples ih =>
        rw [List.forall_mem_cons] at hsamples
        exact fun s hs => ih hsamples.2 _ (hs.add hsamples.1)
  exact (hbetween ⟨threshold, 0, 0, 0, false⟩ ⟨by simp, by simp, by simp⟩).average hset

theorem restoresLowerBits_smallLibraries : RestoresLowerBits smallLibraries := by
  intro now sentAt hpast hrecent
  have hrestores : ∀ now sentAt : Int, sentAt ≤ now → now - sentAt < 2 ^ 16 →
      now - (now - ((sentAt % 2 ^ 16).toNat % 2 ^ 16 : Nat)) % 2 ^ 16 = sentAt := by
    omega
  change now - (now - (UInt16.ofNat (sentAt % 2 ^ 16).toNat).toNat) % 2 ^ 16 = sentAt
  rw [UInt16.toNat_ofNat']
  exact hrestores now sentAt hpast hrecent

/-- A datagram that echoes the time 5, with the given round trip. -/
def echo (id : UInt8) (roundTrip : Int) : Datagram smallLibraries :=
  ⟨id :: 0 :: 5 :: commandOctet .connectResponse :: [0, 7], zeroLocals, 5 + roundTrip⟩

/-- Twenty datagrams with round trips from 30 ms to 49 ms. -/
def echoingSession : List (Operation smallLibraries) :=
  [.realizeJoinGame (0 : UInt8),
    .realizeUpdate (updateWith ((List.range 20).map fun i => echo (UInt8.ofNat (i + 1)) (30 + i)))]

end Small

open Nimble.Small

theorem prediction_follows_round_trips_echoing :
    ∃ outDiff, (nimbleClientOptimalStepIdToSend ((realizer smallLibraries).run (freshRealizer 1)
        (.reset 0 :: echoingSession)).client).2.2 = some outDiff ∧
      30 < 16 * outDiff ∧ 16 * outDiff ≤ 49 + 6 * 16 := by
  have hechoes : ∀ f ∈ runFeeds (performOperation (freshRealizer 1) (.reset 0)).1 echoingSession,
      (pongRead f).value = some (smallLibraries.monotonicTimeMsToLowerBits 5) ∧
        5 ≤ f.2.now ∧ f.2.now - 5 < 2 ^ 16 := by
    decide +kernel
  have hpredicts := (@prediction_follows_round_trips smallLibraries
    restoresLowerBits_smallLibraries (averagesSamples_smallLibraries 20)
    (averagesSamples_smallLibraries 10) (freshRealizer 1) ⟨_, _, _, [], rfl⟩ (.reset 0) trivial
    echoingSession (by simp [echoingSession, Operation.Restarts]) (fun _ => 5)
    (fun f hf _ => ⟨(hechoes f hf).1, (hechoes f hf).2.1, (hechoes f hf).2.2⟩) 30 49
    (by decide +kernel)).2.2 (by decide +kernel)
  obtain ⟨outDiff, hworks, hbounds⟩ := hpredicts
  exact ⟨outDiff, by rw [hworks], hbounds⟩

end Nimble
