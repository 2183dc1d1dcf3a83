import Nimble.Verification.Clock.Incoming

/-! # Measurements and outgoing datagrams

What a client has measured goes into no datagram but for the time in its header. -/

namespace Nimble

variable {L : Libraries}

/-! ## Outgoing datagrams -/

/-- Streams with as many octets written, and the same room. -/
structure SamePlace (x y : FldOutStream) : Prop where
  pos : y.pos = x.pos
  size : y.size = x.size
  writeDebugInfo : y.writeDebugInfo = x.writeDebugInfo

/-- A writer that does not look at what has been written. -/
def ByPosition (w : Writer) : Prop := ∀ x y, SamePlace x y → w y = w x

/-- The libraries append to a stream. The 16-bit time takes as many octets whatever it is. -/
structure OutStreamLaws (L : Libraries) : Prop where
  time : ∀ v w stream, (L.fldOutStreamWriteUInt16 v stream).octets.length =
    (L.fldOutStreamWriteUInt16 w stream).octets.length
  uint8 : ∀ v, ByPosition (L.fldOutStreamWriteUInt8 v)
  command : ∀ cmd, ByPosition (L.nimbleSerializeWriteCommand cmd)
  connectRequest : ∀ request, ByPosition (L.nimbleSerializeClientOutConnectRequest request)
  joinGameRequest : ∀ request, ByPosition (L.nimbleSerializeClientOutJoinGameRequest request)
  pendingSteps : ∀ stepId mask, ByPosition (L.nbsPendingStepsSerializeOutHeader stepId mask)
  steps : ∀ steps, ByPosition (L.nbsStepsOutSerialize steps)
  chunk : ∀ logic blobStreamIn x y, SamePlace x y →
    L.blobStreamLogicInSend logic blobStreamIn y = L.blobStreamLogicInSend logic blobStreamIn x

/-- The datagrams are the same but for the time in the header. -/
def SameButTime (x y : List UInt8) : Prop :=
  ∃ (client : NimbleClient L) (now now' : MonotonicTimeMs) (rest : List UInt8),
    x = (headerStream client now).octets ++ rest ∧ y = (headerStream client now').octets ++ rest

/-- The streams of such datagrams. -/
structure StreamsButTime (x y : FldOutStream) : Prop extends SamePlace x y where
  octets : @SameButTime L x.octets y.octets

theorem streamsButTime_headerStream (laws : OutStreamLaws L) (client : NimbleClient L)
    (now now' : MonotonicTimeMs) :
    @StreamsButTime L (headerStream client now) (headerStream client now') := by
  refine ⟨⟨?_, rfl, rfl⟩, client, now, now', [], by simp, by simp⟩
  have hlength := laws.time (L.monotonicTimeMsToLowerBits now')
    (L.monotonicTimeMsToLowerBits now)
  simp [FldOutStream.pos, headerStream, nimbleClientWriteHeader, hlength]

section

variable {x y : FldOutStream}

theorem StreamsButTime.append (h : @StreamsButTime L x y) (more : List UInt8) :
    @StreamsButTime L { x with octets := x.octets ++ more } { y with octets := y.octets ++ more } := by
  obtain ⟨client, now, now', rest, hx, hy⟩ := h.octets
  have hpos := h.pos
  refine ⟨⟨?_, h.size, h.writeDebugInfo⟩, client, now, now', rest ++ more, ?_, ?_⟩
  · simp only [FldOutStream.pos, List.length_append] at hpos ⊢
    rw [hpos]
  · rw [hx, List.append_assoc]
  · rw [hy, List.append_assoc]

theorem StreamsButTime.write (h : @StreamsButTime L x y) {w : Writer} (hw : ByPosition w) :
    @StreamsButTime L (x.write w) (y.write w) := by
  have hsame : y.write w = { y with octets := y.octets ++ (w x).octets } := by
    rw [FldOutStream.write]
    rw [hw x y h.toSamePlace]
  rw [hsame]
  exact h.append (w x).octets

end

/-- The transport's send function returns the same, at other times. -/
structure SameSends (input other : OutgoingInput) : Prop where
  steps : other.stepsSendResult = input.stepsSendResult
  message : other.messageSendResult = input.messageSendResult

/-- The same return value, and datagrams that differ in their times. -/
def SameOutgoing (x y : OutgoingOutcome L) : Prop :=
  y.result = x.result ∧
    List.Forall₂ (@SameButTime L) (sentOctets x.events) (sentOctets y.events) ∧
    SameButClock x.client y.client

/-- The same message behind headers with different times. -/
def SameMessages (x y : MessageOutcome L) : Prop :=
  y.result = x.result ∧ @StreamsButTime L x.stream y.stream ∧ SameButClock x.client y.client

/-- The same code, and streams that differ in their times. -/
def SameSteps (x y : Int × NimbleClient L × FldOutStream) : Prop :=
  y.1 = x.1 ∧ SameButClock x.2.1 y.2.1 ∧ @StreamsButTime L x.2.2 y.2.2

section

variable (laws : OutStreamLaws L) {a b : NimbleClient L} {x y : FldOutStream}

include laws

theorem same_sendStepsToStream (h : SameButClock a b) (hs : @StreamsButTime L x y) :
    SameSteps (sendStepsToStream a x) (sendStepsToStream b y) := by
  obtain ⟨clock, rfl⟩ := h.eq_withClock
  have hcommand := hs.write (laws.command .gameStep)
  have hheader := laws.pendingSteps
    (L.nbsPendingStepsReceiveMask a.authoritativePendingStepsFromServer).2
    (L.nbsPendingStepsReceiveMask a.authoritativePendingStepsFromServer).1
  have hsteps := laws.steps a.outSteps
  have hfails := congrArg WriteResult.code (hheader _ _ hcommand.toSamePlace)
  have hcode := congrArg WriteResult.code (hsteps _ _ (hcommand.write hheader).toSamePlace)
  refine related_ite ?_ ⟨hfails, rfl, hcommand.write hheader⟩ (related_ite ?_
    ⟨hcode, rfl, (hcommand.write hheader).write hsteps⟩
    ⟨hcode, rfl, (hcommand.write hheader).write hsteps⟩)
  · exact iff_of_eq (congrArg (· < 0) hfails.symm)
  · exact iff_of_eq (congrArg (· < 0) hcode.symm)

theorem same_nimbleClientWriteHeader (h : SameButClock a b) (now now' : MonotonicTimeMs) :
    SameButClock (nimbleClientWriteHeader a (fldOutStreamInit L) now).1
        (nimbleClientWriteHeader b (fldOutStreamInit L) now').1 ∧
      @StreamsButTime L (headerStream a now) (headerStream b now') := by
  obtain ⟨clock, rfl⟩ := h.eq_withClock
  exact ⟨rfl, streamsButTime_headerStream laws a now now'⟩

omit laws in
theorem same_countStepsDatagram (h : SameButClock a b) :
    SameButClock
      { nimbleClientCommitHeader a with
        sentStepsDatagramCountPerSecond :=
          L.statsIntPerSecondAdd (nimbleClientCommitHeader a).sentStepsDatagramCountPerSecond 1
        packetsPerSecondOut :=
          L.statsIntPerSecondAdd (nimbleClientCommitHeader a).packetsPerSecondOut 1 }
      { nimbleClientCommitHeader b with
        sentStepsDatagramCountPerSecond :=
          L.statsIntPerSecondAdd (nimbleClientCommitHeader b).sentStepsDatagramCountPerSecond 1
        packetsPerSecondOut :=
          L.statsIntPerSecondAdd (nimbleClientCommitHeader b).packetsPerSecondOut 1 } := by
  obtain ⟨clock, rfl⟩ := h.eq_withClock
  rfl

theorem same_nimbleClientSendStepsToServer (h : SameButClock a b) {input other : OutgoingInput}
    (hinput : SameSends input other) :
    SameOutgoing (nimbleClientSendStepsToServer a input)
      (nimbleClientSendStepsToServer b other) := by
  obtain ⟨hheader, hstream⟩ :=
    same_nimbleClientWriteHeader laws h input.stepsHeaderNow other.stepsHeaderNow
  obtain ⟨hsteps, hclient, hsent⟩ := same_sendStepsToStream laws hheader hstream
  unfold headerStream at hsteps hclient hsent
  unfold nimbleClientSendStepsToServer
  dsimp only
  rw [hsteps]
  refine related_ite Iff.rfl ⟨rfl, .nil, hclient⟩ ⟨hinput.steps, ?_, ?_⟩
  · exact .cons hsent.octets .nil
  · exact same_countStepsDatagram hclient

omit laws in
theorem sendBlobStreamCommands_of_sent {self : NimbleClient L} {stream : FldOutStream}
    {sent : WriteResult} {logic : L.BlobStreamLogicIn}
    (h : L.blobStreamLogicInSend self.blobStreamInLogic self.blobStreamIn
      (stream.write (L.nimbleSerializeWriteCommand .clientOutBlobStream)) = (sent, logic)) :
    sendBlobStreamCommands self stream =
      let stream := stream.write (L.nimbleSerializeWriteCommand .clientOutBlobStream)
      let stream := { stream with octets := stream.octets ++ sent.octets }
      let self := { self with blobStreamInLogic := logic }
      if sent.code < 0 then ⟨sent.code, self, stream, [.blobStreamSend]⟩
      else ⟨0, { self with waitTime := 0 }, stream, [.blobStreamSend]⟩ := by
  have heq : sendBlobStreamCommands self stream =
      (fun sent : WriteResult × L.BlobStreamLogicIn =>
        let stream := stream.write (L.nimbleSerializeWriteCommand .clientOutBlobStream)
        let stream := { stream with octets := stream.octets ++ sent.1.octets }
        let self := { self with blobStreamInLogic := sent.2 }
        if sent.1.code < 0 then
          (⟨sent.1.code, self, stream, [.blobStreamSend]⟩ : MessageOutcome L)
        else ⟨0, { self with waitTime := 0 }, stream, [.blobStreamSend]⟩)
        (L.blobStreamLogicInSend self.blobStreamInLogic self.blobStreamIn
          (stream.write (L.nimbleSerializeWriteCommand .clientOutBlobStream))) := rfl
  rw [heq, h]

theorem same_sendBlobStreamCommands (h : SameButClock a b) (hs : @StreamsButTime L x y) :
    SameMessages (sendBlobStreamCommands a x) (sendBlobStreamCommands b y) := by
  obtain ⟨clock, rfl⟩ := h.eq_withClock
  have hcommand := hs.write (laws.command .clientOutBlobStream)
  have hchunk := laws.chunk a.blobStreamInLogic a.blobStreamIn _ _ hcommand.toSamePlace
  rcases hsent : L.blobStreamLogicInSend a.blobStreamInLogic a.blobStreamIn
    (x.write (L.nimbleSerializeWriteCommand .clientOutBlobStream)) with ⟨sent, logic⟩
  rw [hsent] at hchunk
  rw [sendBlobStreamCommands_of_sent hsent,
    @sendBlobStreamCommands_of_sent _ (a.withClock clock) y _ _ hchunk]
  exact related_ite Iff.rfl ⟨rfl, hcommand.append _, rfl⟩ ⟨rfl, hcommand.append _, rfl⟩

theorem same_updateSyncedSubState (h : SameButClock a b) (hs : @StreamsButTime L x y) :
    SameMessages (updateSyncedSubState a x) (updateSyncedSubState b y) := by
  unfold updateSyncedSubState
  rw [h.congr NimbleClient.joinParticipantPhase fun _ _ => rfl]
  obtain ⟨clock, rfl⟩ := h.eq_withClock
  cases a.joinParticipantPhase with
  | joiningParticipant => exact ⟨rfl, hs.write (laws.joinGameRequest _), rfl⟩
  | joinedParticipant => exact ⟨rfl, hs, rfl⟩
  | outOfParticipantSlots => exact ⟨rfl, hs, rfl⟩

theorem same_sendMessageUsingStream (h : SameButClock a b) (hs : @StreamsButTime L x y) :
    SameMessages (sendMessageUsingStream a x) (sendMessageUsingStream b y) := by
  unfold sendMessageUsingStream
  rw [h.congr NimbleClient.state fun _ _ => rfl]
  cases a.state with
  | joiningDownloadingState => exact same_sendBlobStreamCommands laws h hs
  | synced => exact same_updateSyncedSubState laws h hs
  | requestingConnect =>
      obtain ⟨clock, rfl⟩ := h.eq_withClock
      exact ⟨rfl, hs.write (laws.connectRequest _), rfl⟩
  | joiningRequestingState =>
      obtain ⟨clock, rfl⟩ := h.eq_withClock
      exact ⟨rfl, (hs.write (laws.command _)).write (laws.uint8 _), rfl⟩
  | _ => exact ⟨rfl, hs, h⟩

theorem same_outgoingMessage (h : SameButClock a b) (input other : OutgoingInput) :
    SameMessages (outgoingMessage a input) (outgoingMessage b other) := by
  obtain ⟨hheader, hstream⟩ :=
    same_nimbleClientWriteHeader laws h input.messageHeaderNow other.messageHeaderNow
  exact same_sendMessageUsingStream laws hheader hstream

omit laws in
theorem same_nimbleClientCommitHeader (h : SameButClock a b) :
    SameButClock (nimbleClientCommitHeader a) (nimbleClientCommitHeader b) := by
  obtain ⟨clock, rfl⟩ := h.eq_withClock
  rfl

omit laws in
theorem same_countPacketOut (h : SameButClock a b) :
    SameButClock { a with packetsPerSecondOut := L.statsIntPerSecondAdd a.packetsPerSecondOut 1 }
      { b with packetsPerSecondOut := L.statsIntPerSecondAdd b.packetsPerSecondOut 1 } := by
  obtain ⟨clock, rfl⟩ := h.eq_withClock
  rfl

theorem same_sendMessageDatagram (h : SameButClock a b) {input other : OutgoingInput}
    (hinput : SameSends input other) :
    SameOutgoing (sendMessageDatagram a input) (sendMessageDatagram b other) := by
  obtain ⟨hresult, hstream, hclient⟩ := same_outgoingMessage laws h input other
  have hcommit := same_nimbleClientCommitHeader hclient
  rw [sendMessageDatagram_eq, sendMessageDatagram_eq]
  dsimp only
  rw [hresult, hstream.pos]
  refine related_ite Iff.rfl ⟨rfl, ?_, hclient⟩ (related_ite Iff.rfl ⟨rfl, ?_, hcommit⟩
    ⟨hinput.message, ?_, same_countPacketOut hcommit⟩)
  · have hsilent := sentOctets_outgoingMessage a input []
    have hsilent' := sentOctets_outgoingMessage b other []
    rw [List.append_nil] at hsilent hsilent'
    rw [hsilent, hsilent']
    exact .nil
  · rw [sentOctets_outgoingMessage, sentOctets_outgoingMessage]
    exact .nil
  · rw [sentOctets_outgoingMessage, sentOctets_outgoingMessage]
    exact .cons hstream.octets .nil

theorem same_handleState (h : SameButClock a b) {input other : OutgoingInput}
    (hinput : SameSends input other) :
    SameOutgoing (handleState a input) (handleState b other) := by
  have hmessage := same_sendMessageDatagram laws h hinput
  unfold handleState
  rw [h.congr NimbleClient.state fun _ _ => rfl]
  cases a.state with
  | requestingConnect => exact hmessage
  | joiningRequestingState => exact hmessage
  | joiningDownloadingState => exact hmessage
  | synced =>
      have hsteps := same_nimbleClientSendStepsToServer laws h hinput
      obtain ⟨hresult, hevents, hclient⟩ := same_sendMessageDatagram laws hsteps.2.2 hinput
      dsimp only
      rw [hsteps.1]
      refine related_ite Iff.rfl hsteps ⟨hresult, ?_, hclient⟩
      rw [sentOctets_append, sentOctets_append]
      exact List.rel_append hsteps.2.1 hevents
  | _ => exact ⟨rfl, .nil, h⟩

theorem same_nimbleClientOutgoing (h : SameButClock a b) {input other : OutgoingInput}
    (hinput : SameSends input other) :
    SameOutgoing (nimbleClientOutgoing a input) (nimbleClientOutgoing b other) := by
  have hhandled := same_handleState laws h hinput
  unfold nimbleClientOutgoing
  dsimp only
  rw [hhandled.1]
  refine related_ite Iff.rfl hhandled ⟨rfl, hhandled.2.1, ?_⟩
  obtain ⟨clock, hclock⟩ := hhandled.2.2.eq_withClock
  rw [hclock]
  rfl

theorem same_sendPackets (h : SameButClock a b) {input other : OutgoingInput}
    (hinput : SameSends input other) :
    SameOutgoing (sendPackets a input) (sendPackets b other) := by
  unfold sendPackets
  rw [h.congr NimbleClient.state fun _ _ => rfl]
  exact related_ite Iff.rfl ⟨rfl, .nil, h⟩ (same_nimbleClientOutgoing laws h hinput)

end

end Nimble
