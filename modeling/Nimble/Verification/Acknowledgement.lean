import Nimble.Verification.SequenceIds

/-! # The acknowledgement of authoritative steps

A synced client tells the server which authoritative steps it has in the datagram with its
predicted steps, and leaves that datagram out when it has predicted none. -/

namespace Nimble

variable {L : Libraries}

/-! ## The libraries as documented -/

/-- Serializing steps returns how many were written, which is none for an empty buffer only. -/
structure CountsSteps (L : Libraries) : Prop where
  empty : ∀ steps stream, L.stepsCount steps = 0 → (L.nbsStepsOutSerialize steps stream).code ≤ 0
  some : ∀ steps stream, 0 < L.stepsCount steps →
    0 ≤ (L.nbsStepsOutSerialize steps stream).code →
      0 < (L.nbsStepsOutSerialize steps stream).code

/-- The octets behind the header of a game step datagram. -/
def gameStepStream (stream : FldOutStream) : FldOutStream :=
  stream.write (L.nimbleSerializeWriteCommand .gameStep)

/-- Neither a join request nor a header alone begins like a game step datagram. -/
structure GameStepIsDistinct (L : Libraries) : Prop where
  joinGameRequest : ∀ (self other : NimbleClient L) now later request,
    ¬(@gameStepStream L (headerStream self now)).octets <+:
      ((headerStream other later).write (L.nimbleSerializeClientOutJoinGameRequest request)).octets
  header : ∀ (self other : NimbleClient L) now later,
    ¬(@gameStepStream L (headerStream self now)).octets <+: (headerStream other later).octets

/-! ## The steps datagram -/

/-- What a client acknowledges: the receive mask and the expected id of its pending steps. -/
def NimbleClient.acknowledgementHeader (self : NimbleClient L) : Writer :=
  let (clientReceiveMask, expectedStepIdFromServer) :=
    L.nbsPendingStepsReceiveMask self.authoritativePendingStepsFromServer
  L.nbsPendingStepsSerializeOutHeader expectedStepIdFromServer clientReceiveMask

/-- The stream with the acknowledgement of a game step datagram. -/
def NimbleClient.acknowledgement (self : NimbleClient L) (stream : FldOutStream) :
    FldOutStream :=
  (@gameStepStream L stream).write self.acknowledgementHeader

/-- A game step datagram with what the client acknowledges. -/
def NimbleClient.Acknowledges (self : NimbleClient L) (octets : List UInt8) : Prop :=
  ∃ now, (self.acknowledgement (headerStream self now)).octets <+: octets

/-- Neither the acknowledgement nor the steps of a call fail to serialize. -/
structure SerializesSteps (client : NimbleClient L) (input : OutgoingInput) : Prop where
  header : 0 ≤ (client.acknowledgementHeader
    (@gameStepStream L (headerStream client input.stepsHeaderNow))).code
  steps : 0 ≤ (L.nbsStepsOutSerialize client.outSteps
    (client.acknowledgement (headerStream client input.stepsHeaderNow))).code

theorem sendStepsToStream_of_serializes {self : NimbleClient L} {stream : FldOutStream}
    (hheader : 0 ≤ (self.acknowledgementHeader (@gameStepStream L stream)).code)
    (hsteps : 0 ≤ (L.nbsStepsOutSerialize self.outSteps (self.acknowledgement stream)).code) :
    (sendStepsToStream self stream).1 =
        (L.nbsStepsOutSerialize self.outSteps (self.acknowledgement stream)).code ∧
      (sendStepsToStream self stream).2.2 =
        (self.acknowledgement stream).write (L.nbsStepsOutSerialize self.outSteps) := by
  have heq : sendStepsToStream self stream =
      if (self.acknowledgementHeader (@gameStepStream L stream)).code < 0 then (_, _, _)
      else if (L.nbsStepsOutSerialize self.outSteps (self.acknowledgement stream)).code < 0 then
        (_, _, _)
      else
        (_, _, (self.acknowledgement stream).write (L.nbsStepsOutSerialize self.outSteps)) := rfl
  rw [heq, if_neg (Int.not_lt.mpr hheader), if_neg (Int.not_lt.mpr hsteps)]
  exact ⟨rfl, rfl⟩

/-- The steps datagram of a call that serializes it: there is none without steps. -/
theorem sentOctets_nimbleClientSendStepsToServer {self : NimbleClient L} {input : OutgoingInput}
    (h : SerializesSteps self input) :
    sentOctets (nimbleClientSendStepsToServer self input).events =
      if (L.nbsStepsOutSerialize self.outSteps
          (self.acknowledgement (headerStream self input.stepsHeaderNow))).code ≤ 0 then []
      else [((self.acknowledgement (headerStream self input.stepsHeaderNow)).write
        (L.nbsStepsOutSerialize self.outSteps)).octets] := by
  obtain ⟨hcode, hstream⟩ := @sendStepsToStream_of_serializes L
    (nimbleClientWriteHeader self (fldOutStreamInit L) input.stepsHeaderNow).1
    (headerStream self input.stepsHeaderNow) h.header h.steps
  unfold headerStream at hcode hstream
  rw [nimbleClientSendStepsToServer]
  dsimp only
  rw [hcode, hstream]
  split
  · exact (if_pos ‹_›).symm
  · exact (if_neg ‹_›).symm

/-- Steps that do not serialize are not sent. -/
theorem sentOctets_of_not_serializesSteps {self : NimbleClient L} {input : OutgoingInput}
    (h : ¬SerializesSteps self input) :
    sentOctets (nimbleClientSendStepsToServer self input).events = [] := by
  have hfails : (sendStepsToStream
      (nimbleClientWriteHeader self (fldOutStreamInit L) input.stepsHeaderNow).1
      (headerStream self input.stepsHeaderNow)).1 ≤ 0 := by
    simp only [sendStepsToStream]
    split
    · exact Int.le_of_lt ‹_›
    · split
      · exact Int.le_of_lt ‹_›
      · exact absurd ⟨Int.not_lt.mp ‹_›, Int.not_lt.mp ‹_›⟩ h
  unfold headerStream at hfails
  rw [nimbleClientSendStepsToServer]
  dsimp only
  rw [if_pos hfails]
  rfl

/-- Whatever is sent as steps acknowledges. -/
theorem acknowledges_of_mem_steps {self : NimbleClient L} {input : OutgoingInput}
    {octets : List UInt8}
    (h : octets ∈ sentOctets (nimbleClientSendStepsToServer self input).events) :
    self.Acknowledges octets := by
  by_cases hserializes : SerializesSteps self input
  · rw [sentOctets_nimbleClientSendStepsToServer hserializes] at h
    split at h
    · cases h
    · rw [List.mem_singleton.mp h]
      exact ⟨input.stepsHeaderNow, List.prefix_append _ _⟩
  · rw [sentOctets_of_not_serializesSteps hserializes] at h
    cases h

/-- What else a synced client sends is no game step datagram. -/
theorem not_acknowledges_of_mem_sendMessageDatagram (hdistinct : GameStepIsDistinct L)
    {self : NimbleClient L} (hstate : self.state = .synced) {input : OutgoingInput}
    {octets : List UInt8} (h : octets ∈ sentOctets (sendMessageDatagram self input).events)
    (client : NimbleClient L) : ¬client.Acknowledges octets := by
  rintro ⟨now, hprefix⟩
  have hgameStep : (@gameStepStream L (headerStream client now)).octets <+: octets :=
    (List.prefix_append _ _).trans hprefix
  have hstream : (outgoingMessage self input).stream.octets =
      if self.joinParticipantPhase = .joiningParticipant then
        ((headerStream self input.messageHeaderNow).write
          (L.nimbleSerializeClientOutJoinGameRequest self.joinGameRequest)).octets
      else (headerStream self input.messageHeaderNow).octets := by
    rw [outgoingMessage, sendMessageUsingStream]
    rw [show (nimbleClientWriteHeader self (fldOutStreamInit L) input.messageHeaderNow).1.state =
      .synced from hstate]
    rw [updateSyncedSubState]
    dsimp only [nimbleClientWriteHeader]
    cases self.joinParticipantPhase <;> rfl
  rw [(eq_of_mem_sendMessageDatagram h).1, hstream] at hgameStep
  split at hgameStep
  · exact hdistinct.joinGameRequest _ _ _ _ _ hgameStep
  · exact hdistinct.header _ _ _ _ hgameStep

/-! ## Calls of `nimbleClientOutgoing` -/

/-- The datagrams of a synced client: the steps datagram, and maybe a message. -/
theorem mem_sentOctets_of_synced {self : NimbleClient L} (hstate : self.state = .synced)
    (input : OutgoingInput) (octets : List UInt8) :
    octets ∈ sentOctets (nimbleClientOutgoing self input).events ↔
      octets ∈ sentOctets (nimbleClientSendStepsToServer self input).events ∨
        ¬(nimbleClientSendStepsToServer self input).result < 0 ∧
          octets ∈ sentOctets (sendMessageDatagram
            (nimbleClientSendStepsToServer self input).client input).events := by
  rw [events_nimbleClientOutgoing]
  rw [handleState]
  rw [hstate]
  dsimp only
  split
  · simp [*]
  · rw [sentOctets_append, List.mem_append]
    simp [*]

theorem acknowledges_nimbleClientOutgoing (hcounts : CountsSteps L)
    (hdistinct : GameStepIsDistinct L) {self : NimbleClient L} (hstate : self.state = .synced)
    {input : OutgoingInput} (hserializes : SerializesSteps self input) :
    (∃ octets ∈ sentOctets (nimbleClientOutgoing self input).events,
        self.Acknowledges octets) ↔ 0 < L.stepsCount self.outSteps := by
  have hsteps := sentOctets_nimbleClientSendStepsToServer hserializes
  constructor
  · rintro ⟨octets, hmem, hacknowledges⟩
    rcases (mem_sentOctets_of_synced hstate input octets).mp hmem with hmem | ⟨_, hmem⟩
    · by_contra hempty
      have hcode := hcounts.empty self.outSteps
        (self.acknowledgement (headerStream self input.stepsHeaderNow)) (by omega)
      rw [hsteps, if_pos hcode] at hmem
      simp at hmem
    · have hsame := (sendsTo_nimbleClientSendStepsToServer self input).protocolState_eq
      have hsynced : (nimbleClientSendStepsToServer self input).client.state = .synced :=
        (congrArg ProtocolState.state hsame).trans hstate
      exact absurd hacknowledges
        (not_acknowledges_of_mem_sendMessageDatagram hdistinct hsynced hmem self)
  · intro hpositive
    have hcode := hcounts.some _ _ hpositive hserializes.steps
    rw [if_neg (Int.not_le.mpr hcode)] at hsteps
    have hsent := (mem_sentOctets_of_synced hstate input _).mpr
      (Or.inl (by rw [hsteps]; exact List.mem_singleton.mpr rfl))
    exact ⟨_, hsent, input.stepsHeaderNow, List.prefix_append _ _⟩

/-- Of the calls in a run that send for a synced client and serialize its steps, exactly those
with a predicted step in the buffer hand the transport a game step datagram with the expected id
and receive mask of the pending steps. -/
theorem synced_acknowledges (hcounts : CountsSteps L) (hdistinct : GameStepIsDistinct L)
    (start : NimbleClientRealize L) (operations : List (Operation L)) :
    ∀ v ∈ (realizer L).visits start operations, ∀ call ∈ outgoingCall? v.1 v.2,
      call.1.state = .synced → SerializesSteps call.1 call.2 →
        ((∃ octets ∈ sentOctets (performOperation v.1 v.2).2.events,
            call.1.Acknowledges octets) ↔ 0 < L.stepsCount call.1.outSteps) := by
  intro v _ call hcall hstate hserializes
  have hevents : (performOperation v.1 v.2).2.events =
      (nimbleClientOutgoing call.1 call.2).events := by
    rw [events_performOperation, Option.mem_def.mp hcall]
    rfl
  rw [hevents]
  exact acknowledges_nimbleClientOutgoing hcounts hdistinct hstate hserializes

/-! ## Runs on fixed inputs -/

namespace Small

theorem countsSteps_smallLibraries : CountsSteps smallLibraries where
  empty steps _ h := by
    change ((steps.steps.length : Nat) : Int) ≤ 0
    have hlength : steps.steps.length = 0 := h
    omega
  some steps _ h _ := by
    change 0 < ((steps.steps.length : Nat) : Int)
    have hlength : 0 < steps.steps.length := h
    omega

theorem gameStepIsDistinct_smallLibraries : GameStepIsDistinct smallLibraries where
  joinGameRequest self other now later request h := by
    simp [gameStepStream, headerStream, nimbleClientWriteHeader, fldOutStreamInit, put,
      putCommand, commandOctet, octetsOfUInt16, FldOutStream.write] at h
  header self other now later h := by
    have := h.length_le
    simp [gameStepStream, headerStream, nimbleClientWriteHeader, fldOutStreamInit, put,
      putCommand, octetsOfUInt16, FldOutStream.write] at this

/-- The send of an update: every send function succeeds. -/
def sendInput : OutgoingInput := ⟨0, 0, 0, 0⟩

/-- A synced realizer that has predicted a step. -/
def playingRealizer : NimbleClientRealize smallLibraries :=
  (performOperation syncedRealizer (.writeStep 10 [7])).1

/-- The client of a joined realizer as it sends in its next update. -/
def spectatingClient : NimbleClient smallLibraries :=
  updateSender joinedRealizer.client (updateWith [])

end Small

open Nimble.Small

/-- A predicted step takes the acknowledgement with it. -/
theorem synced_acknowledges_playing :
    ∃ octets ∈ sentOctets (performOperation playingRealizer (.outgoing sendInput)).2.events,
      playingRealizer.client.Acknowledges octets :=
  (synced_acknowledges countsSteps_smallLibraries gameStepIsDistinct_smallLibraries
    playingRealizer [.outgoing sendInput] _ List.mem_cons_self (playingRealizer.client, sendInput)
    rfl (by decide +kernel) ⟨by decide +kernel, by decide +kernel⟩).mpr (by decide +kernel)

/-- A synced client with nothing to predict hands the transport nothing. -/
theorem synced_acknowledges_counterexample :
    Reachable joinedRealizer ∧
      outgoingCall? joinedRealizer (.update (updateWith [])) = some (spectatingClient, sendInput) ∧
      spectatingClient.state = .synced ∧ SerializesSteps spectatingClient sendInput ∧
      sentOctets (performOperation joinedRealizer (.update (updateWith []))).2.events = [] := by
  have hcall : updateCall? joinedRealizer.client (updateWith []) =
      some (spectatingClient, sendInput) := if_neg (by decide +kernel)
  exact ⟨reachable_joinedRealizer, hcall, by decide +kernel,
    ⟨by decide +kernel, by decide +kernel⟩, by decide +kernel⟩

end Nimble
