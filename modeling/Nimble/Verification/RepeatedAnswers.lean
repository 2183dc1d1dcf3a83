import Nimble.Verification.Clock.Incoming
import Nimble.Verification.Truncation

/-! # Repeated answers

A server that gets a request twice answers it twice. Each handler leaves a client that passes over
the same answer, or takes it in without effect. -/

namespace Nimble

variable {L : Libraries}

/-! ## The libraries as documented -/

/-- What is held or already passed is taken in without effect: chunks of a blob, steps from the
server and steps to discard. What is refused is refused again, and copying leaves nothing behind
that could be copied. -/
structure RepeatLaws (L : Libraries) where
  /-- The chunk of the stream is in the blob stream. -/
  holdsChunk : L.BlobStreamIn → FldInStream → Prop
  chunk_received : ∀ logic blobStreamIn s,
    0 ≤ (L.blobStreamLogicInReceive logic blobStreamIn s).1 →
      holdsChunk (L.blobStreamLogicInReceive logic blobStreamIn s).2.2 s
  chunk_held : ∀ logic blobStreamIn s, holdsChunk blobStreamIn s →
    (L.blobStreamLogicInReceive logic blobStreamIn s).2.2 = blobStreamIn
  chunk_refused : ∀ logic blobStreamIn s,
    (L.blobStreamLogicInReceive logic blobStreamIn s).1 < 0 →
      (L.blobStreamLogicInReceive (L.blobStreamLogicInReceive logic blobStreamIn s).2.1
        (L.blobStreamLogicInReceive logic blobStreamIn s).2.2 s).1 < 0
  /-- Each step of the stream is pending or has been copied. -/
  knowsSteps : L.NbsPendingSteps → FldInStream → Prop
  steps_taken : ∀ s pending, 0 ≤ (L.nbsPendingStepsInSerialize s pending).1 →
    knowsSteps (L.nbsPendingStepsInSerialize s pending).2 s
  steps_known : ∀ s pending, knowsSteps pending s →
    (L.nbsPendingStepsInSerialize s pending).2 = pending
  steps_refused : ∀ s pending, (L.nbsPendingStepsInSerialize s pending).1 < 0 →
    L.nbsPendingStepsInSerialize s (L.nbsPendingStepsInSerialize s pending).2 =
      L.nbsPendingStepsInSerialize s pending
  steps_copied : ∀ s steps pending, knowsSteps pending s →
    knowsSteps (L.nbsPendingStepsCopy steps pending).2.2 s
  copy : ∀ steps pending,
    (L.nbsPendingStepsCopy (L.nbsPendingStepsCopy steps pending).2.1
        (L.nbsPendingStepsCopy steps pending).2.2).2 = (L.nbsPendingStepsCopy steps pending).2
  discard : ∀ steps id,
    L.nbsStepsDiscardUpTo (L.nbsStepsDiscardUpTo steps id) id = L.nbsStepsDiscardUpTo steps id

/-! ## Answers -/

/-- What the answers of the server are for: the protocol state, and the game states that were
allocated. -/
structure AnsweredState (L : Libraries) where
  protocolState : ProtocolState L
  blobStreamAllocator : ImprintAllocatorWithFree

def NimbleClient.answeredState (self : NimbleClient L) : AnsweredState L :=
  ⟨self.protocolState, self.blobStreamAllocator⟩

/-- What the handlers go by. -/
structure HandlerFields (L : Libraries) where
  answeredState : AnsweredState L
  blobStreamInLogic : L.BlobStreamLogicIn
  blobStreamIn : L.BlobStreamIn
  downloadStateClientRequestId : UInt8

def NimbleClient.handlerFields (self : NimbleClient L) : HandlerFields L :=
  ⟨self.answeredState, self.blobStreamInLogic, self.blobStreamIn,
    self.downloadStateClientRequestId⟩

theorem headerKeeps_handlerFields : HeaderKeeps (@NimbleClient.handlerFields L) :=
  headerKeeps_of fun _ _ _ _ _ _ => rfl

/-- The client that a receive loop feeds next. -/
theorem handlerFields_next (self : NimbleClient L) :
    self.receivedUsableDatagram.countPacketIn.handlerFields = self.handlerFields := rfl

theorem protocolState_of_handlerFields {self other : NimbleClient L}
    (h : self.handlerFields = other.handlerFields) : self.protocolState = other.protocolState :=
  congrArg (fun fields : HandlerFields L => fields.answeredState.protocolState) h

/-- What `blobStreamLogicInReceive` makes of the chunk of a part. -/
def receiveChunk (self : NimbleClient L) (inStream : FldInStream) :
    Int × L.BlobStreamLogicIn × L.BlobStreamIn :=
  L.blobStreamLogicInReceive self.blobStreamInLogic self.blobStreamIn
    (L.nimbleSerializeInBlobStreamChannelId inStream).stream

/-! ## Handlers -/

section

variable {self again : NimbleClient L} {inStream : FldInStream} {locals : FeedLocals L}

/-- A connected client passes over a connect response. -/
theorem repeated_connectResponse
    (h : again.handlerFields =
      (nimbleClientOnConnectResponse self inStream locals).2.handlerFields) :
    (nimbleClientOnConnectResponse again inStream locals).2 = again := by
  have hstate := congrArg ProtocolState.state (protocolState_of_handlerFields h)
  rw [nimbleClientOnConnectResponse_snd] at hstate ⊢
  apply if_neg
  rintro ⟨hcode, hagain⟩
  by_cases hself : self.state = .requestingConnect
  · rw [if_pos ⟨hcode, hself⟩] at hstate
    exact absurd (hagain.symm.trans hstate) nofun
  · rw [if_neg fun hconnects => hself hconnects.2] at hstate
    exact hself (hstate.symm.trans hagain)

/-- A client that has joined passes over a join response. -/
theorem repeated_joinGameResponse
    (h : again.handlerFields =
      (nimbleClientOnJoinGameResponse self inStream locals).2.handlerFields) :
    (nimbleClientOnJoinGameResponse again inStream locals).2 = again := by
  have hphase := congrArg ProtocolState.joinParticipantPhase (protocolState_of_handlerFields h)
  rw [nimbleClientOnJoinGameResponse_snd] at hphase ⊢
  apply if_neg
  rintro ⟨hcode, hagain⟩
  by_cases hself : self.joinParticipantPhase = .joiningParticipant
  · rw [if_pos ⟨hcode, hself⟩] at hphase
    exact absurd (hagain.symm.trans hphase) nofun
  · rw [if_neg fun hjoins => hself hjoins.2] at hphase
    exact hself (hphase.symm.trans hagain)

/-- A client passes over a game state response on the channel that it has set. -/
theorem repeated_gameStateResponse
    (h : again.handlerFields =
      (nimbleClientOnDownloadGameStateResponse self inStream locals).2.handlerFields) :
    (nimbleClientOnDownloadGameStateResponse again inStream locals).2 = again := by
  have hchannel := congrArg ProtocolState.joinStateChannel (protocolState_of_handlerFields h)
  have hrequest := congrArg HandlerFields.downloadStateClientRequestId h
  rw [nimbleClientOnDownloadGameStateResponse_eq] at hchannel hrequest ⊢
  apply if_neg
  intro hagain
  by_cases hself : self.AcceptsGameState (gameStateFields inStream locals)
  · rw [if_pos hself] at hchannel
    exact hagain.2.2 hchannel.symm
  · rw [if_neg hself] at hchannel hrequest
    exact hself ⟨hagain.1, hagain.2.1.trans hrequest,
      fun heq => hagain.2.2 (heq.trans hchannel.symm)⟩

theorem repeated_outOfParticipantSlots
    (h : again.handlerFields =
      (nimbleClientOnJoinGameParticipantOutOfSpaceResponse self inStream).2.handlerFields) :
    (nimbleClientOnJoinGameParticipantOutOfSpaceResponse again inStream).2 = again := by
  have hphase := congrArg ProtocolState.joinParticipantPhase (protocolState_of_handlerFields h)
  rw [nimbleClientOnJoinGameParticipantOutOfSpaceResponse_snd] at hphase ⊢
  split
  · rw [if_pos ‹_›] at hphase
    have hout : again.joinParticipantPhase = .outOfParticipantSlots := hphase
    rw [← hout]
  · rfl

variable (laws : RepeatLaws L)

include laws

/-- A client that completes a blob a second time has adopted it. -/
theorem synced_of_completesBlob (hchannel : partChannelId inStream locals = self.joinStateChannel)
    (h : again.handlerFields =
      (nimbleClientOnDownloadGameStatePart self inStream locals).2.handlerFields)
    (hcompletes : again.CompletesBlob inStream) : again.state = .synced := by
  have hstate := congrArg ProtocolState.state (protocolState_of_handlerFields h)
  have hblob := congrArg HandlerFields.blobStreamIn h
  have hlogic := congrArg HandlerFields.blobStreamInLogic h
  rw [nimbleClientOnDownloadGameStatePart_snd, if_neg (not_not.mpr hchannel)]
    at hstate hblob hlogic
  by_cases hself : self.CompletesBlob inStream
  · rw [if_pos hself] at hstate
    by_cases hsynced : (self.takePart inStream).2.state = .synced
    · rw [trySetInitialGameState_of_synced hsynced] at hstate
      exact hstate.trans hsynced
    · rw [trySetInitialGameState_of_ne hsynced] at hstate
      exact hstate
  · -- the blob is as the first handling left it, and was not complete then
    rw [if_neg hself] at hblob hlogic
    obtain ⟨hcode, hcomplete⟩ : 0 ≤ (receiveChunk again inStream).1 ∧
      L.blobStreamInIsComplete (receiveChunk again inStream).2.2 = true := hcompletes
    have hagain : receiveChunk again inStream =
        L.blobStreamLogicInReceive (receiveChunk self inStream).2.1 (receiveChunk self inStream).2.2
          (L.nimbleSerializeInBlobStreamChannelId inStream).stream := by
      rw [receiveChunk, show again.blobStreamInLogic = _ from hlogic,
        show again.blobStreamIn = _ from hblob]
      rfl
    rw [hagain] at hcode hcomplete
    by_cases hreceived : 0 ≤ (receiveChunk self inStream).1
    · have hsame := laws.chunk_held (receiveChunk self inStream).2.1 _ _
        (laws.chunk_received _ _ _ hreceived)
      exact (hself ⟨hreceived,
        (congrArg L.blobStreamInIsComplete hsame).symm.trans hcomplete⟩).elim
    · have hrefused := laws.chunk_refused _ _ _ (Int.not_le.mp hreceived)
      exact absurd hrefused (Int.not_lt.mpr hcode)

theorem repeated_serverOutBlobStream
    (h : again.handlerFields =
      (nimbleClientOnDownloadGameStatePart self inStream locals).2.handlerFields) :
    (nimbleClientOnDownloadGameStatePart again inStream locals).2.answeredState =
      again.answeredState := by
  rw [nimbleClientOnDownloadGameStatePart_snd again]
  split
  · rfl
  split
  · rename_i hagain hcompletes
    have hchannel := congrArg ProtocolState.joinStateChannel (protocolState_of_handlerFields h)
    have hself : partChannelId inStream locals = self.joinStateChannel := by
      by_contra hne
      rw [nimbleClientOnDownloadGameStatePart_of_ne hne] at hchannel
      exact hne ((not_not.mp hagain).trans hchannel)
    have hsynced := synced_of_completesBlob laws hself h hcompletes
    have htaken : (again.takePart inStream).2.state = .synced := hsynced
    rw [trySetInitialGameState_of_synced htaken]
    rfl
  · rfl

/-- The steps of a response that comes again are refused again, or known and copied already. -/
theorem authoritativeBuffersAfter_again
    (hsteps : again.authoritativeStepsFromServer =
      (authoritativeBuffersAfter self inStream locals).1)
    (hpending : again.authoritativePendingStepsFromServer =
      (authoritativeBuffersAfter self inStream locals).2) :
    authoritativeBuffersAfter again inStream locals =
      (again.authoritativeStepsFromServer, again.authoritativePendingStepsFromServer) := by
  have hagain : serializeSteps again inStream locals =
      L.nbsPendingStepsInSerialize (readGameStepHeader self inStream locals).2.2
        again.authoritativePendingStepsFromServer := rfl
  by_cases hcode : (serializeSteps self inStream locals).1 < 0
  · rw [authoritativeBuffersAfter, if_pos hcode] at hsteps hpending
    have hrefused : serializeSteps again inStream locals =
        serializeSteps self inStream locals := by
      rw [hagain, hpending]
      exact laws.steps_refused _ _ hcode
    rw [authoritativeBuffersAfter, hrefused, if_pos hcode, hpending]
  · rw [authoritativeBuffersAfter, if_neg hcode] at hsteps hpending
    have hknows := laws.steps_copied _ self.authoritativeStepsFromServer _
      (laws.steps_taken _ _ (Int.not_lt.mp hcode))
    have hknown : (serializeSteps again inStream locals).2 =
        again.authoritativePendingStepsFromServer := by
      rw [hagain]
      apply laws.steps_known
      rw [hpending]
      exact hknows
    rw [authoritativeBuffersAfter, hknown]
    split
    · rfl
    · rw [hsteps, hpending]
      exact laws.copy _ _

theorem repeated_gameStepResponse
    (h : again.handlerFields =
      (nimbleClientOnGameStepResponse self inStream locals).2.handlerFields) :
    (nimbleClientOnGameStepResponse again inStream locals).2.answeredState =
      again.answeredState := by
  have hfirst := protocolState_of_handlerFields h
  rw [protocolState_nimbleClientOnGameStepResponse] at hfirst
  have hout : again.outSteps = L.nbsStepsDiscardUpTo self.outSteps
      (acknowledgedStepId self inStream locals + 1) := congrArg ProtocolState.outSteps hfirst
  have hdiscard : L.nbsStepsDiscardUpTo again.outSteps
      (acknowledgedStepId again inStream locals + 1) = again.outSteps := by
    rw [hout]
    exact laws.discard _ _
  have hbuffers := authoritativeBuffersAfter_again laws
    (congrArg ProtocolState.authoritativeStepsFromServer hfirst)
    (congrArg ProtocolState.authoritativePendingStepsFromServer hfirst)
  have hallocator : (nimbleClientOnGameStepResponse again inStream locals).2.blobStreamAllocator =
      again.blobStreamAllocator := by
    rw [nimbleClientOnGameStepResponse_eq]
    split <;> rfl
  rw [NimbleClient.answeredState, hallocator, protocolState_nimbleClientOnGameStepResponse,
    hdiscard, hbuffers]
  rfl

end

/-! ## Messages -/

/-- The same message on its way to its handler in another client. -/
def Dispatch.sentTo (x : Dispatch L) (again : NimbleClient L) : Dispatch L :=
  { x with client := again }

/-- A handler leaves a client in which the same message has no effect. -/
theorem Dispatch.answeredState_sentTo (laws : RepeatLaws L) {x : Dispatch L}
    {again : NimbleClient L} (h : again.handlerFields = x.outcome.2.handlerFields) :
    (x.sentTo again).outcome.2.answeredState = again.answeredState := by
  have hcommand : (x.sentTo again).command = x.command := rfl
  rcases x.command_cases with hx | hx | hx | hx | hx | hx | hx
  · rw [outcome_connectResponse hx] at h
    rw [outcome_connectResponse (hcommand.trans hx)]
    exact congrArg NimbleClient.answeredState (repeated_connectResponse h)
  · rw [outcome_serverOutBlobStream hx] at h
    rw [outcome_serverOutBlobStream (hcommand.trans hx)]
    exact repeated_serverOutBlobStream laws h
  · rw [outcome_gameStepResponse hx] at h
    rw [outcome_gameStepResponse (hcommand.trans hx)]
    exact repeated_gameStepResponse laws h
  · rw [outcome_joinGameResponse hx] at h
    rw [outcome_joinGameResponse (hcommand.trans hx)]
    exact congrArg NimbleClient.answeredState (repeated_joinGameResponse h)
  · rw [outcome_gameStateResponse hx] at h
    rw [outcome_gameStateResponse (hcommand.trans hx)]
    exact congrArg NimbleClient.answeredState (repeated_gameStateResponse h)
  · rw [outcome_joinGameOutOfParticipantSlotsResponse hx] at h
    rw [outcome_joinGameOutOfParticipantSlotsResponse (hcommand.trans hx)]
    exact congrArg NimbleClient.answeredState (repeated_outOfParticipantSlots h)
  · rcases (x.sentTo again).command_cases with hc | hc | hc | hc | hc | hc | hc
    · cases hx.1 _ hc
    · cases hx.1 _ hc
    · cases hx.1 _ hc
    · cases hx.1 _ hc
    · cases hx.1 _ hc
    · cases hx.1 _ hc
    · rw [hc.2]
      rfl

/-- The handler of a message that brings all its fields gets by with them. -/
theorem Dispatch.fieldsArrive_of_complete {reads : ReadLaws L} {x : Dispatch L}
    (h : ¬x.EndsEarly reads) : x.FieldsArrive reads := by
  unfold EndsEarly at h
  unfold FieldsArrive
  split
  · simp only [*, not_or, not_not] at h
    exact ⟨h.1, Or.inr h.2⟩
  · simp only [*, not_or, not_not] at h
    exact h.1
  · simp only [*, not_not] at h
    rintro ⟨_, hstate⟩
    unfold FldInStream.Holds at h hstate
    omega
  · trivial

/-- One of the six commands, with all its fields, and with room for the participants of a join
response. -/
structure Dispatch.IsWellFormed (reads : ReadLaws L) (x : Dispatch L) : Prop where
  handled : ∃ cmd, x.command = some cmd ∧ cmd.isHandled = true
  complete : ¬x.EndsEarly reads
  room : x.command = some .joinGameResponse →
    (joinFields x.inStream x.locals).2.participantCount ≤ nimbleClientMaxLocalUsersCount

/-- The two messages have the same command octet and the same octets behind it. -/
structure SamePayload (x y : Dispatch L) : Prop where
  cmd : y.cmd = x.cmd
  ahead : SameAhead x.inStream y.inStream

/-- A message is handled by its octets. -/
theorem SamePayload.answeredState_outcome (streams : InStreamLaws L) {reads : ReadLaws L}
    {x y : Dispatch L} (h : SamePayload x y) (hcomplete : ¬x.EndsEarly reads) :
    y.outcome.2.answeredState = (x.sentTo y.client).outcome.2.answeredState := by
  have hbehind : SameAhead (@behindDelta L x.inStream) (@behindDelta L y.inStream) :=
    (streams.int8.readsAhead _ _ (streams.uint8.readsAhead _ _ h.ahead).2.2).2.2
  have hclients := (same_dispatchCommand streams (.refl y.client) x.cmd (fun _ => h.ahead) hbehind
    y.locals).2
  have hlocals := ((x.sentTo y.client).octetsDecide_iff reads).mpr
    (Dispatch.fieldsArrive_of_complete (x := x.sentTo y.client) hcomplete)
  rw [← hlocals.agree y.locals, Dispatch.outcome, h.cmd]
  exact hclients.congr NimbleClient.answeredState fun _ _ => rfl

/-- A well-formed answer that is handled again at once, in a client that differs from the one
behind the first handling in nothing the handlers go by, changes nothing more. -/
theorem repeated_answer (streams : InStreamLaws L) (reads : ReadLaws L) (laws : RepeatLaws L)
    {client again : NimbleClient L} {first second : Datagram L} {x y : Dispatch L}
    (hfirst : dispatch? client first = some x) (hwellFormed : x.IsWellFormed reads)
    (hagain : again.handlerFields = (nimbleClientFeed client first).2.handlerFields)
    (hsecond : dispatch? again second = some y) (hpayload : SamePayload x y) :
    (nimbleClientFeed again second).2.answeredState =
      (nimbleClientFeed client first).2.answeredState := by
  have hclient : y.client.handlerFields = x.outcome.2.handlerFields := by
    rw [headerKeeps_handlerFields.of_dispatch hsecond, hagain, nimbleClientFeed_of_dispatch hfirst]
  have hsame : y.client.answeredState = x.outcome.2.answeredState :=
    congrArg HandlerFields.answeredState hclient
  rw [nimbleClientFeed_of_dispatch hsecond, nimbleClientFeed_of_dispatch hfirst,
    hpayload.answeredState_outcome streams hwellFormed.complete, ← hsame]
  exact Dispatch.answeredState_sentTo laws hclient

/-! ## A run on fixed inputs -/

namespace Small

/-- The client expects a step behind all of these, or in front of them. -/
def PendingSteps.Knows (p : PendingSteps) (id : StepId) (octets : List UInt8) : Prop :=
  id ≤ p.expectedId → octets.length ≤ p.expectedId.toNat - id.toNat

theorem PendingSteps.accept_of_knows {p : PendingSteps} {id : StepId} {octets : List UInt8}
    (h : p.Knows id octets) : p.accept id octets = p := by
  unfold accept
  dsimp only
  split
  · rw [List.drop_eq_nil_of_le (h ‹_›)]
    simp
  · rfl

/-- At most 255 steps come at once, so the ids do not go round. -/
theorem PendingSteps.knows_accept (p : PendingSteps) (id : StepId) {octets : List UInt8}
    (hlength : octets.length < 256) : (p.accept id octets).Knows id octets := by
  unfold accept
  dsimp only
  split
  · rename_i hle
    intro hle'
    rw [UInt32.le_iff_toNat_le] at hle hle'
    have hfresh : (octets.drop (p.expectedId.toNat - id.toNat)).length < 256 := by
      rw [List.length_drop]
      omega
    have hexpected := p.expectedId.toNat_lt
    simp only [UInt32.toNat_add, UInt32.toNat_ofNat', List.length_drop] at hle' hfresh ⊢
    omega
  · intro hle
    exact absurd hle ‹_›

theorem Steps.discardUpTo_discardUpTo (s : Steps) (id : StepId) :
    (s.discardUpTo id).discardUpTo id = s.discardUpTo id := by
  have hid := id.toNat_lt
  have hread := s.expectedReadId.toNat_lt
  unfold discardUpTo
  dsimp only
  have hnone : min (id.toNat - (s.expectedReadId +
      UInt32.ofNat (min (id.toNat - s.expectedReadId.toNat) s.steps.length)).toNat)
      (s.steps.drop (min (id.toNat - s.expectedReadId.toNat) s.steps.length)).length = 0 := by
    simp only [UInt32.toNat_add, UInt32.toNat_ofNat', List.length_drop]
    omega
  rw [hnone]
  simp

/-- The steps that a stream brings are known. -/
def PendingSteps.KnowsStream (p : PendingSteps) (s : FldInStream) : Prop :=
  ∀ id count rest, (readUInt32 s).value = some id →
    (readUInt32 s).stream.octets.drop (readUInt32 s).stream.pos = count :: rest →
      p.Knows id (rest.take count.toNat)

theorem PendingSteps.inSerialize_of_knowsStream {p : PendingSteps} {s : FldInStream}
    (h : p.KnowsStream s) : (inSerialize s p).2 = p := by
  unfold inSerialize
  dsimp only
  split
  · split
    · exact accept_of_knows (h _ _ _ ‹_› ‹_›)
    · rfl
  · rfl

theorem PendingSteps.knowsStream_inSerialize {p : PendingSteps} {s : FldInStream}
    (hcode : 0 ≤ (inSerialize s p).1) : (inSerialize s p).2.KnowsStream s := by
  intro id count rest hid hrest
  unfold inSerialize at hcode ⊢
  dsimp only at hcode ⊢
  rw [hid, hrest] at hcode ⊢
  dsimp only at hcode ⊢
  split at hcode
  · rw [if_pos ‹_›]
    apply knows_accept
    rw [List.length_take]
    have hcount := count.toNat_lt
    omega
  · exact absurd hcode (show ¬(0 : Int) ≤ -4 by decide)

theorem PendingSteps.inSerialize_of_refused {p : PendingSteps} {s : FldInStream}
    (hcode : (inSerialize s p).1 < 0) : (inSerialize s p).2 = p := by
  unfold inSerialize at hcode ⊢
  dsimp only at hcode ⊢
  split
  · rename_i hid hrest
    rw [hid, hrest] at hcode
    dsimp only at hcode
    split
    · rw [if_pos ‹_›] at hcode
      exact absurd hcode (Int.not_lt.mpr (Int.natCast_nonneg _))
    · rfl
  · rfl

theorem Blob.receive_of_refused {b : Blob} {s : FldInStream} (hcode : (Blob.receive b s).1 < 0) :
    (Blob.receive b s).2.2 = b := by
  unfold Blob.receive at hcode ⊢
  split
  · split
    · rfl
    · split
      · rfl
      · simp_all
  · rfl

/-- A chunk that is received is there the next time. -/
theorem Blob.receive_receive (b : Blob) (s : FldInStream) :
    (Blob.receive (Blob.receive b s).2.2 s).2.2 = (Blob.receive b s).2.2 := by
  cases hrest : s.octets.drop s.pos with
  | nil => simp [Blob.receive, hrest]
  | cons index rest =>
      cases rest with
      | nil => simp [Blob.receive, hrest]
      | cons octet rest =>
          by_cases hindex : b.chunkCount ≤ index.toNat
          · simp [Blob.receive, hrest, hindex]
          · by_cases hheld : (b.chunks.lookup index.toNat).isSome
            · simp [Blob.receive, hrest, hindex, hheld]
            · simp [Blob.receive, hrest, hindex, hheld]

def smallRepeatLaws : RepeatLaws smallLibraries where
  holdsChunk b s := (Blob.receive b s).2.2 = b
  chunk_received _ b s _ := Blob.receive_receive b s
  chunk_held _ _ _ h := h
  chunk_refused _ b s h := by
    have hsame := Blob.receive_of_refused h
    change (Blob.receive (Blob.receive b s).2.2 s).1 < 0
    rw [hsame]
    exact h
  knowsSteps := PendingSteps.KnowsStream
  steps_taken _ _ h := PendingSteps.knowsStream_inSerialize h
  steps_known _ _ h := PendingSteps.inSerialize_of_knowsStream h
  steps_refused s p h := by
    have hsame := PendingSteps.inSerialize_of_refused h
    change PendingSteps.inSerialize s (PendingSteps.inSerialize s p).2 = _
    rw [hsame]
  steps_copied _ _ _ h := h
  copy steps p := by
    change (PendingSteps.copy _ _).2 = (PendingSteps.copy _ _).2
    simp [PendingSteps.copy]
  discard := Steps.discardUpTo_discardUpTo

/-- The synced client behind a game step response, as the receive loop feeds it the next
datagram. -/
def answeredClient : NimbleClient smallLibraries :=
  (nimbleClientFeed syncedRealizer.client
    (stepResponse 4 0 10 [1, 2])).2.receivedUsableDatagram.countPacketIn

end Small

open Nimble.Small

/-- Two steps that the server sends twice arrive once. -/
theorem repeated_answer_steps :
    (nimbleClientFeed answeredClient (stepResponse 5 0 10 [1, 2])).2.answeredState =
      (nimbleClientFeed syncedRealizer.client (stepResponse 4 0 10 [1, 2])).2.answeredState :=
  repeated_answer smallInStreamLaws smallReadLaws smallRepeatLaws rfl
    ⟨⟨_, rfl, rfl⟩, by
      intro hearly
      rcases hearly with hheader | hsteps
      · exact hheader (by decide +kernel)
      · exact absurd (hsteps ⟨0, []⟩) (by decide +kernel), nofun⟩
    (handlerFields_next _) rfl ⟨rfl, ⟨rfl, rfl, rfl⟩, fun i hi => by
      obtain ⟨k, rfl⟩ := Nat.exists_eq_add_of_le' hi
      rfl⟩

end Nimble
