import Nimble.Verification.FailedFeeds

/-! # Messages that end early

For each command, when the octets of a message decide what its handler does. -/

namespace Nimble

variable {L : Libraries}

/-! ## The libraries as documented -/

/-- The stream has this many octets left. -/
def FldInStream.Holds (stream : FldInStream) (count : Nat) : Prop :=
  stream.pos + count ≤ stream.size

instance (stream : FldInStream) (count : Nat) : Decidable (stream.Holds count) :=
  inferInstanceAs (Decidable (_ ≤ _))

/-- The stream behind the next octets. -/
def FldInStream.skip (stream : FldInStream) (count : Nat) : FldInStream :=
  { stream with pos := stream.pos + count }

@[simp] theorem FldInStream.holds_skip (stream : FldInStream) (skipped count : Nat) :
    (stream.skip skipped).Holds count ↔ stream.Holds (skipped + count) := by
  simp [Holds, skip, size, Nat.add_assoc]

/-- A read of so many octets; past the end of the stream it fails and leaves its target and the
position untouched. -/
structure FixedWidth {α : Type} (read : FldInStream → ReadResult α) (width : Nat) : Prop where
  within : ∀ stream : FldInStream, stream.Holds width →
    0 ≤ (read stream).code ∧ (read stream).value.isSome = true ∧
      (read stream).stream = stream.skip width
  past : ∀ stream : FldInStream, ¬stream.Holds width →
    (read stream).code < 0 ∧ (read stream).value = none ∧ (read stream).stream = stream

/-- The reads as documented. What decodes a message in several reads fails on a stream that ends
before its last field. -/
structure ReadLaws (L : Libraries) where
  uint8Width : Nat
  int8Width : Nat
  uint16Width : Nat
  uint32Width : Nat
  stateIdWidth : Nat
  channelIdWidth : Nat
  nonceWidth : Nat
  uint8 : FixedWidth L.fldInStreamReadUInt8 uint8Width
  int8 : FixedWidth L.fldInStreamReadInt8 int8Width
  uint16 : FixedWidth L.fldInStreamReadUInt16 uint16Width
  uint32 : FixedWidth L.fldInStreamReadUInt32 uint32Width
  stateId : FixedWidth L.nimbleSerializeInStateId stateIdWidth
  channelId : FixedWidth L.nimbleSerializeInBlobStreamChannelId channelIdWidth
  nonce : FixedWidth L.nimbleSerializeInNonce nonceWidth
  uint8_le_uint32 : uint8Width ≤ uint32Width
  int8_le_uint32 : int8Width ≤ uint32Width
  uint8_le_stateId : uint8Width ≤ stateIdWidth
  uint8_le_channelId : uint8Width ≤ channelIdWidth
  connectResponseEndsEarly : FldInStream → Prop
  connectResponse : ∀ stream,
    (0 ≤ (L.nimbleSerializeClientInConnectResponse stream).code →
      (L.nimbleSerializeClientInConnectResponse stream).value.isSome = true) ∧
    (connectResponseEndsEarly stream →
      (L.nimbleSerializeClientInConnectResponse stream).code < 0)
  joinGameResponseEndsEarly : FldInStream → Prop
  joinGameResponse : ∀ stream,
    (0 ≤ (L.nimbleSerializeClientInJoinGameResponse stream).code →
      (L.nimbleSerializeClientInJoinGameResponse stream).value.isSome = true) ∧
    (joinGameResponseEndsEarly stream →
      (L.nimbleSerializeClientInJoinGameResponse stream).code < 0)
  stepsEndEarly : FldInStream → Prop
  steps : ∀ stream pending, stepsEndEarly stream →
    (L.nbsPendingStepsInSerialize stream pending).1 < 0 ∧
      -2 ^ 31 ≤ (L.nbsPendingStepsInSerialize stream pending).1
  chunkEndsEarly : FldInStream → Prop
  chunk : ∀ logic blobStreamIn stream, chunkEndsEarly stream →
    (L.blobStreamLogicInReceive logic blobStreamIn stream).1 < 0
  blobCommand : ∃ octet, L.nimbleSerializeCmd octet = some .serverOutBlobStream

section

variable {α : Type} {read : FldInStream → ReadResult α} {width : Nat}

/-- What a read of the stream delivers does not depend on its target, if it delivers anything. -/
theorem getD_of_isSome {value : Option α} (h : value.isSome = true) (a b : α) :
    value.getD a = value.getD b := by
  obtain ⟨_, rfl⟩ := Option.isSome_iff_exists.mp h
  rfl

theorem FixedWidth.getD_of_past (h : FixedWidth read width) {stream : FldInStream}
    (hpast : ¬stream.Holds width) (a : α) : (read stream).value.getD a = a := by
  rw [(h.past stream hpast).2.1]
  rfl

theorem FixedWidth.isSome_of_le_code (h : FixedWidth read width) {stream : FldInStream}
    (hcode : 0 ≤ (read stream).code) : (read stream).value.isSome = true := by
  by_cases hholds : stream.Holds width
  · exact (h.within stream hholds).2.1
  · exact absurd (h.past stream hholds).1 (Int.not_lt.mpr hcode)

/-- A read leaves the stream where it was, or behind what it read. -/
theorem FixedWidth.stream_cases (h : FixedWidth read width) (stream : FldInStream) :
    stream.Holds width ∧ (read stream).stream = stream.skip width ∨
      ¬stream.Holds width ∧ (read stream).stream = stream := by
  by_cases hholds : stream.Holds width
  · exact Or.inl ⟨hholds, (h.within stream hholds).2.2⟩
  · exact Or.inr ⟨hholds, (h.past stream hholds).2.2⟩

end

/-! ## Commands -/

/-- The same dispatch with other contents of the local variables. -/
def Dispatch.withLocals (x : Dispatch L) (locals : FeedLocals L) : Dispatch L :=
  { x with locals := locals }

section

variable (laws : ReadLaws L)

/-- A message ends before the last field of its command. -/
def Dispatch.EndsEarly (x : Dispatch L) : Prop :=
  match x.command with
  | some .connectResponse => laws.connectResponseEndsEarly x.inStream
  | some .serverOutBlobStream =>
    ¬x.inStream.Holds laws.channelIdWidth ∨
      laws.chunkEndsEarly (x.inStream.skip laws.channelIdWidth)
  | some .gameStepResponse =>
    ¬x.inStream.Holds (laws.uint8Width + laws.int8Width + laws.uint32Width) ∨
      laws.stepsEndEarly
        (x.inStream.skip (laws.uint8Width + laws.int8Width + laws.uint32Width))
  | some .joinGameResponse => laws.joinGameResponseEndsEarly x.inStream
  | some .gameStateResponse =>
    ¬x.inStream.Holds (laws.uint8Width + laws.stateIdWidth + laws.channelIdWidth)
  | some .joinGameOutOfParticipantSlotsResponse => ¬x.inStream.Holds laws.nonceWidth
  | _ => False

/-- The handler gets by without the fields that the message may lack. -/
def Dispatch.FieldsArrive (x : Dispatch L) : Prop :=
  match x.command with
  | some .serverOutBlobStream =>
    x.inStream.Holds laws.channelIdWidth ∧
      (partChannelId x.inStream x.locals = x.client.joinStateChannel ∨
        ¬laws.chunkEndsEarly (x.inStream.skip laws.channelIdWidth))
  | some .gameStepResponse =>
    x.inStream.Holds (laws.uint8Width + laws.int8Width + laws.uint32Width)
  | some .gameStateResponse =>
    ¬(x.inStream.Holds (laws.uint8Width + laws.channelIdWidth) ∧
      ¬x.inStream.Holds (laws.uint8Width + laws.stateIdWidth))
  | _ => True

/-- Only the octets decide what becomes of a message, and without its last field it fails. -/
structure Dispatch.OctetsDecide (x : Dispatch L) : Prop where
  agree : ∀ locals, (x.withLocals locals).outcome = x.outcome
  early : x.EndsEarly laws → ∀ locals, (x.withLocals locals).outcome.1 < 0

/-! ## Handlers -/

variable {laws}

theorem nimbleClientOnConnectResponse_congr (laws : ReadLaws L) (self : NimbleClient L)
    (inStream : FldInStream) (locals other : FeedLocals L) :
    nimbleClientOnConnectResponse self inStream other =
      nimbleClientOnConnectResponse self inStream locals := by
  unfold nimbleClientOnConnectResponse
  dsimp only
  by_cases hcode : (L.nimbleSerializeClientInConnectResponse inStream).code < 0
  · rw [if_pos hcode, if_pos hcode]
  · have hvalue := (laws.connectResponse inStream).1 (Int.not_lt.mp hcode)
    rw [getD_of_isSome hvalue other.connectResponse locals.connectResponse]

theorem octetsDecide_connectResponse {x : Dispatch L} (h : x.command = some .connectResponse) :
    x.OctetsDecide laws ↔ x.FieldsArrive laws := by
  have hlocals : ∀ locals, (x.withLocals locals).outcome =
      nimbleClientOnConnectResponse x.client x.inStream locals :=
    fun locals => @Dispatch.outcome_connectResponse _ (x.withLocals locals) h
  refine iff_of_true ⟨fun locals => ?_, fun hearly locals => ?_⟩ ?_
  · rw [hlocals, Dispatch.outcome_connectResponse h]
    exact nimbleClientOnConnectResponse_congr laws _ _ _ _
  · simp only [Dispatch.EndsEarly, h] at hearly
    have hcode := (laws.connectResponse x.inStream).2 hearly
    rw [hlocals]
    unfold nimbleClientOnConnectResponse
    dsimp only
    rw [if_pos hcode]
    exact hcode
  · simp only [Dispatch.FieldsArrive, h]

theorem nimbleClientOnJoinGameResponse_congr (laws : ReadLaws L) (self : NimbleClient L)
    (inStream : FldInStream) (locals other : FeedLocals L) :
    nimbleClientOnJoinGameResponse self inStream other =
      nimbleClientOnJoinGameResponse self inStream locals := by
  unfold nimbleClientOnJoinGameResponse
  dsimp only
  by_cases hcode : (L.nimbleSerializeClientInJoinGameResponse inStream).code < 0
  · rw [if_pos hcode, if_pos hcode]
  · have hvalue := (laws.joinGameResponse inStream).1 (Int.not_lt.mp hcode)
    rw [getD_of_isSome hvalue other.gameResponse locals.gameResponse]

theorem octetsDecide_joinGameResponse {x : Dispatch L}
    (h : x.command = some .joinGameResponse) : x.OctetsDecide laws ↔ x.FieldsArrive laws := by
  have hlocals : ∀ locals, (x.withLocals locals).outcome =
      nimbleClientOnJoinGameResponse x.client x.inStream locals :=
    fun locals => @Dispatch.outcome_joinGameResponse _ (x.withLocals locals) h
  refine iff_of_true ⟨fun locals => ?_, fun hearly locals => ?_⟩ ?_
  · rw [hlocals, Dispatch.outcome_joinGameResponse h]
    exact nimbleClientOnJoinGameResponse_congr laws _ _ _ _
  · simp only [Dispatch.EndsEarly, h] at hearly
    have hcode := (laws.joinGameResponse x.inStream).2 hearly
    rw [hlocals]
    unfold nimbleClientOnJoinGameResponse
    dsimp only
    rw [if_pos hcode]
    exact hcode
  · simp only [Dispatch.FieldsArrive, h]

theorem octetsDecide_outOfParticipantSlots {x : Dispatch L}
    (h : x.command = some .joinGameOutOfParticipantSlotsResponse) :
    x.OctetsDecide laws ↔ x.FieldsArrive laws := by
  have hlocals : ∀ locals, (x.withLocals locals).outcome =
      nimbleClientOnJoinGameParticipantOutOfSpaceResponse x.client x.inStream :=
    fun locals => @Dispatch.outcome_joinGameOutOfParticipantSlotsResponse _
      (x.withLocals locals) h
  refine iff_of_true ⟨fun locals => ?_, fun hearly locals => ?_⟩ ?_
  · rw [hlocals, Dispatch.outcome_joinGameOutOfParticipantSlotsResponse h]
  · simp only [Dispatch.EndsEarly, h] at hearly
    have hcode := (laws.nonce.past x.inStream hearly).1
    rw [hlocals]
    unfold nimbleClientOnJoinGameParticipantOutOfSpaceResponse
    dsimp only
    rw [if_pos hcode]
    exact hcode
  · simp only [Dispatch.FieldsArrive, h]

theorem nimbleClientOnDownloadGameStatePart_congr {self : NimbleClient L}
    {inStream : FldInStream} {locals other : FeedLocals L}
    (h : partChannelId inStream other = partChannelId inStream locals) :
    nimbleClientOnDownloadGameStatePart self inStream other =
      nimbleClientOnDownloadGameStatePart self inStream locals := by
  by_cases hchannel : partChannelId inStream locals = self.joinStateChannel
  · rw [nimbleClientOnDownloadGameStatePart_of_eq hchannel,
      nimbleClientOnDownloadGameStatePart_of_eq (h.trans hchannel)]
  · rw [nimbleClientOnDownloadGameStatePart_of_ne hchannel,
      nimbleClientOnDownloadGameStatePart_of_ne (h.trans_ne hchannel)]

/-- A part on another channel than the client's is passed over, complete or not. -/
theorem octetsDecide_serverOutBlobStream {x : Dispatch L}
    (h : x.command = some .serverOutBlobStream) : x.OctetsDecide laws ↔ x.FieldsArrive laws := by
  have hlocals : ∀ locals, (x.withLocals locals).outcome =
      nimbleClientOnDownloadGameStatePart x.client x.inStream locals :=
    fun locals => @Dispatch.outcome_serverOutBlobStream _ (x.withLocals locals) h
  have hearly : x.EndsEarly laws ↔ ¬x.inStream.Holds laws.channelIdWidth ∨
      laws.chunkEndsEarly (x.inStream.skip laws.channelIdWidth) := by
    simp only [Dispatch.EndsEarly, h]
  have harrive : x.FieldsArrive laws ↔ x.inStream.Holds laws.channelIdWidth ∧
      (partChannelId x.inStream x.locals = x.client.joinStateChannel ∨
        ¬laws.chunkEndsEarly (x.inStream.skip laws.channelIdWidth)) := by
    simp only [Dispatch.FieldsArrive, h]
  rw [harrive]
  constructor
  · intro hdecide
    have hholds : x.inStream.Holds laws.channelIdWidth := by
      by_contra hpast
      have hforeign := hdecide.early (hearly.mpr (Or.inl hpast))
        { x.locals with partChannelId := x.client.joinStateChannel + 1 }
      have hchannel := laws.channelId.getD_of_past hpast (x.client.joinStateChannel + 1)
      rw [hlocals, nimbleClientOnDownloadGameStatePart_of_ne] at hforeign
      · exact Int.lt_irrefl 0 hforeign
      · unfold partChannelId
        rw [hchannel]
        exact Nat.succ_ne_self _
    refine ⟨hholds, ?_⟩
    by_contra hforeign
    rw [not_or, not_not] at hforeign
    have hfails := hdecide.early (hearly.mpr (Or.inr hforeign.2)) x.locals
    rw [hlocals, nimbleClientOnDownloadGameStatePart_of_ne hforeign.1] at hfails
    exact Int.lt_irrefl 0 hfails
  · rintro ⟨hholds, hchunk⟩
    obtain ⟨_, hvalue, hstream⟩ := laws.channelId.within x.inStream hholds
    have hagree : ∀ locals, nimbleClientOnDownloadGameStatePart x.client x.inStream locals =
        nimbleClientOnDownloadGameStatePart x.client x.inStream x.locals :=
      fun _ => nimbleClientOnDownloadGameStatePart_congr (getD_of_isSome hvalue _ _)
    refine ⟨fun locals => ?_, fun hends locals => ?_⟩
    · rw [hlocals, Dispatch.outcome_serverOutBlobStream h, hagree]
    · have hcut := (hearly.mp hends).resolve_left (not_not.mpr hholds)
      have hsame := hchunk.resolve_right (not_not.mpr hcut)
      have hfails : (x.client.takePart x.inStream).1 < 0 := by
        unfold NimbleClient.takePart
        rw [hstream]
        exact laws.chunk _ _ _ hcut
      rw [hlocals, hagree, nimbleClientOnDownloadGameStatePart_of_eq hsame, if_pos hfails]
      exact hfails

/-! ### Game step responses -/

/-- With the octets of the three fields, the header of a game step response is read. -/
theorem readGameStepHeader_of_holds {inStream : FldInStream}
    (h : inStream.Holds (laws.uint8Width + laws.int8Width + laws.uint32Width))
    (self : NimbleClient L) (locals other : FeedLocals L) :
    readGameStepHeader self inStream other = readGameStepHeader self inStream locals ∧
      (readGameStepHeader self inStream locals).2.2 =
        inStream.skip (laws.uint8Width + laws.int8Width + laws.uint32Width) := by
  unfold FldInStream.Holds at h
  obtain ⟨_, hcount, hstream⟩ := laws.uint8.within inStream (by unfold FldInStream.Holds; omega)
  obtain ⟨_, hdelta, hstream'⟩ := laws.int8.within (L.fldInStreamReadUInt8 inStream).stream (by
    rw [hstream, FldInStream.holds_skip]
    unfold FldInStream.Holds
    omega)
  obtain ⟨_, hreceived, hstream''⟩ := laws.uint32.within (@behindDelta L inStream) (by
    unfold behindDelta
    rw [hstream', hstream, FldInStream.holds_skip, FldInStream.holds_skip]
    unfold FldInStream.Holds
    omega)
  unfold behindDelta at hreceived hstream''
  constructor
  · unfold readGameStepHeader
    dsimp only
    rw [getD_of_isSome hcount other.stepCountInIncomingBufferOnServer
        locals.stepCountInIncomingBufferOnServer,
      getD_of_isSome hdelta other.deltaAgainstServerAuthoritativeBuffer
        locals.deltaAgainstServerAuthoritativeBuffer,
      getD_of_isSome hreceived other.serverReceivedPredictedStepId
        locals.serverReceivedPredictedStepId]
  · refine hstream''.trans ?_
    rw [hstream', hstream]
    simp [FldInStream.skip, Nat.add_assoc]

/-- Without them, the acknowledged id is what its local variable held. -/
theorem acknowledgedStepId_of_not_holds {inStream : FldInStream}
    (h : ¬inStream.Holds (laws.uint8Width + laws.int8Width + laws.uint32Width))
    (self : NimbleClient L) (locals : FeedLocals L) :
    acknowledgedStepId self inStream locals = locals.serverReceivedPredictedStepId := by
  have hpast : ¬(@behindDelta L inStream).Holds laws.uint32Width := by
    have hcount := laws.uint8_le_uint32
    have hdelta := laws.int8_le_uint32
    unfold behindDelta
    rcases laws.uint8.stream_cases inStream with ⟨hread, hstream⟩ | ⟨hread, hstream⟩ <;>
      rcases laws.int8.stream_cases (L.fldInStreamReadUInt8 inStream).stream with
        ⟨hread', hstream'⟩ | ⟨hread', hstream'⟩ <;>
      rw [hstream', hstream] <;> rw [hstream] at hread' <;>
      simp only [FldInStream.Holds, FldInStream.skip, FldInStream.size] at * <;> omega
  exact laws.uint32.getD_of_past hpast _

theorem receivedStepIdByServerOnlyForDebug_nimbleClientOnGameStepResponse
    (self : NimbleClient L) (inStream : FldInStream) (locals : FeedLocals L) :
    (nimbleClientOnGameStepResponse self inStream locals).2.receivedStepIdByServerOnlyForDebug =
      acknowledgedStepId self inStream locals := by
  rw [nimbleClientOnGameStepResponse_eq]
  split <;> rfl

theorem octetsDecide_gameStepResponse {x : Dispatch L}
    (h : x.command = some .gameStepResponse) : x.OctetsDecide laws ↔ x.FieldsArrive laws := by
  have hlocals : ∀ locals, (x.withLocals locals).outcome =
      (intCast (nimbleClientOnGameStepResponse x.client x.inStream locals).1,
        (nimbleClientOnGameStepResponse x.client x.inStream locals).2) :=
    fun locals => @Dispatch.outcome_gameStepResponse _ (x.withLocals locals) h
  have harrive : x.FieldsArrive laws ↔
      x.inStream.Holds (laws.uint8Width + laws.int8Width + laws.uint32Width) := by
    simp only [Dispatch.FieldsArrive, h]
  rw [harrive]
  constructor
  · intro hdecide
    by_contra hpast
    -- the acknowledged id is the garbage, and the client keeps it
    have hgarbage : ∀ id, id = x.outcome.2.receivedStepIdByServerOnlyForDebug := by
      intro id
      rw [← hdecide.agree { x.locals with serverReceivedPredictedStepId := id }, hlocals,
        receivedStepIdByServerOnlyForDebug_nimbleClientOnGameStepResponse,
        acknowledgedStepId_of_not_holds hpast]
    exact absurd ((hgarbage 0).trans (hgarbage 1).symm) (by decide)
  · intro hholds
    have hagree : ∀ locals, nimbleClientOnGameStepResponse x.client x.inStream locals =
        nimbleClientOnGameStepResponse x.client x.inStream x.locals := by
      intro locals
      unfold nimbleClientOnGameStepResponse
      rw [(readGameStepHeader_of_holds hholds x.client x.locals locals).1]
    refine ⟨fun locals => ?_, fun hends locals => ?_⟩
    · rw [hlocals, Dispatch.outcome_gameStepResponse h, hagree]
    · simp only [Dispatch.EndsEarly, h, hholds, not_true_eq_false, false_or] at hends
      obtain ⟨hfails, hrange⟩ := laws.steps _ x.client.authoritativePendingStepsFromServer hends
      have hcode : (serializeSteps x.client x.inStream x.locals).1 = (L.nbsPendingStepsInSerialize
          (x.inStream.skip (laws.uint8Width + laws.int8Width + laws.uint32Width))
          x.client.authoritativePendingStepsFromServer).1 := by
        rw [serializeSteps]
        rw [(readGameStepHeader_of_holds hholds x.client x.locals x.locals).2]
      rw [← hcode] at hfails hrange
      rw [hlocals, hagree, nimbleClientOnGameStepResponse_eq, if_pos hfails]
      change intCast (serializeSteps x.client x.inStream x.locals).1 < 0
      rw [intCast]
      rw [Int.bmod_eq_of_le (by omega) (by omega)]
      exact hfails

/-! ### Game state responses -/

/-- The stream behind the state id of a game state response. -/
def behindStateId (inStream : FldInStream) : FldInStream :=
  (L.nimbleSerializeInStateId (L.fldInStreamReadUInt8 inStream).stream).stream

/-- The channel is read where its octets are, or too early when those of the state id are
missing. -/
theorem holds_behindStateId (laws : ReadLaws L) (inStream : FldInStream) :
    (@behindStateId L inStream).Holds laws.channelIdWidth ↔
      inStream.Holds (laws.uint8Width + laws.stateIdWidth + laws.channelIdWidth) ∨
        inStream.Holds (laws.uint8Width + laws.channelIdWidth) ∧
          ¬inStream.Holds (laws.uint8Width + laws.stateIdWidth) := by
  have hstate := laws.uint8_le_stateId
  have hchannel := laws.uint8_le_channelId
  rw [behindStateId]
  rcases laws.uint8.stream_cases inStream with ⟨hread, hstream⟩ | ⟨hread, hstream⟩ <;>
    rcases laws.stateId.stream_cases (L.fldInStreamReadUInt8 inStream).stream with
      ⟨hread', hstream'⟩ | ⟨hread', hstream'⟩ <;>
    rw [hstream', hstream] <;> rw [hstream] at hread' <;>
    simp only [FldInStream.Holds, FldInStream.skip, FldInStream.size] at * <;> omega

theorem nimbleClientOnDownloadGameStateResponse_of_code_lt {inStream : FldInStream}
    (h : (L.nimbleSerializeInBlobStreamChannelId (@behindStateId L inStream)).code < 0)
    (self : NimbleClient L) (locals : FeedLocals L) :
    nimbleClientOnDownloadGameStateResponse self inStream locals =
      ((L.nimbleSerializeInBlobStreamChannelId (@behindStateId L inStream)).code, self) :=
  if_pos h

theorem nimbleClientOnDownloadGameStateResponse_of_le_code {inStream : FldInStream}
    (h : 0 ≤ (L.nimbleSerializeInBlobStreamChannelId (@behindStateId L inStream)).code)
    (self : NimbleClient L) (locals : FeedLocals L) :
    (nimbleClientOnDownloadGameStateResponse self inStream locals).1 = 0 := by
  unfold behindStateId at h
  rw [nimbleClientOnDownloadGameStateResponse]
  dsimp only
  rw [if_neg (Int.not_lt.mpr h)]
  split
  · rfl
  · split <;> rfl

/-- With the octets of the three fields, a game state response is read. -/
theorem gameStateFields_of_holds {inStream : FldInStream}
    (h : inStream.Holds (laws.uint8Width + laws.stateIdWidth + laws.channelIdWidth))
    (locals other : FeedLocals L) :
    gameStateFields inStream other = gameStateFields inStream locals := by
  have hchannelHolds := (holds_behindStateId laws inStream).mpr (Or.inl h)
  unfold FldInStream.Holds at h
  obtain ⟨_, hrequest, hstream⟩ := laws.uint8.within inStream (by
    rw [FldInStream.Holds]
    omega)
  obtain ⟨_, hstate, _⟩ := laws.stateId.within (L.fldInStreamReadUInt8 inStream).stream (by
    rw [hstream, FldInStream.holds_skip]
    rw [FldInStream.Holds]
    omega)
  obtain ⟨_, hchannel, _⟩ := laws.channelId.within _ hchannelHolds
  unfold behindStateId at hchannel
  unfold gameStateFields
  dsimp only
  rw [getD_of_isSome hrequest other.clientRequestId locals.clientRequestId,
    getD_of_isSome hstate other.stateId locals.stateId,
    getD_of_isSome hchannel other.channelId locals.channelId]

theorem octetsDecide_gameStateResponse {x : Dispatch L}
    (h : x.command = some .gameStateResponse) : x.OctetsDecide laws ↔ x.FieldsArrive laws := by
  have hlocals : ∀ locals, (x.withLocals locals).outcome =
      nimbleClientOnDownloadGameStateResponse x.client x.inStream locals :=
    fun locals => @Dispatch.outcome_gameStateResponse _ (x.withLocals locals) h
  have hearly : x.EndsEarly laws ↔
      ¬x.inStream.Holds (laws.uint8Width + laws.stateIdWidth + laws.channelIdWidth) := by
    simp only [Dispatch.EndsEarly, h]
  have harrive : x.FieldsArrive laws ↔
      ¬(x.inStream.Holds (laws.uint8Width + laws.channelIdWidth) ∧
        ¬x.inStream.Holds (laws.uint8Width + laws.stateIdWidth)) := by
    simp only [Dispatch.FieldsArrive, h]
  rw [harrive]
  by_cases hread : (@behindStateId L x.inStream).Holds laws.channelIdWidth
  · have hcode := (laws.channelId.within _ hread).1
    have hzero := nimbleClientOnDownloadGameStateResponse_of_le_code hcode x.client
    by_cases hfull : x.inStream.Holds
        (laws.uint8Width + laws.stateIdWidth + laws.channelIdWidth)
    · refine iff_of_true ⟨fun locals => ?_, fun hends => absurd hfull (hearly.mp hends)⟩ ?_
      · rw [hlocals, Dispatch.outcome_gameStateResponse h]
        refine Prod.ext ((hzero _).trans (hzero _).symm) ?_
        rw [nimbleClientOnDownloadGameStateResponse_eq,
          nimbleClientOnDownloadGameStateResponse_eq,
          gameStateFields_of_holds hfull x.locals locals]
      · rintro ⟨_, hstate⟩
        unfold FldInStream.Holds at hfull hstate
        omega
    · -- the channel is read from octets that belong in front of it
      have hshort := ((holds_behindStateId laws x.inStream).mp hread).resolve_left hfull
      refine iff_of_false (fun hdecide => ?_) (not_not.mpr hshort)
      have hfails := hdecide.early (hearly.mpr hfull) x.locals
      rw [hlocals, hzero] at hfails
      exact Int.lt_irrefl 0 hfails
  · have hcode := (laws.channelId.past _ hread).1
    have heq := nimbleClientOnDownloadGameStateResponse_of_code_lt hcode x.client
    refine iff_of_true ⟨fun locals => ?_, fun _ locals => ?_⟩ fun hshort => ?_
    · rw [hlocals, Dispatch.outcome_gameStateResponse h, heq, heq]
    · rw [hlocals, heq]
      exact hcode
    · exact hread ((holds_behindStateId laws x.inStream).mpr (Or.inr hshort))

end

end Nimble
