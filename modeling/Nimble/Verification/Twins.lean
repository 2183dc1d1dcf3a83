import Nimble.Model.SmallLibraries
import Nimble.Verification.Feed

/-! # Datagrams that differ in clock readings

Twins are datagrams that agree but for the octets of the pong time and, in a game step response,
of the server's buffer count and buffer delta. Everything else is read alike from both. -/

namespace Nimble

variable {L : Libraries}

/-! ## Reading two streams in step -/

/-- Streams at the same position of as many octets. -/
structure Level (s t : FldInStream) : Prop where
  pos : t.pos = s.pos
  size : t.size = s.size
  readDebugInfo : t.readDebugInfo = s.readDebugInfo

/-- Level streams with the same octets left. -/
structure SameAhead (s t : FldInStream) : Prop extends Level s t where
  octets : ∀ i, s.pos ≤ i → t.octets[i]? = s.octets[i]?

theorem SameAhead.drop_eq {s t : FldInStream} (h : SameAhead s t) :
    t.octets.drop t.pos = s.octets.drop s.pos := by
  ext1 i
  rw [List.getElem?_drop, List.getElem?_drop, h.pos]
  exact h.octets _ (Nat.le_add_right _ _)

theorem SameAhead.move {s t : FldInStream} (h : SameAhead s t) (count : Nat) :
    SameAhead { s with pos := s.pos + count } { t with pos := t.pos + count } :=
  ⟨⟨congrArg (· + count) h.pos, h.size, h.readDebugInfo⟩,
    fun i hi => h.octets i ((Nat.le_add_right _ _).trans hi)⟩

/-- A read from front to back: its course is decided by the octets it moves past, those of the
value excepted, and by where the stream ends. -/
structure SequentialRead {α : Type} (read : FldInStream → ReadResult α)
    (valueAt : FldInStream → Nat → Prop) : Prop where
  octets : ∀ s, (read s).stream.octets = s.octets
  readDebugInfo : ∀ s, (read s).stream.readDebugInfo = s.readDebugInfo
  pos_le : ∀ s, s.pos ≤ (read s).stream.pos
  value_within : ∀ s i, valueAt s i → s.pos ≤ i ∧ i < (read s).stream.pos
  course : ∀ s t, Level s t →
    (∀ i, s.pos ≤ i → i < (read s).stream.pos → ¬valueAt s i → t.octets[i]? = s.octets[i]?) →
    (read t).code = (read s).code ∧ (read t).stream.pos = (read s).stream.pos
  value : ∀ s t, Level s t →
    (∀ i, s.pos ≤ i → i < (read s).stream.pos → t.octets[i]? = s.octets[i]?) →
    (read t).value = (read s).value

/-- A read that depends on what is left of the stream alone. -/
def ReadsAhead {α : Type} (read : FldInStream → ReadResult α) : Prop :=
  ∀ s t, SameAhead s t → (read t).code = (read s).code ∧ (read t).value = (read s).value ∧
    SameAhead (read s).stream (read t).stream

section

variable {α : Type} {read : FldInStream → ReadResult α} {valueAt : FldInStream → Nat → Prop}
  {s t : FldInStream}

theorem SequentialRead.level (hread : SequentialRead read valueAt) (h : Level s t)
    (hsame : ∀ i, s.pos ≤ i → i < (read s).stream.pos → ¬valueAt s i →
      t.octets[i]? = s.octets[i]?) : Level (read s).stream (read t).stream where
  pos := (hread.course s t h hsame).2
  size := by
    unfold FldInStream.size
    rw [hread.octets, hread.octets]
    exact h.size
  readDebugInfo := by
    rw [hread.readDebugInfo, hread.readDebugInfo, h.readDebugInfo]

theorem SequentialRead.readsAhead (hread : SequentialRead read valueAt) : ReadsAhead read := by
  intro s t h
  have hsame : ∀ i, s.pos ≤ i → i < (read s).stream.pos → t.octets[i]? = s.octets[i]? :=
    fun i hi _ => h.octets i hi
  have hbut : ∀ i, s.pos ≤ i → i < (read s).stream.pos → ¬valueAt s i →
      t.octets[i]? = s.octets[i]? := fun i hi hlt _ => hsame i hi hlt
  refine ⟨(hread.course s t h.toLevel hbut).1, hread.value s t h.toLevel hsame,
    ⟨hread.level h.toLevel hbut, fun i hi => ?_⟩⟩
  rw [hread.octets, hread.octets]
  exact h.octets i ((hread.pos_le s).trans hi)

end

/-! ## The libraries as documented -/

/-- `fldInStreamCheckMarker` as a read without a value. -/
def readMarker (inStream : FldInStream) : ReadResult Unit :=
  ⟨0, none, L.fldInStreamCheckMarker inStream 0xdd⟩

/-- The return code of the ordered-datagram library as that of a read of the logic. -/
def readOrderedId (inLogic : L.OrderedDatagramInLogic) (inStream : FldInStream) :
    ReadResult L.OrderedDatagramInLogic :=
  let (code, logic, stream) := L.orderedDatagramInLogicReceive inLogic inStream
  ⟨code, some logic, stream⟩

/-- The libraries read a datagram from front to back. `uint8At`, `int8At` and `uint16At` are
where a read finds the octets of its value. -/
structure InStreamLaws (L : Libraries) where
  uint8At : FldInStream → Nat → Prop
  int8At : FldInStream → Nat → Prop
  uint16At : FldInStream → Nat → Prop
  uint8 : SequentialRead L.fldInStreamReadUInt8 uint8At
  int8 : SequentialRead L.fldInStreamReadInt8 int8At
  uint16 : SequentialRead L.fldInStreamReadUInt16 uint16At
  marker : SequentialRead (@readMarker L) fun _ _ => False
  orderedId : ∀ inLogic, SequentialRead (@readOrderedId L inLogic) fun _ _ => False
  /-- What is read as the id does not depend on the ids before it. -/
  orderedIdStream : ∀ inLogic other inStream,
    (L.orderedDatagramInLogicReceive other inStream).2.2 =
      (L.orderedDatagramInLogicReceive inLogic inStream).2.2
  uint32 : ReadsAhead L.fldInStreamReadUInt32
  stateId : ReadsAhead L.nimbleSerializeInStateId
  channelId : ReadsAhead L.nimbleSerializeInBlobStreamChannelId
  nonce : ReadsAhead L.nimbleSerializeInNonce
  connectResponse : ReadsAhead L.nimbleSerializeClientInConnectResponse
  joinGameResponse : ReadsAhead L.nimbleSerializeClientInJoinGameResponse
  steps : ∀ s t pending, SameAhead s t →
    L.nbsPendingStepsInSerialize t pending = L.nbsPendingStepsInSerialize s pending
  chunk : ∀ logic blobStreamIn s t, SameAhead s t →
    L.blobStreamLogicInReceive logic blobStreamIn t =
      L.blobStreamLogicInReceive logic blobStreamIn s

/-! ## Twins -/

/-- The stream behind the ordered id. -/
def Datagram.behindId (datagram : Datagram L) : FldInStream :=
  (L.orderedDatagramInLogicReceive L.orderedDatagramInLogicInit datagram.inStream).2.2

/-- The stream at the pong time. -/
def Datagram.atTime (datagram : Datagram L) : FldInStream :=
  L.fldInStreamCheckMarker datagram.behindId 0xdd

/-- The stream behind the pong time. -/
def Datagram.behindTime (datagram : Datagram L) : FldInStream :=
  (L.fldInStreamReadUInt16 datagram.atTime).stream

/-- The command, as the client reads it. -/
def Datagram.command (datagram : Datagram L) : Option NimbleSerializeCmd :=
  L.nimbleSerializeCmd (readCommand datagram.behindTime datagram.locals).1

/-- The stream behind the command. -/
def Datagram.behindCommand (datagram : Datagram L) : FldInStream :=
  (readCommand datagram.behindTime datagram.locals).2

/-- The stream behind the octet that is the buffer count in a game step response. -/
def Datagram.behindCount (datagram : Datagram L) : FldInStream :=
  (L.fldInStreamReadUInt8 datagram.behindCommand).stream

section

variable (laws : InStreamLaws L)

/-- The octets of the pong time, and those of the buffer count and the buffer delta. -/
def InStreamLaws.ClockOctet (datagram : Datagram L) (i : Nat) : Prop :=
  laws.uint16At datagram.atTime i ∨ datagram.command = some .gameStepResponse ∧
    (laws.uint8At datagram.behindCommand i ∨ laws.int8At datagram.behindCount i)

/-- The two datagrams differ in these octets at most; they may arrive at different times. -/
structure InStreamLaws.Twins (datagram other : Datagram L) : Prop where
  length : other.octets.length = datagram.octets.length
  octets : ∀ i, ¬laws.ClockOctet datagram i → other.octets[i]? = datagram.octets[i]?
  locals : other.locals = datagram.locals

end

/-! ## Reading twins -/

section

variable (laws : InStreamLaws L) (datagram : Datagram L)

include laws

/-- The order of the fields. -/
theorem InStreamLaws.pos_le :
    datagram.behindId.pos ≤ datagram.atTime.pos ∧
      datagram.atTime.pos ≤ datagram.behindTime.pos ∧
      datagram.behindTime.pos ≤ datagram.behindCommand.pos ∧
      datagram.behindCommand.pos ≤ datagram.behindCount.pos ∧
      datagram.behindCount.pos ≤ (@behindDelta L datagram.behindCommand).pos :=
  ⟨laws.marker.pos_le _, laws.uint16.pos_le _, laws.uint8.pos_le _, laws.uint8.pos_le _,
    laws.int8.pos_le _⟩

theorem InStreamLaws.octets_behindId : datagram.behindId.octets = datagram.octets :=
  (laws.orderedId L.orderedDatagramInLogicInit).octets _

theorem InStreamLaws.octets_atTime : datagram.atTime.octets = datagram.octets :=
  (laws.marker.octets _).trans (laws.octets_behindId datagram)

theorem InStreamLaws.octets_behindTime : datagram.behindTime.octets = datagram.octets :=
  (laws.uint16.octets _).trans (laws.octets_atTime datagram)

theorem InStreamLaws.octets_behindCommand : datagram.behindCommand.octets = datagram.octets :=
  (laws.uint8.octets _).trans (laws.octets_behindTime datagram)

theorem InStreamLaws.octets_behindCount : datagram.behindCount.octets = datagram.octets :=
  (laws.uint8.octets _).trans (laws.octets_behindCommand datagram)

theorem InStreamLaws.octets_behindDelta :
    (@behindDelta L datagram.behindCommand).octets = datagram.octets :=
  (laws.int8.octets _).trans (laws.octets_behindCount datagram)

variable {laws datagram} {other : Datagram L}

theorem InStreamLaws.ClockOctet.within {i : Nat} (h : laws.ClockOctet datagram i) :
    datagram.atTime.pos ≤ i ∧ i < datagram.behindTime.pos ∨
      datagram.command = some .gameStepResponse ∧ datagram.behindCommand.pos ≤ i ∧
        i < (@behindDelta L datagram.behindCommand).pos := by
  obtain ⟨_, _, _, hcount, hdelta⟩ := laws.pos_le datagram
  rcases h with htime | ⟨hcommand, hvalue | hvalue⟩
  · exact Or.inl (laws.uint16.value_within _ i htime)
  · obtain ⟨hfrom, hto⟩ := laws.uint8.value_within _ i hvalue
    exact Or.inr ⟨hcommand, hfrom, Nat.lt_of_lt_of_le hto hdelta⟩
  · obtain ⟨hfrom, hto⟩ := laws.int8.value_within _ i hvalue
    exact Or.inr ⟨hcommand, hcount.trans hfrom, hto⟩

namespace InStreamLaws.Twins

variable (h : laws.Twins datagram other)

include h

theorem level_inStream : Level datagram.inStream other.inStream :=
  ⟨rfl, h.length, rfl⟩

theorem octets_eq_nil_iff : other.octets = [] ↔ datagram.octets = [] := by
  rw [← List.length_eq_zero_iff, h.length, List.length_eq_zero_iff]

/-- The octets of the ordered id and the marker are none of the clock's. -/
theorem octets_of_lt {i : Nat} (hi : i < datagram.atTime.pos) :
    other.octets[i]? = datagram.octets[i]? := by
  obtain ⟨_, htime, hcommand, _⟩ := laws.pos_le datagram
  refine h.octets i fun hclock => ?_
  rcases hclock.within with hwithin | ⟨_, hwithin, _⟩ <;> omega

theorem receive_eq (inLogic : L.OrderedDatagramInLogic) :
    (L.orderedDatagramInLogicReceive inLogic other.inStream).1 =
        (L.orderedDatagramInLogicReceive inLogic datagram.inStream).1 ∧
      (L.orderedDatagramInLogicReceive inLogic other.inStream).2.1 =
        (L.orderedDatagramInLogicReceive inLogic datagram.inStream).2.1 := by
  have hid := laws.orderedId inLogic
  have hend : (readOrderedId inLogic datagram.inStream).stream.pos = datagram.behindId.pos :=
    congrArg FldInStream.pos (laws.orderedIdStream _ _ _)
  have hsame : ∀ i, i < (readOrderedId inLogic datagram.inStream).stream.pos →
      other.octets[i]? = datagram.octets[i]? := fun i hi =>
    h.octets_of_lt (Nat.lt_of_lt_of_le (hend ▸ hi) (laws.pos_le datagram).1)
  have hcourse := hid.course _ _ h.level_inStream fun i _ hi _ => hsame i hi
  have hvalue := hid.value _ _ h.level_inStream fun i _ hi => hsame i hi
  exact ⟨hcourse.1, Option.some.inj hvalue⟩

theorem level_behindId : Level datagram.behindId other.behindId :=
  (laws.orderedId L.orderedDatagramInLogicInit).level h.level_inStream fun _ _ hi _ =>
    h.octets_of_lt (Nat.lt_of_lt_of_le hi (laws.pos_le datagram).1)

theorem level_atTime : Level datagram.atTime other.atTime := by
  refine laws.marker.level h.level_behindId fun i _ hi _ => ?_
  rw [laws.octets_behindId, laws.octets_behindId]
  exact h.octets_of_lt hi

/-- Around the value of the time, the octets of its read are the same. -/
theorem octets_time {i : Nat} (hi : i < datagram.behindTime.pos)
    (hvalue : ¬laws.uint16At datagram.atTime i) : other.octets[i]? = datagram.octets[i]? := by
  obtain ⟨_, _, hcommand, hcount, _⟩ := laws.pos_le datagram
  refine h.octets i fun hclock => ?_
  rcases hclock with htime | ⟨_, hstep | hstep⟩
  · exact hvalue htime
  · have := (laws.uint8.value_within _ i hstep).1
    omega
  · have := (laws.int8.value_within _ i hstep).1
    omega

theorem course_time :
    (L.fldInStreamReadUInt16 other.atTime).code = (L.fldInStreamReadUInt16 datagram.atTime).code ∧
      Level datagram.behindTime other.behindTime := by
  have hsame : ∀ i, datagram.atTime.pos ≤ i → i < datagram.behindTime.pos →
      ¬laws.uint16At datagram.atTime i → other.atTime.octets[i]? = datagram.atTime.octets[i]? := by
    intro i _ hi hvalue
    rw [laws.octets_atTime, laws.octets_atTime]
    exact h.octets_time hi hvalue
  exact ⟨(laws.uint16.course _ _ h.level_atTime hsame).1, laws.uint16.level h.level_atTime hsame⟩

/-- The command is the same, and the streams stay level behind it. -/
theorem readCommand_eq :
    (readCommand other.behindTime other.locals).1 =
        (readCommand datagram.behindTime datagram.locals).1 ∧
      Level datagram.behindCommand other.behindCommand := by
  have hsame : ∀ i, datagram.behindTime.pos ≤ i → i < datagram.behindCommand.pos →
      other.behindTime.octets[i]? = datagram.behindTime.octets[i]? := by
    intro i hfrom hto
    rw [laws.octets_behindTime, laws.octets_behindTime]
    refine h.octets i fun hclock => ?_
    rcases hclock.within with hwithin | ⟨_, hwithin, _⟩ <;> omega
  have hlevel := h.course_time.2
  have hvalue := laws.uint8.value _ _ hlevel hsame
  refine ⟨?_, laws.uint8.level hlevel fun i hfrom hto _ => hsame i hfrom hto⟩
  unfold readCommand
  dsimp only
  rw [hvalue, h.locals]

theorem sameAhead_behindCommand (hcommand : datagram.command ≠ some .gameStepResponse) :
    SameAhead datagram.behindCommand other.behindCommand := by
  refine ⟨h.readCommand_eq.2, fun i hi => ?_⟩
  rw [laws.octets_behindCommand, laws.octets_behindCommand]
  refine h.octets i fun hclock => ?_
  rcases hclock.within with hwithin | ⟨hstep, _⟩
  · have := (laws.pos_le datagram).2.2.1
    omega
  · exact hcommand hstep

theorem level_behindCount : Level datagram.behindCount other.behindCount := by
  obtain ⟨_, _, hcommand, _⟩ := laws.pos_le datagram
  refine laws.uint8.level h.readCommand_eq.2 fun i hfrom hto hvalue => ?_
  rw [laws.octets_behindCommand, laws.octets_behindCommand]
  refine h.octets i fun hclock => ?_
  rcases hclock with htime | ⟨_, hcount | hdelta⟩
  · have hend : i < datagram.behindTime.pos := (laws.uint16.value_within _ i htime).2
    omega
  · exact hvalue hcount
  · have hstart : datagram.behindCount.pos ≤ i := (laws.int8.value_within _ i hdelta).1
    exact absurd hto (Nat.not_lt.mpr hstart)

theorem level_behindDelta :
    Level (@behindDelta L datagram.behindCommand) (@behindDelta L other.behindCommand) := by
  obtain ⟨_, _, hcommand, hcount, _⟩ := laws.pos_le datagram
  refine laws.int8.level h.level_behindCount
    fun i (hfrom : datagram.behindCount.pos ≤ i) _ hvalue => ?_
  change other.behindCount.octets[i]? = datagram.behindCount.octets[i]?
  rw [laws.octets_behindCount, laws.octets_behindCount]
  refine h.octets i fun hclock => ?_
  rcases hclock with htime | ⟨_, hcount' | hdelta⟩
  · have hend : i < datagram.behindTime.pos := (laws.uint16.value_within _ i htime).2
    omega
  · have hend : i < datagram.behindCount.pos := (laws.uint8.value_within _ i hcount').2
    omega
  · exact hvalue hdelta

/-- Behind the two fields of a game step response, the octets are the same again. -/
theorem sameAhead_behindDelta :
    SameAhead (@behindDelta L datagram.behindCommand) (@behindDelta L other.behindCommand) := by
  obtain ⟨_, _, hcommand, hcount, hdelta⟩ := laws.pos_le datagram
  refine ⟨h.level_behindDelta, fun i hi => ?_⟩
  rw [laws.octets_behindDelta, laws.octets_behindDelta]
  refine h.octets i fun hclock => ?_
  rcases hclock.within with hwithin | ⟨_, _, hwithin⟩ <;> omega

end InStreamLaws.Twins

end

namespace Small

/-! ## The small implementation -/

/-- The octets that a read moves past. -/
def Consumed {α : Type} (read : FldInStream → ReadResult α) (s : FldInStream) (i : Nat) : Prop :=
  s.pos ≤ i ∧ i < (read s).stream.pos

theorem readUInt8_eq (s : FldInStream) :
    readUInt8 s = ⟨if s.pos < s.size then 0 else -1, s.octets[s.pos]?,
      { s with pos := if s.pos < s.size then s.pos + 1 else s.pos }⟩ := by
  unfold readUInt8 FldInStream.size
  by_cases h : s.pos < s.octets.length
  · rw [List.drop_eq_getElem_cons h]
    simp [h]
  · rw [List.drop_eq_nil_iff.mpr (Nat.not_lt.mp h)]
    simp [h]

/-- The value of two octets; without the second there is none. -/
def valueOfOctets (high low : Option UInt8) : Option UInt16 :=
  low.map fun low => UInt16.ofNat ((high.getD 0).toNat * 256 + low.toNat)

theorem readUInt16_eq (s : FldInStream) :
    readUInt16 s = ⟨if s.pos + 1 < s.size then 0 else -1,
      valueOfOctets s.octets[s.pos]? s.octets[s.pos + 1]?,
      { s with pos := if s.pos + 1 < s.size then s.pos + 2 else s.pos }⟩ := by
  unfold readUInt16 FldInStream.size valueOfOctets
  by_cases h : s.pos + 1 < s.octets.length
  · have hfirst : s.pos < s.octets.length := by omega
    rw [List.drop_eq_getElem_cons hfirst, List.drop_eq_getElem_cons h]
    simp [h, hfirst]
  · by_cases hfirst : s.pos < s.octets.length
    · rw [List.drop_eq_getElem_cons hfirst, List.drop_eq_nil_iff.mpr (Nat.not_lt.mp h)]
      simp [h]
    · rw [List.drop_eq_nil_iff.mpr (Nat.not_lt.mp hfirst)]
      simp [h]

theorem sequentialRead_readUInt8 : SequentialRead readUInt8 (Consumed readUInt8) where
  octets s := by rw [readUInt8_eq]
  readDebugInfo s := by rw [readUInt8_eq]
  pos_le s := by
    simp only [readUInt8_eq]
    split <;> omega
  value_within _ _ h := h
  course s t h _ := by simp only [readUInt8_eq, h.pos, h.size, and_self]
  value s t h hsame := by
    simp only [readUInt8_eq, h.pos] at hsame ⊢
    by_cases hpos : s.pos < s.size
    · exact hsame s.pos le_rfl (by simp [hpos])
    · have hpos' : ¬s.pos < t.size := h.size ▸ hpos
      unfold FldInStream.size at hpos hpos'
      rw [List.getElem?_eq_none (Nat.not_lt.mp hpos), List.getElem?_eq_none (Nat.not_lt.mp hpos')]

theorem sequentialRead_readUInt16 : SequentialRead readUInt16 (Consumed readUInt16) where
  octets s := by rw [readUInt16_eq]
  readDebugInfo s := by rw [readUInt16_eq]
  pos_le s := by
    simp only [readUInt16_eq]
    split <;> omega
  value_within _ _ h := h
  course s t h _ := by simp only [readUInt16_eq, h.pos, h.size, and_self]
  value s t h hsame := by
    simp only [readUInt16_eq, h.pos] at hsame ⊢
    by_cases hpos : s.pos + 1 < s.size
    · rw [if_pos hpos] at hsame
      have hhigh := hsame s.pos le_rfl (by omega)
      have hlow := hsame (s.pos + 1) (by omega) (by omega)
      rw [hhigh, hlow]
    · have hpos' : ¬s.pos + 1 < t.size := h.size ▸ hpos
      unfold FldInStream.size at hpos hpos'
      rw [List.getElem?_eq_none (Nat.not_lt.mp hpos), List.getElem?_eq_none (Nat.not_lt.mp hpos')]
      simp [valueOfOctets]

theorem sequentialRead_mapRead {α β : Type} {read : FldInStream → ReadResult α}
    {valueAt : FldInStream → Nat → Prop} (h : SequentialRead read valueAt) (f : α → β) :
    SequentialRead (fun s => mapRead f (read s)) valueAt where
  octets := h.octets
  readDebugInfo := h.readDebugInfo
  pos_le := h.pos_le
  value_within := h.value_within
  course := h.course
  value s t hlevel hsame := congrArg (Option.map f) (h.value s t hlevel hsame)

theorem readOrderedId_eq (last : Option UInt8) (s : FldInStream) :
    @readOrderedId smallLibraries last s =
      ⟨(receiveOrdered last s).1, some (receiveOrdered last s).2.1, (readUInt8 s).stream⟩ := by
  unfold readOrderedId
  change ReadResult.mk (receiveOrdered last s).1 _ (receiveOrdered last s).2.2 = _
  unfold receiveOrdered
  dsimp only
  split <;> rfl

/-- A read of an id is judged by its octet. -/
theorem sequentialRead_readOrderedId (last : Option UInt8) :
    SequentialRead (@readOrderedId smallLibraries last) fun _ _ => False where
  octets s := by
    rw [readOrderedId_eq]
    exact sequentialRead_readUInt8.octets s
  readDebugInfo s := by
    rw [readOrderedId_eq]
    exact sequentialRead_readUInt8.readDebugInfo s
  pos_le s := by
    rw [readOrderedId_eq]
    exact sequentialRead_readUInt8.pos_le s
  value_within _ _ h := h.elim
  course s t h hsame := by
    rw [readOrderedId_eq] at hsame
    have hvalue := sequentialRead_readUInt8.value s t h fun i hfrom hto => hsame i hfrom hto id
    have hpos := (sequentialRead_readUInt8.course s t h fun i hfrom hto _ =>
      hsame i hfrom hto id).2
    rw [readOrderedId_eq, readOrderedId_eq]
    refine ⟨?_, hpos⟩
    unfold receiveOrdered
    dsimp only
    rw [hvalue]
    split <;> rfl
  value s t h hsame := by
    rw [readOrderedId_eq] at hsame
    have hvalue := sequentialRead_readUInt8.value s t h hsame
    rw [readOrderedId_eq, readOrderedId_eq]
    unfold receiveOrdered
    dsimp only
    rw [hvalue]
    split <;> rfl

theorem readsAhead_readUInt32 : ReadsAhead readUInt32 := by
  intro s t h
  unfold readUInt32
  rw [h.drop_eq]
  split
  · exact ⟨rfl, rfl, h.move 4⟩
  · exact ⟨rfl, rfl, h⟩

theorem readsAhead_mapRead {α β : Type} {read : FldInStream → ReadResult α}
    (h : ReadsAhead read) (f : α → β) : ReadsAhead fun s => mapRead f (read s) := by
  intro s t hs
  obtain ⟨hcode, hvalue, hstream⟩ := h s t hs
  exact ⟨hcode, congrArg (Option.map f) hvalue, hstream⟩

theorem readsAhead_readConnectResponse : ReadsAhead readConnectResponse := by
  intro s t h
  obtain ⟨hcode, hvalue, hstream⟩ := sequentialRead_readUInt8.readsAhead s t h
  unfold readConnectResponse
  dsimp only
  rw [hvalue]
  cases (readUInt8 s).value with
  | none => exact ⟨hcode, rfl, hstream⟩
  | some debugOctet =>
      exact readsAhead_mapRead sequentialRead_readUInt8.readsAhead _ _ _ hstream

theorem readsAhead_readJoinGameResponse : ReadsAhead readJoinGameResponse := by
  intro s t h
  unfold readJoinGameResponse
  rw [h.drop_eq]
  split
  · rename_i secret count rest _
    cases participantsOfOctets count.toNat rest with
    | none => exact ⟨rfl, rfl, h⟩
    | some participants =>
        have hmove := h.move (2 + 2 * count.toNat)
        simp only [← Nat.add_assoc] at hmove
        exact ⟨rfl, rfl, hmove⟩
  · exact ⟨rfl, rfl, h⟩

theorem PendingSteps.inSerialize_of_sameAhead {s t : FldInStream} (h : SameAhead s t)
    (pending : PendingSteps) :
    PendingSteps.inSerialize t pending = PendingSteps.inSerialize s pending := by
  obtain ⟨_, hvalue, hstream⟩ := readsAhead_readUInt32 s t h
  unfold PendingSteps.inSerialize
  dsimp only
  rw [hvalue, hstream.drop_eq]

/-- The small implementation reads from front to back. -/
def smallInStreamLaws : InStreamLaws smallLibraries where
  uint8At := Consumed readUInt8
  int8At := Consumed readUInt8
  uint16At := Consumed readUInt16
  uint8 := sequentialRead_readUInt8
  int8 := sequentialRead_mapRead sequentialRead_readUInt8 UInt8.toInt8
  uint16 := sequentialRead_readUInt16
  marker := ⟨fun _ => rfl, fun _ => rfl, fun _ => le_rfl, fun _ _ h => h.elim,
    fun _ _ h _ => ⟨rfl, h.pos⟩, fun _ _ _ _ => rfl⟩
  orderedId := sequentialRead_readOrderedId
  orderedIdStream last other s := by
    have hstream := congrArg ReadResult.stream (readOrderedId_eq last s)
    exact (congrArg ReadResult.stream (readOrderedId_eq other s)).trans hstream.symm
  uint32 := readsAhead_readUInt32
  stateId := readsAhead_readUInt32
  channelId := readsAhead_mapRead sequentialRead_readUInt16.readsAhead UInt16.toNat
  nonce := readsAhead_mapRead sequentialRead_readUInt8.readsAhead UInt8.toNat
  connectResponse := readsAhead_readConnectResponse
  joinGameResponse := readsAhead_readJoinGameResponse
  steps _ _ pending h := PendingSteps.inSerialize_of_sameAhead h pending
  chunk _ blobStreamIn s t h := by
    change Blob.receive blobStreamIn t = Blob.receive blobStreamIn s
    unfold Blob.receive
    rw [h.drop_eq]

end Small

end Nimble
