import Nimble.Verification.Truncation.Handlers

/-! # Truncated datagrams

Most reads of a handler are not checked, so a field that a datagram is too short for keeps what
its local variable held before. -/

namespace Nimble

variable {L : Libraries}

section

variable {laws : ReadLaws L}

/-! ## Datagrams -/

/-- Of a dispatched command, only the octets decide exactly when the fields that its handler does
not check arrive. -/
theorem Dispatch.octetsDecide_iff (laws : ReadLaws L) (x : Dispatch L) :
    x.OctetsDecide laws ↔ x.FieldsArrive laws := by
  rcases x.command_cases with h | h | h | h | h | h | h
  · exact octetsDecide_connectResponse h
  · exact octetsDecide_serverOutBlobStream h
  · exact octetsDecide_gameStepResponse h
  · exact octetsDecide_joinGameResponse h
  · exact octetsDecide_gameStateResponse h
  · exact octetsDecide_outOfParticipantSlots h
  · have hreject : ∀ locals, (x.withLocals locals).outcome = (-1, x.client) := by
      intro locals
      rcases (x.withLocals locals).command_cases with hc | hc | hc | hc | hc | hc | hc
      · cases h.1 _ hc
      · cases h.1 _ hc
      · cases h.1 _ hc
      · cases h.1 _ hc
      · cases h.1 _ hc
      · cases h.1 _ hc
      · exact hc.2
    refine iff_of_true ⟨fun locals => ?_, fun _ locals => ?_⟩ ?_
    · rw [hreject, h.2]
    · rw [hreject]
      exact Int.negSucc_lt_zero 0
    · unfold FieldsArrive
      split
      · cases h.1 _ ‹_›
      · cases h.1 _ ‹_›
      · cases h.1 _ ‹_›
      · trivial

/-- The same datagram, met with other contents of the local variables. -/
def Datagram.withLocals (datagram : Datagram L) (locals : FeedLocals L) : Datagram L :=
  { datagram with locals := locals }

theorem nimbleClientReceivePong_congr (laws : ReadLaws L) (self : NimbleClient L)
    (inStream : FldInStream) (now : MonotonicTimeMs) (locals other : FeedLocals L) :
    nimbleClientReceivePong self inStream now other =
      nimbleClientReceivePong self inStream now locals := by
  unfold nimbleClientReceivePong
  dsimp only
  by_cases hholds : (L.fldInStreamCheckMarker inStream 0xdd).Holds laws.uint16Width
  · have hvalue := (laws.uint16.within _ hholds).2.1
    rw [getD_of_isSome hvalue other.monotonicTimeShortMs locals.monotonicTimeShortMs]
  · have hcode := (laws.uint16.past _ hholds).1
    rw [if_pos hcode, if_pos hcode]

/-- The header of a datagram is read the same, whatever the local variables hold. -/
theorem readDatagramHeader_withLocals (laws : ReadLaws L) (self : NimbleClient L)
    (datagram : Datagram L) (locals : FeedLocals L) :
    readDatagramHeader self (datagram.withLocals locals) = readDatagramHeader self datagram := by
  have hpong := fun client stream =>
    nimbleClientReceivePong_congr laws client stream datagram.now datagram.locals locals
  unfold readDatagramHeader
  simp only [Datagram.withLocals, hpong]

variable (laws)

/-- A datagram is refused in its header, or ends there, or ends before its command or the last
field that the command needs. -/
def EndsEarly (self : NimbleClient L) (datagram : Datagram L) : Prop :=
  datagram.octets.length < 1 ∨ (readDatagramHeader self datagram).1 < 0 ∨
    ¬(readDatagramHeader self datagram).2.2.Holds laws.uint8Width ∨
    ∃ x, dispatch? self datagram = some x ∧ x.EndsEarly laws

/-- Behind its header, a datagram brings its command and the fields that are not checked. -/
def FieldsArrive (self : NimbleClient L) (datagram : Datagram L) : Prop :=
  ∀ x, dispatch? self datagram = some x →
    (readDatagramHeader self datagram).2.2.Holds laws.uint8Width ∧ x.FieldsArrive laws

/-- Only the octets of a datagram decide what becomes of it, and without its last field it
fails. -/
structure OctetsDecide (client : NimbleClient L) (datagram : Datagram L) : Prop where
  agree : ∀ locals,
    nimbleClientFeed client (datagram.withLocals locals) = nimbleClientFeed client datagram
  early : EndsEarly laws client datagram → ∀ locals,
    (nimbleClientFeed client (datagram.withLocals locals)).1 < 0

variable {laws}

/-- A datagram that is not dispatched fails in every case. -/
theorem octetsDecide_of_not_dispatched {self : NimbleClient L}
    (hstate : self.state ≠ .disconnected) {datagram : Datagram L}
    (h : dispatch? self datagram = none) : OctetsDecide laws self datagram := by
  have hlocals := readDatagramHeader_withLocals laws self datagram
  by_cases hempty : datagram.octets.length < 1
  · have hfeed : ∀ locals, nimbleClientFeed self (datagram.withLocals locals) = (-1, self) :=
      fun _ => if_pos hempty
    exact ⟨fun locals => (hfeed locals).trans (hfeed datagram.locals).symm,
      fun _ locals => by rw [hfeed]; exact Int.negSucc_lt_zero 0⟩
  · have hheader : (readDatagramHeader self datagram).1 < 0 := by
      unfold dispatch? at h
      rw [if_neg (by simp [hempty, hstate])] at h
      by_contra hpasses
      dsimp only at h
      rw [if_neg hpasses] at h
      cases h
    have hfeed : ∀ locals, nimbleClientFeed self (datagram.withLocals locals) =
        ((readDatagramHeader self datagram).1, (readDatagramHeader self datagram).2.1) := by
      intro locals
      rw [nimbleClientFeed_eq, hlocals, if_pos hheader, if_neg hstate]
      exact if_neg hempty
    exact ⟨fun locals => (hfeed locals).trans (hfeed datagram.locals).symm,
      fun _ locals => by rw [hfeed]; exact hheader⟩

/-- With other contents of the local variables the command is the octet of the datagram, or else
what the variable for it holds. -/
theorem dispatch?_withLocals (laws : ReadLaws L) {self : NimbleClient L} {datagram : Datagram L}
    {x : Dispatch L} (h : dispatch? self datagram = some x) (locals : FeedLocals L) :
    dispatch? self (datagram.withLocals locals) =
      some ⟨x.client,
        (L.fldInStreamReadUInt8 (readDatagramHeader self datagram).2.2).value.getD locals.cmd,
        (L.fldInStreamReadUInt8 (readDatagramHeader self datagram).2.2).stream, locals⟩ := by
  have hheader := readDatagramHeader_withLocals laws self datagram locals
  rw [dispatch?_client h]
  unfold dispatch? at h ⊢
  dsimp only at h ⊢
  rw [hheader]
  split at h
  · cases h
  · rename_i hearly
    rw [if_neg (show ¬((datagram.withLocals locals).octets.length < 1 ∨
      self.state = .disconnected) from hearly)]
    split at h
    · cases h
    · rw [if_neg ‹¬_›]
      rfl

/-- A datagram without a command takes whatever command the variable holds, a blob part for
another channel, say, which is passed over in silence. -/
theorem not_octetsDecide_of_no_command {self : NimbleClient L} {datagram : Datagram L}
    {x : Dispatch L} (hx : dispatch? self datagram = some x)
    (h : ¬(readDatagramHeader self datagram).2.2.Holds laws.uint8Width) :
    ¬OctetsDecide laws self datagram := by
  intro hdecide
  obtain ⟨octet, hoctet⟩ := laws.blobCommand
  obtain ⟨_, hvalue, hstream⟩ := laws.uint8.past _ h
  have hchannel : ¬(readDatagramHeader self datagram).2.2.Holds laws.channelIdWidth := by
    have hwidth := laws.uint8_le_channelId
    unfold FldInStream.Holds at h ⊢
    omega
  obtain ⟨locals, hcmd, hpart⟩ : ∃ locals : FeedLocals L, locals.cmd = octet ∧
      locals.partChannelId = x.client.joinStateChannel + 1 :=
    ⟨{ datagram.locals with cmd := octet, partChannelId := x.client.joinStateChannel + 1 },
      rfl, rfl⟩
  have hlocals := dispatch?_withLocals laws hx locals
  have hfails := hdecide.early (Or.inr (Or.inr (Or.inl h))) locals
  rw [hvalue, hstream, Option.getD_none, hcmd] at hlocals
  have hcommand : (⟨x.client, octet, (readDatagramHeader self datagram).2.2, locals⟩ :
      Dispatch L).command = some .serverOutBlobStream := hoctet
  rw [nimbleClientFeed_of_dispatch hlocals, Dispatch.outcome_serverOutBlobStream hcommand,
    nimbleClientOnDownloadGameStatePart_of_ne] at hfails
  · exact Int.lt_irrefl 0 hfails
  · unfold partChannelId
    rw [laws.channelId.getD_of_past hchannel, hpart]
    exact Nat.succ_ne_self _

theorem octetsDecide_of_command {self : NimbleClient L} {datagram : Datagram L} {x : Dispatch L}
    (hx : dispatch? self datagram = some x)
    (h : (readDatagramHeader self datagram).2.2.Holds laws.uint8Width) :
    OctetsDecide laws self datagram ↔ x.OctetsDecide laws := by
  have hvalue := (laws.uint8.within _ h).2.1
  have hself : x = ⟨x.client,
      (L.fldInStreamReadUInt8 (readDatagramHeader self datagram).2.2).value.getD
        datagram.locals.cmd,
      (L.fldInStreamReadUInt8 (readDatagramHeader self datagram).2.2).stream,
      datagram.locals⟩ :=
    Option.some.inj (hx.symm.trans (dispatch?_withLocals laws hx datagram.locals))
  have hfeed : ∀ locals, nimbleClientFeed self (datagram.withLocals locals) =
      (x.withLocals locals).outcome := by
    intro locals
    rw [nimbleClientFeed_of_dispatch (dispatch?_withLocals laws hx locals),
      getD_of_isSome hvalue locals.cmd datagram.locals.cmd]
    exact congrArg (fun y => (Dispatch.withLocals y locals).outcome) hself.symm
  have hends : EndsEarly laws self datagram ↔ x.EndsEarly laws := by
    constructor
    · rintro (hempty | hheader | hcommand | ⟨y, hy, hends⟩)
      · unfold dispatch? at hx
        rw [if_pos (Or.inl hempty)] at hx
        cases hx
      · unfold dispatch? at hx
        dsimp only at hx
        rw [if_pos hheader] at hx
        simp at hx
      · exact absurd h hcommand
      · rw [hx] at hy
        rw [Option.some.inj hy]
        exact hends
    · exact fun hends => Or.inr (Or.inr (Or.inr ⟨x, hx, hends⟩))
  constructor
  · intro hdecide
    refine ⟨fun locals => ?_, fun hx locals => ?_⟩
    · rw [← hfeed, ← nimbleClientFeed_of_dispatch hx]
      exact hdecide.agree locals
    · rw [← hfeed]
      exact hdecide.early (hends.mpr hx) locals
  · intro hdecide
    refine ⟨fun locals => ?_, fun hx' locals => ?_⟩
    · rw [hfeed, nimbleClientFeed_of_dispatch hx]
      exact hdecide.agree locals
    · rw [hfeed]
      exact hdecide.early (hends.mp hx') locals

end

/-- For a client that is not disconnected, only the octets of a datagram decide its result and
the client afterwards, and a datagram cut short fails, exactly when the command arrives and the
fields of it that the handler reads without a check. -/
theorem octets_decide (laws : ReadLaws L) {self : NimbleClient L}
    (hstate : self.state ≠ .disconnected) (datagram : Datagram L) :
    OctetsDecide laws self datagram ↔ FieldsArrive laws self datagram := by
  cases hx : dispatch? self datagram with
  | none =>
      refine iff_of_true (octetsDecide_of_not_dispatched hstate hx) fun x hx' => ?_
      rw [hx] at hx'
      cases hx'
  | some x =>
      by_cases hcommand : (readDatagramHeader self datagram).2.2.Holds laws.uint8Width
      · rw [octetsDecide_of_command hx hcommand, x.octetsDecide_iff]
        rw [FieldsArrive]
        simp [hx, hcommand]
      · exact iff_of_false (not_octetsDecide_of_no_command hx hcommand)
          fun harrive => hcommand (harrive x hx).1

/-! ## A truncated game state response -/

namespace Small

theorem holds_iff_le_length_drop {stream : FldInStream} {count : Nat} (h : 0 < count) :
    stream.Holds count ↔ count ≤ (stream.octets.drop stream.pos).length := by
  simp only [FldInStream.Holds, FldInStream.size, List.length_drop]
  omega

/-- A read that decides by the octets that are left. -/
theorem fixedWidth_of_length {α : Type} {read : FldInStream → ReadResult α} {width : Nat}
    (hwidth : 0 < width)
    (hlong : ∀ stream : FldInStream, width ≤ (stream.octets.drop stream.pos).length →
      ∃ value, read stream = ⟨0, some value, stream.skip width⟩)
    (hshort : ∀ stream : FldInStream, (stream.octets.drop stream.pos).length < width →
      read stream = ⟨-1, none, stream⟩) : FixedWidth read width where
  within stream h := by
    obtain ⟨value, hread⟩ := hlong stream ((holds_iff_le_length_drop hwidth).mp h)
    rw [hread]
    exact ⟨Int.le_refl 0, rfl, rfl⟩
  past stream h := by
    rw [holds_iff_le_length_drop hwidth, Nat.not_le] at h
    rw [hshort stream h]
    exact ⟨Int.negSucc_lt_zero 0, rfl, rfl⟩

theorem fixedWidth_readUInt8 : FixedWidth readUInt8 1 := by
  refine fixedWidth_of_length (by decide) (fun stream h => ?_) (fun stream h => ?_)
  · rw [readUInt8]
    split
    · exact ⟨_, rfl⟩
    · rename_i hrest
      simp [hrest] at h
  · rw [readUInt8]
    split
    · rename_i hrest
      simp [hrest] at h
    · rfl

theorem fixedWidth_readUInt16 : FixedWidth readUInt16 2 := by
  refine fixedWidth_of_length (by decide) (fun stream h => ?_) (fun stream h => ?_)
  · obtain ⟨a, b, rest, hrest⟩ : ∃ a b rest, stream.octets.drop stream.pos = a :: b :: rest := by
      rcases hrest : stream.octets.drop stream.pos with _ | ⟨a, _ | ⟨b, rest⟩⟩ <;> simp_all
    simp only [readUInt16, hrest]
    exact ⟨_, rfl⟩
  · rw [readUInt16]
    split
    · rename_i hrest
      simp only [hrest, List.length_cons] at h
      omega
    · rfl

theorem fixedWidth_readUInt32 : FixedWidth readUInt32 4 := by
  refine fixedWidth_of_length (by decide) (fun stream h => ?_) (fun stream h => ?_)
  · obtain ⟨a, b, c, d, rest, hrest⟩ : ∃ a b c d rest,
        stream.octets.drop stream.pos = a :: b :: c :: d :: rest := by
      rcases hrest : stream.octets.drop stream.pos with
        _ | ⟨a, _ | ⟨b, _ | ⟨c, _ | ⟨d, rest⟩⟩⟩⟩ <;> simp_all
    simp only [readUInt32, hrest]
    exact ⟨_, rfl⟩
  · rw [readUInt32]
    split
    · rename_i hrest
      simp only [hrest, List.length_cons] at h
      omega
    · rfl

theorem fixedWidth_mapRead {α β : Type} {read : FldInStream → ReadResult α} {width : Nat}
    (f : α → β) (h : FixedWidth read width) :
    FixedWidth (fun stream => mapRead f (read stream)) width where
  within stream hholds := by
    obtain ⟨hcode, hvalue, hstream⟩ := h.within stream hholds
    exact ⟨hcode, by simpa [mapRead] using hvalue, hstream⟩
  past stream hpast := by
    obtain ⟨hcode, hvalue, hstream⟩ := h.past stream hpast
    exact ⟨hcode, by simp [mapRead, hvalue], hstream⟩

theorem isSome_readConnectResponse {stream : FldInStream}
    (h : 0 ≤ (readConnectResponse stream).code) :
    (readConnectResponse stream).value.isSome = true := by
  unfold readConnectResponse at h ⊢
  dsimp only at h ⊢
  split
  · rename_i hnone
    rw [hnone] at h
    have hsome := fixedWidth_readUInt8.isSome_of_le_code h
    rw [hnone] at hsome
    cases hsome
  · rename_i octet hoctet
    rw [hoctet] at h
    have hsome := fixedWidth_readUInt8.isSome_of_le_code h
    simpa [mapRead] using hsome

theorem isSome_readJoinGameResponse {stream : FldInStream}
    (h : 0 ≤ (readJoinGameResponse stream).code) :
    (readJoinGameResponse stream).value.isSome = true := by
  unfold readJoinGameResponse at h ⊢
  split at h
  · split at h
    · simp [*]
    · simp at h
  · simp at h

/-- The small implementation refuses a stream, or returns the octet that counts its steps. -/
theorem PendingSteps.inSerialize_cases (inStream : FldInStream) (pending : PendingSteps) :
    inSerialize inStream pending = (-4, pending) ∨
      ∃ count : UInt8, (inSerialize inStream pending).1 = count.toNat := by
  unfold inSerialize
  dsimp only
  split
  · split
    · exact Or.inr ⟨_, rfl⟩
    · exact Or.inl rfl
  · exact Or.inl rfl

/-- The small decoders fail on nothing but a stream that ends early. -/
def smallReadLaws : ReadLaws smallLibraries where
  uint8Width := 1
  int8Width := 1
  uint16Width := 2
  uint32Width := 4
  stateIdWidth := 4
  channelIdWidth := 2
  nonceWidth := 1
  uint8 := fixedWidth_readUInt8
  int8 := fixedWidth_mapRead UInt8.toInt8 fixedWidth_readUInt8
  uint16 := fixedWidth_readUInt16
  uint32 := fixedWidth_readUInt32
  stateId := fixedWidth_readUInt32
  channelId := fixedWidth_mapRead UInt16.toNat fixedWidth_readUInt16
  nonce := fixedWidth_mapRead UInt8.toNat fixedWidth_readUInt8
  uint8_le_uint32 := by decide
  int8_le_uint32 := by decide
  uint8_le_stateId := by decide
  uint8_le_channelId := by decide
  connectResponseEndsEarly stream := (readConnectResponse stream).code < 0
  connectResponse stream := ⟨isSome_readConnectResponse, id⟩
  joinGameResponseEndsEarly stream := (readJoinGameResponse stream).code < 0
  joinGameResponse stream := ⟨isSome_readJoinGameResponse, id⟩
  stepsEndEarly stream := ∀ pending, (PendingSteps.inSerialize stream pending).1 < 0
  steps stream pending h := by
    refine ⟨h pending, ?_⟩
    change -2 ^ 31 ≤ (PendingSteps.inSerialize stream pending).1
    rcases PendingSteps.inSerialize_cases stream pending with hcode | ⟨count, hcode⟩
    · simp [hcode]
    · omega
  chunkEndsEarly stream := ¬stream.Holds 2
  chunk logic blobStreamIn stream h := by
    change (Blob.receive blobStreamIn stream).1 < 0
    rw [holds_iff_le_length_drop (by decide)] at h
    rw [Blob.receive]
    split
    · rename_i hrest
      simp [hrest] at h
    · exact Int.negSucc_lt_zero 4
  blobCommand := ⟨2, rfl⟩

/-- A realizer whose client has sent its download request. -/
def downloadingRealizer : NimbleClientRealize smallLibraries :=
  (realizer smallLibraries).run (freshRealizer 1) ((syncSession 10 5).take 4)

/-- Other contents of the local variables. -/
def garbageLocals : FeedLocals smallLibraries :=
  { zeroLocals with cmd := 2, partChannelId := 77, stateId := 77 }

/-- A game state response that ends in its state id. -/
def truncatedGameState (id channel : UInt8) : Datagram smallLibraries :=
  packet id .gameStateResponse [1, 0, channel]

end Small

open Nimble.Small

/-- A complete game state response is taken as it is, whatever the stack holds. -/
theorem octets_decide_gameStateResponse :
    nimbleClientFeed downloadingRealizer.client
        ((gameStateResponse 2 10 5).withLocals garbageLocals) =
      nimbleClientFeed downloadingRealizer.client (gameStateResponse 2 10 5) := by
  refine ((octets_decide smallReadLaws (by decide +kernel) _).mpr fun x hx => ?_).agree _
  have hall : (dispatch? downloadingRealizer.client (gameStateResponse 2 10 5)).all (fun x =>
      x.command = some .gameStateResponse ∧ x.inStream.Holds 5) = true := by
    decide +kernel
  rw [hx] at hall
  obtain ⟨hcommand, hholds⟩ := of_decide_eq_true hall
  refine ⟨show (readDatagramHeader downloadingRealizer.client
    (gameStateResponse 2 10 5)).2.2.Holds 1 by decide +kernel, ?_⟩
  rw [Dispatch.FieldsArrive]
  simp only [hcommand]
  exact fun hshort => hshort.2 hholds

/-- Two octets of a state id are read as the channel, and the client starts to download whatever
state the local variable names; without a command, the local variable decides the result. -/
theorem octets_decide_counterexample :
    (Reachable downloadingRealizer ∧ downloadingRealizer.client.state ≠ .disconnected) ∧
      ((nimbleClientFeed downloadingRealizer.client (truncatedGameState 2 5)).1 = 0 ∧
        (nimbleClientFeed downloadingRealizer.client (truncatedGameState 2 5)).2.joinStateId = 0 ∧
        (nimbleClientFeed downloadingRealizer.client
          ((truncatedGameState 2 5).withLocals garbageLocals)).2.joinStateId = 77) ∧
      (nimbleClientFeed downloadingRealizer.client ⟨[2, 0, 0], zeroLocals, 0⟩).1 = -1 ∧
        (nimbleClientFeed downloadingRealizer.client ⟨[2, 0, 0], garbageLocals, 0⟩).1 = 0 :=
  ⟨⟨⟨_, _, _, _, rfl⟩, by decide +kernel⟩, by decide +kernel⟩

end Nimble
