import Nimble.Verification.Acknowledgement

/-! # Sends whose serialization fails

A call of `nimbleClientOutgoing` puts a datagram together before it writes anything down, so a
later call can try again. -/

namespace Nimble

variable {L : Libraries}

/-! ## The failing calls -/

/-- Some library routine that the call runs reports an error: the header of the pending steps or
the steps of a synced client, or the blob stream of a client that downloads. -/
inductive FailsToSerialize (self : NimbleClient L) (input : OutgoingInput) : Prop
  | pendingHeader (hstate : self.state = .synced)
      (hfails : (self.acknowledgementHeader
        (@gameStepStream L (headerStream self input.stepsHeaderNow))).code < 0)
  | steps (hstate : self.state = .synced)
      (hheader : 0 ≤ (self.acknowledgementHeader
        (@gameStepStream L (headerStream self input.stepsHeaderNow))).code)
      (hfails : (L.nbsStepsOutSerialize self.outSteps
        (self.acknowledgement (headerStream self input.stepsHeaderNow))).code < 0)
  | blobStream (hstate : self.state = .joiningDownloadingState)
      (hfails : (L.blobStreamLogicInSend self.blobStreamInLogic self.blobStreamIn
        ((headerStream self input.messageHeaderNow).write
          (L.nimbleSerializeWriteCommand .clientOutBlobStream))).1.code < 0)

/-- The error codes of the two routines for steps fit the `int` they are returned as. -/
structure ErrorCodesFit (L : Libraries) : Prop where
  header : ∀ id mask stream, -2 ^ 31 ≤ (L.nbsPendingStepsSerializeOutHeader id mask stream).code
  steps : ∀ steps stream, -2 ^ 31 ≤ (L.nbsStepsOutSerialize steps stream).code

theorem serializesSteps_of_not_fails {self : NimbleClient L} {input : OutgoingInput}
    (hstate : self.state = .synced) (h : ¬FailsToSerialize self input) :
    SerializesSteps self input := by
  have hheader : 0 ≤ (self.acknowledgementHeader
      (@gameStepStream L (headerStream self input.stepsHeaderNow))).code := by
    by_contra hfails
    exact h (.pendingHeader hstate (Int.not_le.mp hfails))
  refine ⟨hheader, ?_⟩
  by_contra hfails
  exact h (.steps hstate hheader (Int.not_le.mp hfails))

/-! ## The datagrams that are given up -/

theorem sendStepsToStream_of_fails (hcodes : ErrorCodesFit L) {self : NimbleClient L}
    {stream : FldOutStream}
    (h : (self.acknowledgementHeader (@gameStepStream L stream)).code < 0 ∨
      0 ≤ (self.acknowledgementHeader (@gameStepStream L stream)).code ∧
        (L.nbsStepsOutSerialize self.outSteps (self.acknowledgement stream)).code < 0) :
    -2 ^ 31 ≤ (sendStepsToStream self stream).1 ∧ (sendStepsToStream self stream).1 < 0 ∧
      (sendStepsToStream self stream).2.1 = self := by
  have heq : sendStepsToStream self stream =
      if (self.acknowledgementHeader (@gameStepStream L stream)).code < 0 then
        ((self.acknowledgementHeader (@gameStepStream L stream)).code, self, _)
      else if (L.nbsStepsOutSerialize self.outSteps (self.acknowledgement stream)).code < 0 then
        ((L.nbsStepsOutSerialize self.outSteps (self.acknowledgement stream)).code, self, _)
      else (_, _, _) := rfl
  rw [heq]
  rcases h with hfails | ⟨hheader, hfails⟩
  · rw [if_pos hfails]
    exact ⟨hcodes.header _ _ _, hfails, rfl⟩
  · rw [if_neg (Int.not_lt.mpr hheader), if_pos hfails]
    exact ⟨hcodes.steps _ _, hfails, rfl⟩

/-- The steps datagram is given up behind its header. -/
theorem nimbleClientSendStepsToServer_of_fails (hcodes : ErrorCodesFit L)
    {self : NimbleClient L} {input : OutgoingInput} (hstate : self.state = .synced)
    (h : FailsToSerialize self input) :
    (nimbleClientSendStepsToServer self input).result < 0 ∧
      (nimbleClientSendStepsToServer self input).client =
        (nimbleClientWriteHeader self (fldOutStreamInit L) input.stepsHeaderNow).1 ∧
      (nimbleClientSendStepsToServer self input).events =
        [.writeHeader self.remoteConnectionId] := by
  obtain ⟨hfits, hneg, hclient⟩ := @sendStepsToStream_of_fails L hcodes
    (nimbleClientWriteHeader self (fldOutStreamInit L) input.stepsHeaderNow).1
    (headerStream self input.stepsHeaderNow) <| by
      cases h with
      | pendingHeader _ hfails => exact Or.inl hfails
      | steps _ hheader hfails => exact Or.inr ⟨hheader, hfails⟩
      | blobStream hdownloading => exact absurd (hstate.symm.trans hdownloading) nofun
  have hcast := intCast_of_mem hfits (by omega)
  have heq : nimbleClientSendStepsToServer self input =
      if (sendStepsToStream (nimbleClientWriteHeader self (fldOutStreamInit L)
          input.stepsHeaderNow).1 (headerStream self input.stepsHeaderNow)).1 ≤ 0 then
        ⟨intCast (sendStepsToStream (nimbleClientWriteHeader self (fldOutStreamInit L)
            input.stepsHeaderNow).1 (headerStream self input.stepsHeaderNow)).1,
          (sendStepsToStream (nimbleClientWriteHeader self (fldOutStreamInit L)
            input.stepsHeaderNow).1 (headerStream self input.stepsHeaderNow)).2.1,
          [.writeHeader self.remoteConnectionId]⟩
      else ⟨_, _, _⟩ := rfl
  rw [heq, if_pos (Int.le_of_lt hneg)]
  dsimp only
  rw [hcast]
  exact ⟨hneg, hclient, rfl⟩

/-- The blob stream datagram is given up behind its command. -/
theorem outgoingMessage_of_fails {self : NimbleClient L} {input : OutgoingInput}
    (hstate : self.state = .joiningDownloadingState) (h : FailsToSerialize self input) :
    (outgoingMessage self input).result < 0 ∧
      ∃ logic, (outgoingMessage self input).client =
        { (nimbleClientWriteHeader self (fldOutStreamInit L) input.messageHeaderNow).1 with
          blobStreamInLogic := logic } := by
  cases h with
  | pendingHeader hsynced => exact absurd (hstate.symm.trans hsynced) nofun
  | steps hsynced => exact absurd (hstate.symm.trans hsynced) nofun
  | blobStream _ hfails =>
      rw [outgoingMessage, sendMessageUsingStream]
      rw [show (nimbleClientWriteHeader self (fldOutStreamInit L) input.messageHeaderNow).1.state =
        .joiningDownloadingState from hstate]
      dsimp only
      rw [sendBlobStreamCommands]
      dsimp only
      rw [if_pos]
      · exact ⟨hfails, _, rfl⟩
      · exact hfails

/-! ## Retrying -/

/-- `other` is the client as it was but for the logics, and it goes on with the same id. -/
def RetriesAs (ids : OrderedIds L) (self other : NimbleClient L) : Prop :=
  ∃ orderedDatagramOut blobStreamInLogic,
    other = { self with
      orderedDatagramOut := orderedDatagramOut
      blobStreamInLogic := blobStreamInLogic } ∧
    ids.currentId orderedDatagramOut = ids.current self

theorem retriesAs_nimbleClientWriteHeader (ids : OrderedIds L) (self : NimbleClient L)
    (now : MonotonicTimeMs) :
    RetriesAs ids self (nimbleClientWriteHeader self (fldOutStreamInit L) now).1 :=
  ⟨_, _, rfl, ids.currentId_prepare _ _⟩

/-- A call that fails to serialize returns an error, commits no id and hands the transport
nothing. It leaves the client as it was, so the header of a later call carries the same id. -/
theorem failed_serialization (ids : OrderedIds L) (hcodes : ErrorCodesFit L)
    (self : NimbleClient L) (input : OutgoingInput) (h : FailsToSerialize self input) :
    (nimbleClientOutgoing self input).result < 0 ∧
      sentOctets (nimbleClientOutgoing self input).events = [] ∧
      ids.committed (nimbleClientOutgoing self input).events = [] ∧
      RetriesAs ids self (nimbleClientOutgoing self input).client ∧
      ∀ now rest, ids.carriedId
        ((headerStream (nimbleClientOutgoing self input).client now).octets ++ rest) =
          ids.current self := by
  -- It is enough to look at `handleState`, whose error the call returns at once.
  suffices hhandled : (handleState self input).result < 0 ∧
      sentOctets (handleState self input).events = [] ∧
      ids.committed (handleState self input).events = [] ∧
      RetriesAs ids self (handleState self input).client by
    obtain ⟨hneg, hsent, hcommitted, hretries⟩ := hhandled
    have houtgoing : nimbleClientOutgoing self input = handleState self input := by
      rw [nimbleClientOutgoing]
      exact if_pos hneg
    rw [houtgoing]
    refine ⟨hneg, hsent, hcommitted, hretries, fun now rest => ?_⟩
    rw [carriedId_headerStream]
    obtain ⟨_, _, hclient, hcurrent⟩ := hretries
    rw [hclient]
    exact hcurrent
  have hstate : self.state = .synced ∨ self.state = .joiningDownloadingState := by
    cases h with
    | pendingHeader hstate => exact Or.inl hstate
    | steps hstate => exact Or.inl hstate
    | blobStream hstate => exact Or.inr hstate
  rw [handleState]
  rcases hstate with hstate | hstate
  · obtain ⟨hneg, hclient, hevents⟩ := nimbleClientSendStepsToServer_of_fails hcodes hstate h
    rw [hstate]
    dsimp only
    rw [if_pos hneg, hclient, hevents]
    exact ⟨hneg, rfl, rfl, retriesAs_nimbleClientWriteHeader ids self _⟩
  · obtain ⟨hneg, _, hclient⟩ := outgoingMessage_of_fails hstate h
    have hsent := sentOctets_outgoingMessage self input []
    have hcommitted := (@ids_outgoingMessage L ids self input []).1
    rw [List.append_nil] at hsent hcommitted
    rw [hstate]
    dsimp only
    rw [sendMessageDatagram_eq]
    dsimp only
    rw [if_pos hneg]
    refine ⟨hneg, hsent, hcommitted, ?_⟩
    rw [hclient]
    exact ⟨_, _, rfl, ids.currentId_prepare _ _⟩

/-! ## A run on fixed inputs -/

open Nimble.Small in
/-- The small implementation with datagrams of 24 octets, in which steps may find no room. -/
abbrev crampedLibraries : Libraries :=
  { smallLibraries with
    datagramTransportMaxSize := 24
    nbsStepsOutSerialize := fun s stream =>
      if stream.size < stream.pos + 5 + s.steps.flatten.length then ⟨-1, []⟩
      else ⟨s.steps.length,
        octetsOfUInt32 s.expectedReadId ++ UInt8.ofNat s.steps.length :: s.steps.flatten⟩ }

namespace Small

def crampedIds : OrderedIds crampedLibraries := { smallIds with }

/-- A synced client with a step that does not fit in a datagram. -/
def crampedClient : NimbleClient crampedLibraries :=
  { syncedRealizer.client with
    outSteps := ⟨10, [[1, 2, 3, 4]]⟩
    quality := { zeroQuality with } }

theorem errorCodesFit_crampedLibraries : ErrorCodesFit crampedLibraries where
  header _ _ _ := show (-2 ^ 31 : Int) ≤ 0 by decide
  steps s stream := by
    change -2 ^ 31 ≤ (if _ then (⟨-1, []⟩ : WriteResult) else ⟨s.steps.length, _⟩).code
    split
    · decide
    · exact Int.le_trans (by decide) (Int.natCast_nonneg _)

end Small

open Nimble.Small

/-- The step stays in the buffer, the id 4 is not committed, and nothing is sent. -/
theorem failed_serialization_cramped :
    sentOctets (nimbleClientOutgoing crampedClient sendInput).events = [] ∧
      RetriesAs crampedIds crampedClient (nimbleClientOutgoing crampedClient sendInput).client :=
  have h := failed_serialization crampedIds errorCodesFit_crampedLibraries crampedClient sendInput
    (.steps (by decide +kernel) (by decide +kernel) (by decide +kernel))
  ⟨h.2.1, h.2.2.2.1⟩

end Nimble
