import Nimble.Verification.PredictedSteps
import Nimble.Verification.TruthfulAcks

/-! # Clients that only watch

The application of a spectator reads steps and writes none. Its client has nothing to put in a
steps datagram, and once its join request is answered it has nothing to say at all. -/

namespace Nimble

variable {L : Libraries}

/-! ## The predicted steps of a spectator -/

/-- Steps come into the buffer by writing alone. -/
structure EmptiesSteps (L : Libraries) : Prop where
  reset : ∀ steps, L.stepsCount (L.nbsStepsReset steps) = 0
  reInit : ∀ steps stepId, L.stepsCount (L.nbsStepsReInit steps stepId) = 0
  discardUpTo : ∀ steps stepId,
    L.stepsCount (L.nbsStepsDiscardUpTo steps stepId) ≤ L.stepsCount steps

/-- The call adds a predicted step. -/
def Operation.WritesStep : Operation L → Prop
  | .writeStep _ _ => True
  | _ => False

/-- The client has no predicted steps. -/
def PredictsNothing (self : NimbleClient L) : Prop :=
  L.stepsCount self.outSteps = 0

theorem predictsNothing_nimbleClientReset (hlaws : EmptiesSteps L) (self : NimbleClient L)
    (now : MonotonicTimeMs) : PredictsNothing (nimbleClientReset self now) := by
  rw [PredictsNothing]
  unfold nimbleClientReset
  dsimp only
  obtain ⟨_, _, hfreed⟩ := freeGameState_eq _
  rw [hfreed]
  exact hlaws.reset _

theorem predictsNothing_nimbleClientFeed (hlaws : EmptiesSteps L) {self : NimbleClient L}
    (h : PredictsNothing self) (datagram : Datagram L) :
    PredictsNothing (nimbleClientFeed self datagram).2 := by
  rw [PredictsNothing] at h ⊢
  cases hx : dispatch? self datagram with
  | none =>
      have hsame : (nimbleClientFeed self datagram).2.outSteps = self.outSteps :=
        congrArg ProtocolState.outSteps (protocolState_feed_of_dispatch_eq_none hx)
      rw [hsame, h]
  | some x =>
      have hclient : x.client.outSteps = self.outSteps :=
        congrArg ProtocolState.outSteps (protocolState_of_dispatch hx)
      rw [nimbleClientFeed_of_dispatch hx]
      by_cases hadopts : x.AdoptsBlob
      · rw [x.outcome_of_adoptsBlob hadopts]
        exact hlaws.reInit _ _
      · rw [x.outSteps_outcome hadopts, hclient]
        split
        · exact hlaws.reInit _ _
        split
        · exact Nat.le_zero.mp (h ▸ hlaws.discardUpTo _ _)
        · exact h

/-- A feed or a read. -/
def BufferEvent.BringsNoStep : BufferEvent L → Prop
  | .feed _ _ => True
  | .read _ _ => True
  | _ => False

theorem predictsNothing_of_trace (hlaws : EmptiesSteps L) {buffers after : StepBuffers L}
    {events : List (BufferEvent L)} (htrace : Trace BufferStep buffers events after)
    (hquiet : ∀ event ∈ events, event.BringsNoStep)
    (h : L.stepsCount buffers.outSteps = 0) : L.stepsCount after.outSteps = 0 := by
  induction htrace with
  | nil => exact h
  | @cons s t u event events hstep _ ih =>
      rw [List.forall_mem_cons] at hquiet
      obtain ⟨hfinds, rfl⟩ := hstep
      apply ih hquiet.2
      cases event with
      | restart client => exact hquiet.1.elim
      | write client stepId octets => exact hquiet.1.elim
      | read client maxTarget =>
          obtain rfl : client.stepBuffers = s := hfinds
          exact h
      | feed client datagram =>
          obtain rfl : client.stepBuffers = s := hfinds
          exact predictsNothing_nimbleClientFeed hlaws h datagram

theorem predictsNothing_performOperation (hlaws : EmptiesSteps L) {self : NimbleClientRealize L}
    (h : PredictsNothing self.client) {operation : Operation L} (hwrites : ¬operation.WritesStep) :
    PredictsNothing (performOperation self operation).1.client := by
  have htrace := trace_performOperation self operation
  have hfeeds : ∀ event ∈ (operationFeeds self operation).map fun f => .feed f.1 f.2,
      BufferEvent.BringsNoStep event := by
    intro event hevent
    obtain ⟨f, _, rfl⟩ := List.mem_map.mp hevent
    trivial
  cases operation with
  | realizeInit settings now => exact predictsNothing_nimbleClientReset hlaws _ now
  | realizeReInit settings now => exact predictsNothing_nimbleClientReset hlaws _ now
  | realizeReset now => exact predictsNothing_nimbleClientReset hlaws _ now
  | reset now => exact predictsNothing_nimbleClientReset hlaws _ now
  | reInit transport now => exact predictsNothing_nimbleClientReset hlaws _ now
  | writeStep stepId octets => exact absurd trivial hwrites
  | readStep maxTarget =>
      exact predictsNothing_of_trace hlaws htrace
        (List.forall_mem_singleton.mpr trivial) h
  | _ => exact predictsNothing_of_trace hlaws htrace hfeeds h

/-! ## Silence -/

/-- With no steps to serialize there is no steps datagram. -/
theorem sentOctets_of_predictsNothing (hcounts : CountsSteps L) {self : NimbleClient L}
    (h : PredictsNothing self) (input : OutgoingInput) :
    sentOctets (nimbleClientSendStepsToServer self input).events = [] := by
  have hsteps : ∀ stream, (sendStepsToStream
      (nimbleClientWriteHeader self (fldOutStreamInit L) input.stepsHeaderNow).1 stream).1 ≤ 0 := by
    intro stream
    simp only [sendStepsToStream]
    split
    · omega
    · split
      · omega
      · exact hcounts.empty _ _ h
  rw [nimbleClientSendStepsToServer]
  dsimp only
  rw [if_pos (hsteps _)]
  rfl

/-- Behind the steps a synced client whose join request is answered sends a header alone, which
stays behind. -/
theorem sentOctets_sendMessageDatagram_of_answered (hsizes : HeaderSizes L)
    {self : NimbleClient L} (hstate : self.state = .synced)
    (hphase : self.joinParticipantPhase ≠ .joiningParticipant) (input : OutgoingInput) :
    sentOctets (sendMessageDatagram self input).events = [] := by
  have hmessage : ¬self.HasMessage := by simp [NimbleClient.HasMessage, hstate, hphase]
  have hpos : (outgoingMessage self input).stream.pos ≤ 10 :=
    Nat.not_lt.mp fun hlt => hmessage ((pos_outgoingMessage hsizes self input).mp hlt)
  have hresult := result_outgoingMessage_of_synced hstate input
  rw [sendMessageDatagram_eq]
  dsimp only
  rw [if_neg (by omega), if_pos hpos, sentOctets_outgoingMessage]
  rfl

/-- So a client without predicted steps sends nothing once its join request is answered. -/
theorem sentOctets_nimbleClientOutgoing_of_predictsNothing (hcounts : CountsSteps L)
    (hsizes : HeaderSizes L) {self : NimbleClient L} (h : PredictsNothing self)
    (hstate : self.state = .synced) (hphase : self.joinParticipantPhase ≠ .joiningParticipant)
    (input : OutgoingInput) : sentOctets (nimbleClientOutgoing self input).events = [] := by
  have hsteps := sentOctets_of_predictsNothing hcounts h input
  have hsame := (sendsTo_nimbleClientSendStepsToServer self input).protocolState_eq
  have hmessage := sentOctets_sendMessageDatagram_of_answered hsizes
    ((congrArg ProtocolState.state hsame).trans hstate)
    (fun hjoining => hphase ((congrArg ProtocolState.joinParticipantPhase hsame).symm.trans
      hjoining)) input
  rw [events_nimbleClientOutgoing, handleState, hstate]
  dsimp only
  split
  · exact hsteps
  · rw [sentOctets_append, hsteps, hmessage]
    rfl

/-! ## Runs -/

/-- The call sends no steps datagram, and nothing at all for a synced client whose join request is
answered. -/
def KeepsQuiet (call : NimbleClient L × OutgoingInput) : Prop :=
  sentOctets (nimbleClientSendStepsToServer call.1 call.2).events = [] ∧
    (call.1.state = .synced → call.1.joinParticipantPhase ≠ .joiningParticipant →
      sentOctets (nimbleClientOutgoing call.1 call.2).events = [])

theorem keepsQuiet_of_outgoingCall (hlaws : EmptiesSteps L) (hcounts : CountsSteps L)
    (hsizes : HeaderSizes L) {self : NimbleClientRealize L} (h : PredictsNothing self.client)
    {operation : Operation L} (hwrites : ¬operation.WritesStep)
    {call : NimbleClient L × OutgoingInput} (hcall : call ∈ outgoingCall? self operation) :
    KeepsQuiet call := by
  have hsender : PredictsNothing call.1 := by
    have hafter := predictsNothing_performOperation hlaws h hwrites
    have hbuffers := congrArg StepBuffers.outSteps (stepBuffers_of_outgoingCall hcall)
    exact (congrArg L.stepsCount hbuffers).symm.trans hafter
  exact ⟨sentOctets_of_predictsNothing hcounts hsender call.2, fun hstate hphase =>
    sentOctets_nimbleClientOutgoing_of_predictsNothing hcounts hsizes hsender hstate hphase call.2⟩

theorem keepsQuiet_of_mem_visits (hlaws : EmptiesSteps L) (hcounts : CountsSteps L)
    (hsizes : HeaderSizes L) {start : NimbleClientRealize L} (h : PredictsNothing start.client)
    {operations : List (Operation L)} (hwrites : ∀ operation ∈ operations, ¬operation.WritesStep) :
    ∀ v ∈ (realizer L).visits start operations, ∀ call ∈ outgoingCall? v.1 v.2,
      KeepsQuiet call := by
  have hguard : ∀ v ∈ (realizer L).visits start operations, ¬v.2.WritesStep :=
    fun v hv => hwrites v.2 (Machine.mem_of_mem_visits _ hv)
  have hvisits := @Machine.visits_invariant_of_guard _ _ _ (realizer L)
    (fun self => PredictsNothing self.client) (fun _ operation => ¬operation.WritesStep)
    (fun _ _ hself hop => predictsNothing_performOperation hlaws hself hop) start operations h
    hguard
  exact fun v hv call hcall =>
    keepsQuiet_of_outgoingCall hlaws hcounts hsizes (hvisits v hv) (hguard v hv) hcall

/-- A client whose application writes no steps never sends a steps datagram, and so never
acknowledges one. Once its join request is answered, the server hears nothing from it any more. -/
theorem spectator_is_silent (hlaws : EmptiesSteps L) (hcounts : CountsSteps L)
    (hsizes : HeaderSizes L) (memory : NimbleClientRealize L)
    (settings : NimbleClientRealizeSettings L) (now : MonotonicTimeMs)
    (operations : List (Operation L)) (h : ∀ operation ∈ operations, ¬operation.WritesStep) :
    ∀ v ∈ (realizer L).visits (nimbleClientRealizeInit memory settings now) operations,
      ∀ call ∈ outgoingCall? v.1 v.2, KeepsQuiet call :=
  keepsQuiet_of_mem_visits hlaws hcounts hsizes (predictsNothing_nimbleClientReset hlaws _ now) h

/-! ## A run on fixed inputs -/

open Nimble.Small

theorem emptiesSteps_smallLibraries : EmptiesSteps smallLibraries where
  reset _ := rfl
  reInit _ _ := rfl
  discardUpTo s _ := by
    change (s.discardUpTo _).steps.length ≤ s.steps.length
    simp [Steps.discardUpTo]

/-- The client that an update finds when its join request has been answered. -/
def spectatorCall : NimbleClient smallLibraries × OutgoingInput :=
  (outgoingCall? joinedRealizer (.realizeUpdate (updateWith []))).get (by decide +kernel)

theorem spectatorCall_mem :
    spectatorCall ∈ outgoingCall? joinedRealizer (.realizeUpdate (updateWith [])) :=
  Option.get_mem (by decide +kernel)

theorem spectator_is_silent_joined :
    sentOctets (nimbleClientOutgoing spectatorCall.1 spectatorCall.2).events = [] := by
  have hmem : (joinedRealizer, Operation.realizeUpdate (updateWith [])) ∈
      (realizer smallLibraries).visits (nimbleClientRealizeInit (realizeMemory ⟨1, []⟩) settings 0)
        (syncSession 10 5 ++ [.realizeUpdate (updateWith [joinResponse 4 3]),
          .realizeUpdate (updateWith [])]) := by
    apply (Machine.mem_visits_iff _ _ _ _).mpr
    exact ⟨syncSession 10 5 ++ [.realizeUpdate (updateWith [joinResponse 4 3])], [], rfl, rfl⟩
  have hsilent := spectator_is_silent emptiesSteps_smallLibraries countsSteps_smallLibraries
    headerSizes_smallLibraries (realizeMemory ⟨1, []⟩) settings 0 _
    (by simp [syncSession, Operation.WritesStep]) _ hmem spectatorCall spectatorCall_mem
  exact hsilent.2 (by decide +kernel) (by decide +kernel)

end Nimble
