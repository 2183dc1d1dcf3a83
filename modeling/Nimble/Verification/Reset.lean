import Nimble.Verification.Alike
import Nimble.Verification.Sessions

/-! # What a reset leaves of the session before

Two clients of the same setup that are reset are alike, but for the fields that no reset
writes. -/

namespace Nimble

variable {L : Libraries}

/-! ## The buffer of predicted steps -/

/-- What a step buffer becomes after it has been initialized, whatever is done with it. -/
inductive StepsFrom (memory : L.ImprintAllocator) (octetCount : Nat) : L.NbsSteps → Prop
  | init : StepsFrom memory octetCount (L.nbsStepsInit memory octetCount)
  | reset {steps : L.NbsSteps} (h : StepsFrom memory octetCount steps) :
      StepsFrom memory octetCount (L.nbsStepsReset steps)
  | reInit {steps : L.NbsSteps} (h : StepsFrom memory octetCount steps) (stepId : StepId) :
      StepsFrom memory octetCount (L.nbsStepsReInit steps stepId)
  | discardUpTo {steps : L.NbsSteps} (h : StepsFrom memory octetCount steps) (stepId : StepId) :
      StepsFrom memory octetCount (L.nbsStepsDiscardUpTo steps stepId)
  | write {steps : L.NbsSteps} (h : StepsFrom memory octetCount steps) (stepId : StepId)
      (octets : List UInt8) : StepsFrom memory octetCount (L.nbsStepsWrite steps stepId octets).2

section

variable {memory : L.ImprintAllocator} {octetCount : Nat}

theorem StepsFrom.congr {steps other : L.NbsSteps} (h : StepsFrom memory octetCount steps)
    (heq : other = steps) : StepsFrom memory octetCount other :=
  heq ▸ h

theorem StepsFrom.of_protocolState {a b : NimbleClient L}
    (h : StepsFrom memory octetCount a.outSteps) (heq : b.protocolState = a.protocolState) :
    StepsFrom memory octetCount b.outSteps :=
  h.congr (congrArg ProtocolState.outSteps heq)

theorem Dispatch.stepsFrom_outcome (x : Dispatch L)
    (h : StepsFrom memory octetCount x.client.outSteps) :
    StepsFrom memory octetCount x.outcome.2.outSteps := by
  have heffect := x.effect
  generalize x.outcome.2 = client at heffect ⊢
  cases heffect with
  | adoptBlob _ => exact h.reInit _
  | startDownload _ => exact h.reInit _
  | failSteps _ _ => exact h.discardUpTo _
  | takeSteps _ => exact h.discardUpTo _
  | _ => exact h

theorem stepsFrom_nimbleClientFeed {self : NimbleClient L}
    (h : StepsFrom memory octetCount self.outSteps) (datagram : Datagram L) :
    StepsFrom memory octetCount (nimbleClientFeed self datagram).2.outSteps := by
  cases hdispatch : dispatch? self datagram with
  | none => exact h.of_protocolState (protocolState_feed_of_dispatch_eq_none hdispatch)
  | some x =>
      rw [nimbleClientFeed_of_dispatch hdispatch]
      exact x.stepsFrom_outcome (h.of_protocolState (protocolState_of_dispatch hdispatch))

theorem stepsFrom_received {self : NimbleClient L}
    (h : StepsFrom memory octetCount self.outSteps) (input : UpdateInput L) :
    StepsFrom memory octetCount (self.received input).client.outSteps := by
  have hbegin := h.of_protocolState (protocolState_beginUpdate self input.now)
  exact @receiveLoop_invariant_of_guard _ (fun c => StepsFrom memory octetCount c.outSteps)
    (fun _ _ => True) (fun _ hc => hc) (fun _ hc => hc)
    (fun _ d hc _ => stepsFrom_nimbleClientFeed hc d) _ _ 0 hbegin
    (fun _ _ => trivial)

theorem stepsFrom_nimbleClientUpdate {self : NimbleClient L}
    (h : StepsFrom memory octetCount self.outSteps) (input : UpdateInput L) :
    StepsFrom memory octetCount (nimbleClientUpdate self input).client.outSteps := by
  have hreceived := stepsFrom_received h input
  by_cases hcut : self.IsCutShort input
  · rw [nimbleClientUpdate_of_cutShort hcut]
    exact hreceived
  · rw [nimbleClientUpdate_of_not_cutShort hcut]
    have hwatched :
        StepsFrom memory octetCount (watched (self.received input).client).outSteps := by
      rcases protocolState_watched (self.received input).client with hsame | ⟨_, hsame⟩
      · exact hreceived.of_protocolState hsame
      · exact hreceived.congr (congrArg ProtocolState.outSteps hsame)
    exact hwatched.of_protocolState (protocolState_finishUpdate _ _ _ input)

end

/-- The client predicts into a buffer that was initialized with its setup. -/
def NimbleClient.OwnsOutSteps (self : NimbleClient L) : Prop :=
  StepsFrom self.setup.memory self.setup.combinedStepOctetCount self.outSteps

theorem NimbleClient.OwnsOutSteps.reset {self : NimbleClient L} (h : self.OwnsOutSteps)
    (now : MonotonicTimeMs) : (nimbleClientReset self now).OwnsOutSteps := by
  rw [OwnsOutSteps]
  rw [setup_nimbleClientReset]
  rw [nimbleClientReset]
  dsimp only
  obtain ⟨_, _, hfree⟩ := freeGameState_eq _
  rw [hfree]
  exact StepsFrom.reset h

theorem NimbleClient.OwnsOutSteps.reInit {self : NimbleClient L} (h : self.OwnsOutSteps)
    (transport : L.DatagramTransport) (now : MonotonicTimeMs) :
    (nimbleClientReInit self transport now).OwnsOutSteps := by
  have htransport : { self with transport := transport }.OwnsOutSteps := h
  exact htransport.reset now

theorem ownsOutSteps_of_init {self : NimbleClient L} {setup : Setup L}
    (hsetup : self.setup.reset = setup)
    (hsteps : self.outSteps = L.nbsStepsInit setup.memory setup.combinedStepOctetCount) :
    self.OwnsOutSteps := by
  subst hsetup
  rw [Setup.memory_reset, Setup.combinedStepOctetCount_reset] at hsteps
  exact StepsFrom.init.congr hsteps

theorem ownsOutSteps_nimbleClientInit (self : NimbleClient L)
    (settings : NimbleClientRealizeSettings L) (now : MonotonicTimeMs) :
    (nimbleClientInit self settings now).OwnsOutSteps := by
  obtain ⟨placed, hinit, _, hsetup, hsteps, _⟩ := nimbleClientInit_eq_reset self settings now
  rw [hinit]
  exact (ownsOutSteps_of_init hsetup hsteps).reset now

theorem ownsOutSteps_nimbleClientUpdate {self : NimbleClient L} (h : self.OwnsOutSteps)
    (input : UpdateInput L) : (nimbleClientUpdate self input).client.OwnsOutSteps := by
  rw [NimbleClient.OwnsOutSteps]
  rw [setup_nimbleClientUpdate]
  exact stepsFrom_nimbleClientUpdate h input

theorem ownsOutSteps_updatedClient {self : NimbleClientRealize L}
    (h : self.client.OwnsOutSteps) (operation : Operation L) :
    (updatedClient self operation).OwnsOutSteps := by
  rw [updatedClient]
  cases clientUpdate? self operation with
  | none => exact h
  | some input => exact ownsOutSteps_nimbleClientUpdate h input

theorem ownsOutSteps_performOperation {self : NimbleClientRealize L}
    (h : self.client.OwnsOutSteps) (operation : Operation L) :
    (performOperation self operation).1.client.OwnsOutSteps := by
  cases operation with
  | realizeInit settings now => exact ownsOutSteps_nimbleClientInit self.client settings now
  | realizeReInit settings now => exact h.reInit settings.transport now
  | realizeReset now => exact h.reset now
  | reset now => exact h.reset now
  | reInit transport now => exact h.reInit transport now
  | update input => exact ownsOutSteps_nimbleClientUpdate h input
  | outgoing input =>
      have hsends := sendsTo_nimbleClientOutgoing self.client input
      unfold NimbleClient.OwnsOutSteps at h ⊢
      simp only [performOperation, NimbleClientRealize.withClient]
      rw [hsends.setup_eq]
      exact h.of_protocolState hsends.protocolState_eq
  | realizeUpdate input =>
      have howns := ownsOutSteps_updatedClient h (.realizeUpdate input)
      obtain ⟨_, _, _, hclient⟩ := client_realizeUpdate self input
      rw [hclient]
      exact howns
  | writeStep stepId octets => exact StepsFrom.write h stepId octets
  | _ => exact h

theorem Reachable.ownsOutSteps {self : NimbleClientRealize L} (h : Reachable self) :
    self.client.OwnsOutSteps :=
  @Reachable.invariant _ (fun r => r.client.OwnsOutSteps)
    (fun memory settings now => ownsOutSteps_nimbleClientInit memory.client settings now)
    (fun _ operation hself => ownsOutSteps_performOperation hself operation) _ h

/-! ## Resetting two clients -/

/-- Reset step buffers are as good as new. -/
structure BuffersForget (L : Libraries) : Prop where
  nbsStepsReset : ∀ (memory : L.ImprintAllocator) (octetCount : Nat) (steps : L.NbsSteps),
    StepsFrom memory octetCount steps →
      L.nbsStepsReset steps = L.nbsStepsReset (L.nbsStepsInit memory octetCount)
  nbsPendingStepsReset : ∀ pending : L.NbsPendingSteps,
    L.nbsPendingStepsReset pending 0 = L.nbsPendingStepsReset (L.nbsPendingStepsInit 0) 0

/-- What is left of a realizer and its client when the client is started over. -/
structure RealizeLeftovers (L : Libraries) where
  targetState : NimbleClientRealizeState
  state : NimbleClientRealizeState
  joinGameRequestNonce : NimbleSerializeNonce
  client : Leftovers L

def NimbleClientRealize.leftovers (self : NimbleClientRealize L) : RealizeLeftovers L where
  targetState := self.targetState
  state := self.state
  joinGameRequestNonce := self.joinGameRequestNonce
  client := self.client.leftovers

section

variable (hforget : BuffersForget L)
include hforget

theorem NimbleClient.OwnsOutSteps.resetBuffers_eq {self : NimbleClient L}
    (h : self.OwnsOutSteps) :
    self.resetBuffers =
      (L.nbsStepsReset (L.nbsStepsInit self.setup.memory self.setup.combinedStepOctetCount),
        L.nbsPendingStepsReset (L.nbsPendingStepsInit 0) 0) :=
  Prod.ext (hforget.nbsStepsReset _ _ _ h) (hforget.nbsPendingStepsReset _)

/-- Clients of the same setup whose leftovers agree are alike when they have been reset. -/
theorem alike_reset {a b : NimbleClient L} (ha : a.OwnsOutSteps) (hb : b.OwnsOutSteps)
    (hsetup : b.setup.reset = a.setup.reset) (hleftovers : b.leftovers = a.leftovers)
    (now now' : MonotonicTimeMs) : Alike (nimbleClientReset a now) (nimbleClientReset b now') := by
  have hmemory := congrArg Setup.memory hsetup
  have hcount := congrArg Setup.combinedStepOctetCount hsetup
  rw [Setup.memory_reset, Setup.memory_reset] at hmemory
  rw [Setup.combinedStepOctetCount_reset, Setup.combinedStepOctetCount_reset] at hcount
  refine alike_nimbleClientReset_of_leftovers hsetup hleftovers ?_ now now'
  rw [hb.resetBuffers_eq hforget, ha.resetBuffers_eq hforget, hmemory, hcount]

theorem alike_reInit {a b : NimbleClient L} (ha : a.OwnsOutSteps) (hb : b.OwnsOutSteps)
    (hsetup : b.setup = a.setup) (hleftovers : b.leftovers = a.leftovers)
    (transport : L.DatagramTransport) (now : MonotonicTimeMs) :
    Alike (nimbleClientReInit a transport now) (nimbleClientReInit b transport now) :=
  @alike_reset _ hforget { a with transport := transport } { b with transport := transport } ha hb
    (congrArg (fun setup : Setup L => { setup with transport := transport }.reset) hsetup)
    hleftovers now now

/-- Realizers of the same setup whose leftovers agree are alike when the same call has started
them over. -/
theorem alike_restart {a b : NimbleClientRealize L} (ha : a.client.OwnsOutSteps)
    (hb : b.client.OwnsOutSteps) (hsetup : b.client.setup = a.client.setup)
    (hleftovers : b.leftovers = a.leftovers) {restart : Operation L} (h : restart.Restarts) :
    AlikeRealizers (performOperation a restart).1 (performOperation b restart).1 := by
  have htarget := congrArg RealizeLeftovers.targetState hleftovers
  have hstate := congrArg RealizeLeftovers.state hleftovers
  have hnonce := congrArg RealizeLeftovers.joinGameRequestNonce hleftovers
  have hclient : b.client.leftovers = a.client.leftovers :=
    congrArg RealizeLeftovers.client hleftovers
  have hreset := alike_reset hforget ha hb (congrArg Setup.reset hsetup) hclient
  have hreInit := alike_reInit hforget ha hb hsetup hclient
  cases restart with
  | realizeInit settings now =>
      exact ⟨alike_nimbleClientInit_of_leftovers hclient settings now now, rfl, rfl, hnonce⟩
  | realizeReInit settings now => exact ⟨hreInit settings.transport now, rfl, rfl, hnonce⟩
  | realizeReset now => exact ⟨hreset now now, htarget, rfl, rfl⟩
  | reset now => exact ⟨hreset now now, htarget, hstate, hnonce⟩
  | reInit transport now => exact ⟨hreInit transport now, htarget, hstate, hnonce⟩
  | _ => exact h.elim

/-- A client that is reset is alike a client that is initialized with the same settings. -/
theorem alike_nimbleClientInit {self memory : NimbleClient L} (h : self.OwnsOutSteps)
    {settings : NimbleClientRealizeSettings L} (hsettings : settings.setup = self.setup.reset)
    (hleftovers : memory.leftovers = self.leftovers) (now now' : MonotonicTimeMs) :
    Alike (nimbleClientReset self now) (nimbleClientInit memory settings now') := by
  obtain ⟨placed, hinit, hkept, hsetup, hsteps, _⟩ :=
    nimbleClientInit_eq_reset memory settings now'
  rw [hinit]
  exact alike_reset hforget h (ownsOutSteps_of_init hsetup hsteps) (hsetup.trans hsettings)
    (hkept.trans hleftovers) now now'

end

/-! ## Observations -/

/-- What shows of a realizer now, and along a sequence of calls. -/
def observations (self : NimbleClientRealize L) (operations : List (Operation L)) :
    View × List (Answer L × View) :=
  (self.view, (observer L).outputs self operations)

theorem AlikeRealizers.observations_eq {a b : NimbleClientRealize L} (h : AlikeRealizers a b)
    (operations : List (Operation L)) : observations a operations = observations b operations :=
  Prod.ext h.view_eq.symm (h.outputs_eq operations)

/-- When the leftovers of two realizers with clients of the same setup agree, a call that starts
both over erases all other differences between their pasts, and a client that is reset is like
one that is initialized in memory with the same leftovers. -/
theorem reset_erases (hforget : BuffersForget L) {self : NimbleClientRealize L}
    (hself : Reachable self) :
    (∀ other restart continuation, Reachable other → other.client.setup = self.client.setup →
      other.leftovers = self.leftovers → restart.Restarts →
      observations (performOperation self restart).1 continuation =
        observations (performOperation other restart).1 continuation) ∧
    ∀ memory settings now now' continuation, settings.setup = self.client.setup →
      memory.leftovers = self.client.leftovers →
      observations (self.withClient (nimbleClientReset self.client now)) continuation =
        observations (self.withClient (nimbleClientInit memory settings now')) continuation := by
  constructor
  · intro other restart continuation hother hsetup hleftovers hrestart
    have halike := alike_restart hforget hself.ownsOutSteps hother.ownsOutSteps hsetup hleftovers
      hrestart
    exact halike.observations_eq continuation
  · intro memory settings now now' continuation hsettings hleftovers
    have hsetup : settings.setup = self.client.setup.reset := congrArg Setup.reset hsettings
    have halike := alike_nimbleClientInit hforget hself.ownsOutSteps hsetup hleftovers now now'
    have hrealizers : AlikeRealizers (self.withClient (nimbleClientReset self.client now))
        (self.withClient (nimbleClientInit memory settings now')) := ⟨halike, rfl, rfl, rfl⟩
    exact hrealizers.observations_eq continuation

/-! ## Two sessions in a row -/

open Nimble.Small

theorem buffersForget_smallLibraries : BuffersForget smallLibraries :=
  ⟨fun _ _ _ _ => rfl, fun _ => rfl⟩

/-- A realizer that has got this far into a session. -/
def firstSession (callCount : Nat) : NimbleClientRealize smallLibraries :=
  (realizer smallLibraries).run (freshRealizer 1) ((syncSession 10 5).take callCount)

theorem reachable_firstSession (callCount : Nat) : Reachable (firstSession callCount) :=
  ⟨_, _, _, _, rfl⟩

/-- Connects again and downloads the game state, on the channel of the first session. -/
def secondSession : List (Operation smallLibraries) :=
  [.realizeUpdate (updateWith []), .realizeUpdate (updateWith []),
    .realizeUpdate (updateWith [connectResponse 1]), .realizeUpdate (updateWith []),
    .realizeUpdate (updateWith [gameStateResponse 2 10 5]), .realizeUpdate (updateWith [])]

/-- Up to the answer to the download request, all leftovers have the values they started with. -/
theorem reset_erases_firstSession :
    (firstSession 3).client.state = .joiningRequestingState ∧
      observations (performOperation (firstSession 3) (.reset 0)).1 secondSession =
        observations (performOperation (firstSession 1) (.reset 0)).1 secondSession :=
  ⟨by decide +kernel, (reset_erases buffersForget_smallLibraries (reachable_firstSession 3)).1
    (firstSession 1) (.reset 0) secondSession (reachable_firstSession 1) rfl rfl trivial⟩

/-- A first session that got to its download leaves the channel behind: the second one drops the
answer to its request as a repetition. -/
theorem reset_erases_counterexample :
    Reachable (firstSession 5) ∧ Reachable (firstSession 1) ∧
      (firstSession 5).client.setup = (firstSession 1).client.setup ∧
      (firstSession 5).targetState = (firstSession 1).targetState ∧
      (firstSession 5).state = (firstSession 1).state ∧
      (firstSession 5).joinGameRequestNonce = (firstSession 1).joinGameRequestNonce ∧
      ((observations (performOperation (firstSession 5) (.reset 0)).1 secondSession).2.map
        fun seen => seen.2.state) =
        [.requestingConnect, .requestingConnect, .joiningRequestingState, .joiningRequestingState,
          .joiningRequestingState, .joiningRequestingState] ∧
      ((observations (performOperation (firstSession 1) (.reset 0)).1 secondSession).2.map
        fun seen => seen.2.state) =
        [.requestingConnect, .requestingConnect, .joiningRequestingState, .joiningRequestingState,
          .joiningDownloadingState, .joiningDownloadingState] :=
  ⟨reachable_firstSession 5, reachable_firstSession 1, rfl, by decide +kernel⟩

end Nimble
