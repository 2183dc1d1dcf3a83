import Mathlib.Data.List.Chain
import Mathlib.Logic.Relation
import Nimble.Verification.StepIntake

/-! # Phases and the commands they ask for

A command is solicited when the current phase has asked the server for it. The handlers check
less than that: an unsolicited command leaves the protocol state alone exactly when it is
harmless, and in runs without harmful feeds every feed and every move of the realizer takes the
state one phase further at most. -/

namespace Nimble

variable {L : Libraries}

/-! ## Solicited and harmless commands -/

/-- The phase of the client asks for a command. -/
def NimbleClient.Solicits (self : NimbleClient L) : NimbleSerializeCmd → Prop
  | .connectResponse => self.state = .requestingConnect
  | .gameStateResponse =>
    self.state = .joiningRequestingState ∨ self.state = .joiningDownloadingState
  | .serverOutBlobStream => self.state = .joiningDownloadingState
  | .gameStepResponse => self.state = .synced
  | .joinGameResponse => self.state = .synced ∧ self.joinParticipantPhase = .joiningParticipant
  | .joinGameOutOfParticipantSlotsResponse =>
    self.state = .synced ∧ self.joinParticipantPhase = .joiningParticipant
  | _ => False

instance (self : NimbleClient L) (cmd : NimbleSerializeCmd) : Decidable (self.Solicits cmd) :=
  match cmd with
  | .connectResponse => inferInstanceAs (Decidable (_ = _))
  | .gameStateResponse => inferInstanceAs (Decidable (_ ∨ _))
  | .serverOutBlobStream => inferInstanceAs (Decidable (_ = _))
  | .gameStepResponse => inferInstanceAs (Decidable (_ = _))
  | .joinGameResponse => inferInstanceAs (Decidable (_ ∧ _))
  | .joinGameOutOfParticipantSlotsResponse => inferInstanceAs (Decidable (_ ∧ _))
  | .clientOutBlobStream => inferInstanceAs (Decidable False)
  | .downloadGameStateRequest => inferInstanceAs (Decidable False)
  | .gameStep => inferInstanceAs (Decidable False)

def Dispatch.Solicited (x : Dispatch L) : Prop :=
  ∃ cmd, x.command = some cmd ∧ x.client.Solicits cmd

/-- The handler of an unsolicited command finds a reason of its own to leave the protocol state
alone. -/
def Dispatch.Harmless (order : StepOrder L) (window : Nat) (x : Dispatch L) : Prop :=
  match x.command with
  | some .gameStateResponse =>
    ¬x.client.AcceptsGameState (gameStateFields x.inStream x.locals)
  | some .serverOutBlobStream =>
    partChannelId x.inStream x.locals = x.client.joinStateChannel →
      x.client.CompletesBlob x.inStream → x.client.state = .synced
  | some .gameStepResponse =>
    x.AcknowledgesNothing order.contents ∧ (x.DecodesSteps → x.BringsNoStep order window)
  | some .joinGameResponse =>
    0 ≤ (joinFields x.inStream x.locals).1 → x.client.joinParticipantPhase ≠ .joiningParticipant
  | some .joinGameOutOfParticipantSlotsResponse =>
    0 ≤ (L.nimbleSerializeInNonce x.inStream).code →
      x.client.joinParticipantPhase = .outOfParticipantSlots
  | _ => True

/-! ## Exactly when an unsolicited command changes nothing -/

theorem protocolState_of_unsolicited_connectResponse {x : Dispatch L}
    (h : x.command = some .connectResponse) (hs : ¬x.Solicited) :
    x.outcome.2.protocolState = x.client.protocolState := by
  have hstate : x.client.state ≠ .requestingConnect := fun hstate => hs ⟨_, h, hstate⟩
  rw [Dispatch.outcome_connectResponse h, nimbleClientOnConnectResponse_snd,
    if_neg fun hc => hstate hc.2]

theorem protocolState_of_unsolicited_gameStateResponse {x : Dispatch L}
    (h : x.command = some .gameStateResponse) (hs : ¬x.Solicited) :
    x.outcome.2.protocolState = x.client.protocolState ↔
      ¬x.client.AcceptsGameState (gameStateFields x.inStream x.locals) := by
  have hstate : x.client.state ≠ .joiningDownloadingState :=
    fun hstate => hs ⟨_, h, Or.inr hstate⟩
  rw [Dispatch.outcome_gameStateResponse h, nimbleClientOnDownloadGameStateResponse_eq]
  split
  · refine iff_of_false (fun heq => ?_) (not_not.mpr ‹_›)
    exact hstate (congrArg ProtocolState.state heq).symm
  · exact iff_of_true rfl ‹_›

theorem protocolState_of_unsolicited_serverOutBlobStream {x : Dispatch L}
    (h : x.command = some .serverOutBlobStream) :
    x.outcome.2.protocolState = x.client.protocolState ↔
      (partChannelId x.inStream x.locals = x.client.joinStateChannel →
        x.client.CompletesBlob x.inStream → x.client.state = .synced) := by
  rw [Dispatch.outcome_serverOutBlobStream h, nimbleClientOnDownloadGameStatePart_snd]
  split
  · exact iff_of_true rfl fun hchannel => absurd hchannel ‹_›
  rename_i hchannel
  split
  · rename_i hcompletes
    constructor
    · intro heq _ _
      by_contra hsynced
      have hstate : (x.client.takePart x.inStream).2.state ≠ .synced := hsynced
      rw [trySetInitialGameState_of_ne hstate] at heq
      exact hsynced (congrArg ProtocolState.state heq).symm
    · intro hsynced
      have hstate : (x.client.takePart x.inStream).2.state = .synced :=
        hsynced (not_not.mp hchannel) hcompletes
      rw [trySetInitialGameState_of_synced hstate, protocolState_takePart]
  · exact iff_of_true (protocolState_takePart _ _) fun _ hcompletes => absurd hcompletes ‹_›

theorem protocolState_of_unsolicited_gameStepResponse {order : StepOrder L} {window : Nat}
    (hlaws : order.IntakeLaws window) {x : Dispatch L}
    (h : x.command = some .gameStepResponse) :
    x.outcome.2.protocolState = x.client.protocolState ↔
      x.AcknowledgesNothing order.contents ∧ (x.DecodesSteps → x.BringsNoStep order window) := by
  rw [Dispatch.outcome_gameStepResponse h, protocolState_nimbleClientOnGameStepResponse,
    ← hlaws.buffers_eq_iff]
  constructor
  · intro heq
    exact ⟨congrArg ProtocolState.outSteps heq,
      Prod.ext (congrArg ProtocolState.authoritativeStepsFromServer heq)
        (congrArg ProtocolState.authoritativePendingStepsFromServer heq)⟩
  · rintro ⟨hout, hbuffers⟩
    rw [hout, hbuffers]
    rfl

theorem protocolState_of_unsolicited_joinGameResponse {x : Dispatch L}
    (h : x.command = some .joinGameResponse) :
    x.outcome.2.protocolState = x.client.protocolState ↔
      (0 ≤ (joinFields x.inStream x.locals).1 →
        x.client.joinParticipantPhase ≠ .joiningParticipant) := by
  rw [Dispatch.outcome_joinGameResponse h, nimbleClientOnJoinGameResponse_snd]
  split
  · rename_i hjoin
    refine iff_of_false (fun heq => ?_) (fun hphase => hphase hjoin.1 hjoin.2)
    have hphase : NimbleJoiningState.joinedParticipant = x.client.joinParticipantPhase :=
      congrArg ProtocolState.joinParticipantPhase heq
    rw [hjoin.2] at hphase
    cases hphase
  · rename_i hjoin
    exact iff_of_true rfl fun hcode hphase => hjoin ⟨hcode, hphase⟩

theorem protocolState_of_unsolicited_outOfParticipantSlots {x : Dispatch L}
    (h : x.command = some .joinGameOutOfParticipantSlotsResponse) :
    x.outcome.2.protocolState = x.client.protocolState ↔
      (0 ≤ (L.nimbleSerializeInNonce x.inStream).code →
        x.client.joinParticipantPhase = .outOfParticipantSlots) := by
  rw [Dispatch.outcome_joinGameOutOfParticipantSlotsResponse h,
    nimbleClientOnJoinGameParticipantOutOfSpaceResponse_snd]
  split
  · rename_i hcode
    constructor
    · intro heq _
      exact (congrArg ProtocolState.joinParticipantPhase heq).symm
    · intro hphase
      rw [← hphase hcode]
  · exact iff_of_true rfl fun hcode => absurd hcode ‹_›

/-- An unsolicited command leaves the protocol state as it is exactly when it is harmless. -/
theorem protocolState_outcome_of_unsolicited {order : StepOrder L} {window : Nat}
    (hlaws : order.IntakeLaws window) (x : Dispatch L) (hs : ¬x.Solicited) :
    x.outcome.2.protocolState = x.client.protocolState ↔ x.Harmless order window := by
  rcases x.command_cases with h | h | h | h | h | h | h
  · exact iff_of_true (protocolState_of_unsolicited_connectResponse h hs)
      (by simp only [Dispatch.Harmless, h])
  · simpa only [Dispatch.Harmless, h] using protocolState_of_unsolicited_serverOutBlobStream h
  · simpa only [Dispatch.Harmless, h] using protocolState_of_unsolicited_gameStepResponse hlaws h
  · simpa only [Dispatch.Harmless, h] using protocolState_of_unsolicited_joinGameResponse h
  · simpa only [Dispatch.Harmless, h] using protocolState_of_unsolicited_gameStateResponse h hs
  · simpa only [Dispatch.Harmless, h] using protocolState_of_unsolicited_outOfParticipantSlots h
  · refine iff_of_true (by rw [h.2]) ?_
    rw [Dispatch.Harmless]
    split <;> first | trivial | cases h.1 _ ‹_›

/-! ## Moving along the phases -/

/-- The order of the phases, and the way out of each of them. -/
inductive StateMove : NimbleClientState → NimbleClientState → Prop
  | request : StateMove .idle .requestingConnect
  | connect : StateMove .requestingConnect .connected
  | requestState : StateMove .connected .joiningRequestingState
  | download : StateMove .joiningRequestingState .joiningDownloadingState
  | sync : StateMove .joiningDownloadingState .synced
  | disconnect (s : NimbleClientState) : StateMove s .disconnected

/-- One move, or none. -/
abbrev StateStep : NimbleClientState → NimbleClientState → Prop :=
  Relation.ReflGen StateMove

theorem StateStep.of_eq {s t : NimbleClientState} (h : t = s) : StateStep s t :=
  h ▸ Relation.ReflGen.refl

/-- A synced client can only be disconnected, which is final. -/
theorem StateStep.synced_or_disconnected {s t : NimbleClientState} (hstep : StateStep s t)
    (h : s = .synced ∨ s = .disconnected) : t = .synced ∨ t = .disconnected := by
  cases hstep with
  | refl => exact h
  | single hmove => rcases h with rfl | rfl <;> cases hmove <;> exact Or.inr rfl

section

variable (order : StepOrder L) (window : Nat)

/-- A feed whose command, if it dispatches one, is solicited or harmless. -/
def Gated (self : NimbleClient L) (datagram : Datagram L) : Prop :=
  ∀ x, dispatch? self datagram = some x → x.Solicited ∨ x.Harmless order window

variable {order window}

theorem Dispatch.step_outcome {x : Dispatch L} (h : x.Solicited ∨ x.Harmless order window) :
    StateStep x.client.state x.outcome.2.state := by
  rcases x.state_outcome with heq | ⟨hc, heq⟩ | ⟨hd, heq⟩ | ⟨ha, heq⟩
  · exact StateStep.of_eq heq
  · rw [heq, hc.2.2]
    exact Relation.ReflGen.single .connect
  · rw [heq]
    rcases h with ⟨cmd, hcmd, hsolicits⟩ | hharmless
    · obtain rfl := Option.some.inj (hd.1.symm.trans hcmd)
      rcases hsolicits with hstate | hstate
      · rw [hstate]
        exact Relation.ReflGen.single .download
      · rw [hstate]
    · simp only [Harmless, hd.1] at hharmless
      exact absurd hd.2 hharmless
  · rw [heq]
    rcases h with ⟨cmd, hcmd, hsolicits⟩ | hharmless
    · obtain rfl := Option.some.inj (ha.1.1.symm.trans hcmd)
      have hstate : x.client.state = .joiningDownloadingState := hsolicits
      rw [hstate]
      exact Relation.ReflGen.single .sync
    · simp only [Harmless, ha.1.1] at hharmless
      exact absurd (hharmless ha.1.2 ha.2.1) ha.2.2

theorem step_nimbleClientFeed {self : NimbleClient L} {datagram : Datagram L}
    (h : Gated order window self datagram) :
    StateStep self.state (nimbleClientFeed self datagram).2.state := by
  cases hd : dispatch? self datagram with
  | none =>
      exact StateStep.of_eq
        (congrArg ProtocolState.state (protocolState_feed_of_dispatch_eq_none hd))
  | some x =>
      have hclient : x.client.state = self.state :=
        congrArg ProtocolState.state (protocolState_of_dispatch hd)
      rw [nimbleClientFeed_of_dispatch hd, ← hclient]
      exact x.step_outcome (h x hd)

theorem step_watched (self : NimbleClient L) : StateStep self.state (watched self).state := by
  rcases protocolState_watched self with h | ⟨_, h⟩
  · exact StateStep.of_eq (congrArg ProtocolState.state h)
  · have hstate : (watched self).state = .disconnected := congrArg ProtocolState.state h
    rw [hstate]
    exact Relation.ReflGen.single (.disconnect _)

theorem step_followTarget (self : NimbleClientRealize L) :
    StateStep self.client.state (followTarget self).client.state := by
  have hmove := targetMove_followTarget self
  generalize followTarget self = after at hmove ⊢
  cases hmove with
  | requestConnect _ hclient =>
      rw [hclient]
      exact Relation.ReflGen.single .request
  | requestState _ hclient =>
      rw [hclient]
      exact Relation.ReflGen.single .requestState
  | _ => exact Relation.ReflGen.refl

/-! ## The states of a call -/

/-- The states around each of these feeds. -/
def feedStates (fed : List (NimbleClient L × Datagram L)) : List NimbleClientState :=
  fed.flatMap fun f => [f.1.state, (nimbleClientFeed f.1 f.2).2.state]

/-- The states a client goes through in a call: where it starts, around each feed, behind the
update, and where the call leaves it. -/
def statesDuring (self : NimbleClientRealize L) (operation : Operation L) :
    List NimbleClientState :=
  self.client.state :: (feedStates (operationFeeds self operation) ++
    [(updatedClient self operation).state, (performOperation self operation).1.client.state])

/-- The states around the feeds of a receive loop, before the states that follow it. -/
theorem isChain_feedStates {self : NimbleClient L} {queue : List (Received L)} (count : Nat)
    {states : List NimbleClientState} (h : ∀ f ∈ feeds self queue, Gated order window f.1 f.2)
    (hstates : ((receiveLoop self count queue).client.state :: states).IsChain StateStep) :
    (self.state :: (feedStates (feeds self queue) ++ states)).IsChain StateStep := by
  induction queue generalizing self count with
  | nil => exact hstates
  | cons received queue ih =>
      cases received with
      | error code => exact hstates
      | datagram datagram =>
          by_cases hoctets : datagram.octets = []
          · rw [receiveLoop_of_empty hoctets] at hstates
            rwa [feeds_of_empty hoctets]
          rw [feeds_datagram hoctets, List.forall_mem_cons] at h
          rw [receiveLoop_datagram hoctets] at hstates
          rw [feeds_datagram hoctets, feedStates, List.flatMap_cons]
          refine List.isChain_cons_cons.mpr ⟨Relation.ReflGen.refl,
            List.isChain_cons_cons.mpr ⟨step_nimbleClientFeed h.1, ?_⟩⟩
          split
          · rwa [if_pos ‹_›] at hstates
          · rw [if_neg ‹_›] at hstates h
            exact ih _ h.2 hstates

theorem step_updated {self : NimbleClient L} {input : UpdateInput L} :
    StateStep (self.received input).client.state (nimbleClientUpdate self input).client.state := by
  by_cases hcut : self.IsCutShort input
  · rw [nimbleClientUpdate_of_cutShort hcut]
  · rw [nimbleClientUpdate_of_not_cutShort hcut, state_finishUpdate]
    exact step_watched _

theorem isChain_updatedStates {self : NimbleClientRealize L} {operation : Operation L}
    {states : List NimbleClientState}
    (h : ∀ f ∈ operationFeeds self operation, Gated order window f.1 f.2)
    (hstates : ((updatedClient self operation).state :: states).IsChain StateStep) :
    (self.client.state :: (feedStates (operationFeeds self operation) ++
      (updatedClient self operation).state :: states)).IsChain StateStep := by
  cases hinput : clientUpdate? self operation with
  | none =>
      rw [updatedClient_of_no_update hinput] at hstates ⊢
      rw [operationFeeds, hinput]
      exact List.isChain_cons_cons.mpr ⟨Relation.ReflGen.refl, hstates⟩
  | some input =>
      rw [updatedClient_of_update hinput] at hstates ⊢
      rw [operationFeeds, hinput] at h ⊢
      rw [← state_beginUpdate self.client input.now]
      exact isChain_feedStates 0 h (List.isChain_cons_cons.mpr ⟨step_updated, hstates⟩)

/-- Behind its update, a call that does not start the client over makes one move at most. -/
theorem step_performOperation (self : NimbleClientRealize L) {operation : Operation L}
    (h : ¬operation.Restarts) :
    StateStep (updatedClient self operation).state
      (performOperation self operation).1.client.state := by
  cases operation with
  | realizeInit settings now => exact absurd trivial h
  | realizeReInit settings now => exact absurd trivial h
  | realizeReset now => exact absurd trivial h
  | reset now => exact absurd trivial h
  | reInit transport now => exact absurd trivial h
  | realizeQuitGame => exact Relation.ReflGen.single (.disconnect _)
  | disconnect => exact Relation.ReflGen.single (.disconnect _)
  | outgoing input =>
      exact StateStep.of_eq (congrArg ProtocolState.state
        (sendsTo_nimbleClientOutgoing self.client input).protocolState_eq)
  | realizeJoinGame options => exact Relation.ReflGen.refl
  | readStep maxTarget => exact Relation.ReflGen.refl
  | writeStep stepId octets => exact Relation.ReflGen.refl
  | update input => exact Relation.ReflGen.refl
  | realizeUpdate input =>
      change StateStep _ (nimbleClientRealizeUpdate self input).realize.client.state
      by_cases hdisconnected : self.client.state = .disconnected
      · have hnone : clientUpdate? self (.realizeUpdate input) = none :=
          if_neg fun hc => hc.1 hdisconnected
        rw [nimbleClientRealizeUpdate_of_disconnected hdisconnected,
          updatedClient_of_no_update hnone]
      by_cases hupdates : self.UpdatesClient
      · have hsome : clientUpdate? self (.realizeUpdate input) = some input :=
          if_pos ⟨hdisconnected, hupdates⟩
        rw [nimbleClientRealizeUpdate_of_updates ⟨hdisconnected, hupdates⟩,
          updatedClient_of_update hsome]
        exact step_followTarget (self.withClient (nimbleClientUpdate self.client input).client)
      · have hnone : clientUpdate? self (.realizeUpdate input) = none :=
          if_neg fun hc => hupdates hc.2
        rw [nimbleClientRealizeUpdate_of_not_updates hdisconnected hupdates,
          updatedClient_of_no_update hnone]
        exact step_followTarget self

/-- What a call may do to the client's state: start over in `idle`, or go through its states
with one move at most from each to the next. -/
def OperationMoves (self : NimbleClientRealize L) (operation : Operation L) : Prop :=
  operation.Restarts ∧ (performOperation self operation).1.client.state = .idle ∨
    ¬operation.Restarts ∧ (statesDuring self operation).IsChain StateStep

theorem operationMoves_performOperation {self : NimbleClientRealize L} {operation : Operation L}
    (h : ∀ f ∈ operationFeeds self operation, Gated order window f.1 f.2) :
    OperationMoves self operation := by
  by_cases hrestarts : operation.Restarts
  · refine Or.inl ⟨hrestarts, ?_⟩
    cases operation with
    | realizeInit settings now => exact state_nimbleClientReset _ now
    | realizeReInit settings now => exact state_nimbleClientReset _ now
    | realizeReset now => exact state_nimbleClientReset _ now
    | reset now => exact state_nimbleClientReset _ now
    | reInit transport now => exact state_nimbleClientReset _ now
    | _ => exact hrestarts.elim
  · exact Or.inr ⟨hrestarts,
      isChain_updatedStates h (List.isChain_pair.mpr (step_performOperation self hrestarts))⟩

/-- Once synced, a call that does not start the client over can only disconnect it. -/
theorem OperationMoves.of_synced {self : NimbleClientRealize L} {operation : Operation L}
    (h : OperationMoves self operation) (hsynced : self.client.state = .synced)
    (hrestarts : ¬operation.Restarts) :
    ∀ state ∈ statesDuring self operation, state = .synced ∨ state = .disconnected := by
  rcases h with ⟨hr, _⟩ | ⟨_, hchain⟩
  · exact absurd hr hrestarts
  · exact hchain.induction _ _ (fun _ _ hstep => hstep.synced_or_disconnected)
      fun _ => Or.inl hsynced

/-- An unsolicited command leaves the protocol state alone exactly when it is harmless, for
every client; and in a run all of whose feeds are solicited or harmless, every feed and every
move of the realizer takes the state along one edge of the phases at most. -/
theorem phase_gating (order : StepOrder L) (window : Nat) (hlaws : order.IntakeLaws window)
    (start : NimbleClientRealize L) (operations : List (Operation L)) :
    (∀ (client : NimbleClient L) (datagram : Datagram L) (x : Dispatch L),
      dispatch? client datagram = some x → ¬x.Solicited →
        ((nimbleClientFeed client datagram).2.protocolState = client.protocolState ↔
          x.Harmless order window)) ∧
    ((∀ v ∈ (realizer L).visits start operations,
        ∀ f ∈ operationFeeds v.1 v.2, Gated order window f.1 f.2) →
      ∀ v ∈ (realizer L).visits start operations,
        OperationMoves v.1 v.2 ∧
        (v.1.client.state = .synced → ¬v.2.Restarts →
          ∀ state ∈ statesDuring v.1 v.2, state = .synced ∨ state = .disconnected) ∧
        ∀ f ∈ operationFeeds v.1 v.2,
          Relation.ReflGen StateMove f.1.state (nimbleClientFeed f.1 f.2).2.state ∧
          ∀ x, dispatch? f.1 f.2 = some x → ¬x.Solicited →
            (nimbleClientFeed f.1 f.2).2.protocolState = f.1.protocolState) := by
  have hiff : ∀ (client : NimbleClient L) (datagram : Datagram L) (x : Dispatch L),
      dispatch? client datagram = some x → ¬x.Solicited →
        ((nimbleClientFeed client datagram).2.protocolState = client.protocolState ↔
          x.Harmless order window) := by
    intro client datagram x hx hs
    rw [nimbleClientFeed_of_dispatch hx, ← protocolState_of_dispatch hx]
    exact protocolState_outcome_of_unsolicited hlaws x hs
  refine ⟨hiff, fun hgated v hv => ?_⟩
  have hmoves := operationMoves_performOperation (hgated v hv)
  refine ⟨hmoves, hmoves.of_synced, fun f hf => ⟨step_nimbleClientFeed (hgated v hv f hf), ?_⟩⟩
  intro x hx hs
  exact (hiff f.1 f.2 x hx hs).mpr ((hgated v hv f hf x hx).resolve_left hs)

end

/-! ## Runs on fixed inputs -/

/-- Whether a feed dispatches a solicited command, if any. -/
def solicitedFeed (self : NimbleClient L) (datagram : Datagram L) : Bool :=
  (dispatch? self datagram).all fun x => x.command.any fun cmd => x.client.Solicits cmd

theorem gated_of_solicitedFeed {order : StepOrder L} {window : Nat} {self : NimbleClient L}
    {datagram : Datagram L} (h : solicitedFeed self datagram = true) :
    Gated order window self datagram := by
  intro x hx
  simp only [solicitedFeed, hx, Option.all_some, Option.any_eq_true, decide_eq_true_eq] at h
  exact Or.inl h

namespace Reordering

/-- The download and its chunk. -/
def syncSession : List (Operation reorderingLibraries) :=
  downloadSession 10 ++ [update [Small.blobPart 3 5 0 0xaa]]

end Reordering

open Reordering in
/-- A session without retransmissions has solicited feeds only, and its last call moves from
downloading to synced, with a single move at the chunk. -/
theorem phase_gating_syncSession :
    OperationMoves downloadingRealizer (update [Small.blobPart 3 5 0 0xaa]) := by
  have hsolicited : ((realizer reorderingLibraries).visits freshRealizer syncSession).all
      (fun v => (operationFeeds v.1 v.2).all fun f => solicitedFeed f.1 f.2) = true := by
    decide +kernel
  simp only [List.all_eq_true] at hsolicited
  exact ((phase_gating stepOrder EarlySteps.window intakeLaws_stepOrder freshRealizer
    syncSession).2 (fun v hv f hf => gated_of_solicitedFeed (hsolicited v hv f hf)) (_, _)
    (((realizer reorderingLibraries).mem_visits_iff _ _ _).mpr
      ⟨downloadSession 10, [], rfl, rfl⟩)).1

open Nimble.Small

/-- The server answers the download request a second time, as it does when the request was sent
twice. The join has cleared `joinStateChannel`, so the synced client downloads again. -/
theorem phase_gating_counterexample :
    Reachable joinedRealizer ∧ joinedRealizer.client.state = .synced ∧
      (dispatch? joinedRealizer.client (gameStateResponse 5 10 5)).map Dispatch.command =
        some (some .gameStateResponse) ∧
      ¬joinedRealizer.client.Solicits .gameStateResponse ∧
      (nimbleClientFeed joinedRealizer.client (gameStateResponse 5 10 5)).2.state =
        .joiningDownloadingState := by
  refine ⟨reachable_joinedRealizer, ?_⟩
  decide

end Nimble
