import Mathlib.Data.List.Induction
import Nimble.Verification.FailedSends

/-! # The pace of requests

A client that waits for an answer repeats its request in every fifth update, and sends nothing
in between. -/

namespace Nimble

variable {L : Libraries}

/-! ## Requests -/

/-- The requests that a client repeats until they are answered. -/
inductive Request
  | connect
  | downloadState
  | joinGame

/-- The client waits for the answer to the request. -/
def Request.IsPendingFor (request : Request) (self : NimbleClient L) : Prop :=
  match request with
  | .connect => self.state = .requestingConnect
  | .downloadState => self.state = .joiningRequestingState
  | .joinGame => self.state = .synced ∧ self.joinParticipantPhase = .joiningParticipant

/-- The datagram with the request. -/
def Request.stream (request : Request) (self : NimbleClient L) (now : MonotonicTimeMs) :
    FldOutStream :=
  match request with
  | .connect => (sendConnectRequest self (headerStream self now)).stream
  | .downloadState => (sendStartDownloadStateRequest self (headerStream self now)).stream
  | .joinGame => (sendJoinGameRequest self (headerStream self now)).stream

/-- A header with a request behind it has more than 10 octets. -/
def RequestsExceedHeader (L : Libraries) : Prop :=
  ∀ (request : Request) (self : NimbleClient L) now, 10 < (request.stream self now).pos

theorem Request.IsPendingFor.congr {request : Request} {self other : NimbleClient L}
    (h : request.IsPendingFor self) (hsame : other.protocolState = self.protocolState) :
    request.IsPendingFor other := by
  have hstate : other.state = self.state := congrArg ProtocolState.state hsame
  have hphase : other.joinParticipantPhase = self.joinParticipantPhase :=
    congrArg ProtocolState.joinParticipantPhase hsame
  cases request with
  | connect => exact hstate.trans h
  | downloadState => exact hstate.trans h
  | joinGame => exact ⟨hstate.trans h.1, hphase.trans h.2⟩

theorem Request.IsPendingFor.not_quiet {request : Request} {self : NimbleClient L}
    (h : request.IsPendingFor self) : ¬(self.state = .idle ∨ self.state = .disconnected) := by
  cases request with
  | connect => simp [show self.state = .requestingConnect from h]
  | downloadState => simp [show self.state = .joiningRequestingState from h]
  | joinGame => simp [h.1]

/-- The message of such a client is the request, and it makes the client wait. -/
theorem outgoingMessage_of_pending {request : Request} {self : NimbleClient L}
    (h : request.IsPendingFor self) (input : OutgoingInput) :
    (outgoingMessage self input).result = 0 ∧
      (outgoingMessage self input).client.waitTime = 4 ∧
      (outgoingMessage self input).stream = request.stream self input.messageHeaderNow := by
  have hheader : (nimbleClientWriteHeader self (fldOutStreamInit L)
      input.messageHeaderNow).1.protocolState = self.protocolState := rfl
  have hpending := h.congr hheader
  rw [outgoingMessage, sendMessageUsingStream]
  cases request with
  | connect =>
      rw [show (nimbleClientWriteHeader self _ _).1.state = _ from hpending]
      exact ⟨rfl, rfl, rfl⟩
  | downloadState =>
      rw [show (nimbleClientWriteHeader self _ _).1.state = _ from hpending]
      exact ⟨rfl, rfl, rfl⟩
  | joinGame =>
      rw [show (nimbleClientWriteHeader self _ _).1.state = _ from hpending.1]
      dsimp only
      rw [updateSyncedSubState, hpending.2]
      exact ⟨rfl, rfl, rfl⟩

/-! ## Sending the request -/

theorem sendMessageDatagram_of_pending (hsizes : RequestsExceedHeader L) {request : Request}
    {self : NimbleClient L} (h : request.IsPendingFor self) (input : OutgoingInput) :
    sentOctets (sendMessageDatagram self input).events =
        [(request.stream self input.messageHeaderNow).octets] ∧
      (sendMessageDatagram self input).client.waitTime = 4 := by
  obtain ⟨hresult, hwait, hstream⟩ := outgoingMessage_of_pending h input
  have hsends : ¬(outgoingMessage self input).result < 0 := by omega
  constructor
  · have hpos := hsizes request self input.messageHeaderNow
    rw [← hstream] at hpos ⊢
    exact sentOctets_sendMessageDatagram_of_pos hpos hsends
  · rw [sendMessageDatagram_eq]
    dsimp only
    rw [if_neg hsends]
    split <;> exact hwait

/-- The client that puts the message of a call together: a synced client has sent its steps. -/
def messageSender (self : NimbleClient L) (input : OutgoingInput) : NimbleClient L :=
  if self.state = .synced then (nimbleClientSendStepsToServer self input).client else self

/-- The steps datagrams of a call. -/
def stepsDatagrams (self : NimbleClient L) (input : OutgoingInput) : List (List UInt8) :=
  if self.state = .synced then sentOctets (nimbleClientSendStepsToServer self input).events
  else []

theorem result_nimbleClientSendStepsToServer {self : NimbleClient L} {input : OutgoingInput}
    (h : SerializesSteps self input) (hsends : 0 ≤ input.stepsSendResult) :
    ¬(nimbleClientSendStepsToServer self input).result < 0 := by
  obtain ⟨hcode, _⟩ := @sendStepsToStream_of_serializes L
    (nimbleClientWriteHeader self (fldOutStreamInit L) input.stepsHeaderNow).1
    (headerStream self input.stepsHeaderNow) h.header h.steps
  have hnonneg : 0 ≤ (sendStepsToStream
      (nimbleClientWriteHeader self (fldOutStreamInit L) input.stepsHeaderNow).1
      (headerStream self input.stepsHeaderNow)).1 := by
    rw [hcode]
    exact h.steps
  unfold headerStream at hnonneg
  rw [nimbleClientSendStepsToServer]
  dsimp only
  split
  · have hzero : (sendStepsToStream
        (nimbleClientWriteHeader self (fldOutStreamInit L) input.stepsHeaderNow).1
        (nimbleClientWriteHeader self (fldOutStreamInit L) input.stepsHeaderNow).2).1 = 0 := by
      omega
    rw [hzero]
    exact Int.lt_irrefl 0
  · exact Int.not_lt.mpr hsends

/-- A call for a client that waits for an answer sends its steps and the request. -/
theorem handleState_of_pending (hsizes : RequestsExceedHeader L) {request : Request}
    {self : NimbleClient L} (h : request.IsPendingFor self) {input : OutgoingInput}
    (hserializes : ¬FailsToSerialize self input) (hsends : 0 ≤ input.stepsSendResult) :
    sentOctets (handleState self input).events = stepsDatagrams self input ++
        [(request.stream (messageSender self input) input.messageHeaderNow).octets] ∧
      (handleState self input).client.waitTime = 4 := by
  rw [handleState, stepsDatagrams, messageSender]
  by_cases hsynced : self.state = .synced
  · have hsame := (sendsTo_nimbleClientSendStepsToServer self input).protocolState_eq
    obtain ⟨hsent, hwait⟩ := sendMessageDatagram_of_pending hsizes (h.congr hsame) input
    have hsteps := result_nimbleClientSendStepsToServer
      (serializesSteps_of_not_fails hsynced hserializes) hsends
    rw [hsynced]
    dsimp only
    rw [if_neg hsteps, sentOctets_append, hsent, if_pos rfl, if_pos rfl]
    exact ⟨rfl, hwait⟩
  · obtain ⟨hsent, hwait⟩ := sendMessageDatagram_of_pending hsizes h input
    rw [if_neg hsynced, if_neg hsynced]
    cases request with
    | connect =>
        rw [show self.state = _ from h]
        exact ⟨hsent, hwait⟩
    | downloadState =>
        rw [show self.state = _ from h]
        exact ⟨hsent, hwait⟩
    | joinGame => exact absurd h.1 hsynced

theorem sendPackets_of_pending (hsizes : RequestsExceedHeader L) {request : Request}
    {self : NimbleClient L} (h : request.IsPendingFor self) {input : OutgoingInput}
    (hserializes : ¬FailsToSerialize self input) (hsends : 0 ≤ input.stepsSendResult) :
    sentOctets (sendPackets self input).events = stepsDatagrams self input ++
        [(request.stream (messageSender self input) input.messageHeaderNow).octets] ∧
      (sendPackets self input).client.waitTime = 4 := by
  obtain ⟨hsent, hwait⟩ := handleState_of_pending hsizes h hserializes hsends
  rw [sendPackets]
  rw [if_neg h.not_quiet, events_nimbleClientOutgoing, nimbleClientOutgoing]
  refine ⟨hsent, ?_⟩
  dsimp only
  split <;> exact hwait

/-! ## One update -/

/-- The handler of the datagram sets the wait time. -/
def Dispatch.SetsWaitTime (x : Dispatch L) : Prop :=
  x.Joins ∨ x.StartsDownload

theorem headerKeeps_waitTime : HeaderKeeps fun self : NimbleClient L => self.waitTime :=
  headerKeeps_of fun _ _ _ _ _ _ => rfl

theorem waitTime_nimbleClientFeed {self : NimbleClient L} {datagram : Datagram L}
    (h : ∀ x ∈ dispatch? self datagram, ¬x.SetsWaitTime) :
    (nimbleClientFeed self datagram).2.waitTime = self.waitTime := by
  cases hx : dispatch? self datagram with
  | none => exact headerKeeps_waitTime.of_dispatch_eq_none hx
  | some x =>
      have hkeeps : x.client.waitTime = self.waitTime := headerKeeps_waitTime.of_dispatch hx
      have hsets := h x hx
      have heffect := x.effect
      rw [nimbleClientFeed_of_dispatch hx]
      generalize x.outcome.2 = client at heffect ⊢
      cases heffect with
      | join h => exact absurd (Or.inl h) hsets
      | startDownload h => exact absurd (Or.inr h) hsets
      | _ => exact hkeeps

/-- An update that leaves the client waiting for the answer, without an error and without a
datagram whose handler sets the wait time. -/
structure Request.Undisturbed (request : Request) (client : NimbleClient L)
    (input : UpdateInput L) : Prop where
  pending : request.IsPendingFor (nimbleClientUpdate client input).client
  receives : ¬client.IsCutShort input
  keepsWaitTime : ∀ f ∈ feeds (beginUpdate client input.now) input.queue,
    ∀ x ∈ dispatch? f.1 f.2, ¬x.SetsWaitTime
  serializes : ¬FailsToSerialize (updateSender client input) input.outgoing
  sends : 0 ≤ input.outgoing.stepsSendResult

variable {request : Request}

theorem Request.Undisturbed.pending_updateSender {self : NimbleClient L} {input : UpdateInput L}
    (h : request.Undisturbed self input) : request.IsPendingFor (updateSender self input) := by
  have hsame : (updateSender self input).protocolState =
      (nimbleClientUpdate self input).client.protocolState := by
    rw [nimbleClientUpdate_of_not_cutShort h.receives, protocolState_finishUpdate,
      protocolState_updateSender]
  exact h.pending.congr hsame

theorem Request.Undisturbed.waitTime_updateSender {self : NimbleClient L}
    {input : UpdateInput L} (h : request.Undisturbed self input) :
    (updateSender self input).waitTime = self.waitTime := by
  have hbegin : (beginUpdate self input.now).waitTime = self.waitTime := by
    obtain ⟨_, _, _, _, hbegin⟩ := beginUpdate_eq self input.now
    rw [hbegin]
  have hreceived : (self.received input).client.waitTime = self.waitTime :=
    @receiveLoop_invariant_of_guard _ (fun c => c.waitTime = self.waitTime)
      (fun c d => ∀ x ∈ dispatch? c d, ¬x.SetsWaitTime) (fun _ hc => hc) (fun _ hc => hc)
      (fun _ _ hc hd => (waitTime_nimbleClientFeed hd).trans hc) _ _ 0 hbegin h.keepsWaitTime
  obtain ⟨_, _, hwatched⟩ := watched_eq (self.received input).client
  rw [Nimble.waitTime_updateSender, hwatched]
  exact hreceived

/-- What the update sends when it does not wait. -/
def Request.datagrams (request : Request) (self : NimbleClient L) (input : UpdateInput L) :
    List (List UInt8) :=
  stepsDatagrams (updateSender self input) input.outgoing ++
    [(request.stream (messageSender (updateSender self input) input.outgoing)
      input.outgoing.messageHeaderNow).octets]

theorem sentOctets_nimbleClientUpdate (hsizes : RequestsExceedHeader L) {self : NimbleClient L}
    {input : UpdateInput L} (h : request.Undisturbed self input) :
    sentOctets (nimbleClientUpdate self input).events =
      if 0 < self.waitTime then [] else request.datagrams self input := by
  have hwait := h.waitTime_updateSender
  split
  · rw [nimbleClientUpdate_of_waits h.receives (by omega)]
    rfl
  · rw [nimbleClientUpdate_of_sends h.receives (by omega)]
    exact (sendPackets_of_pending hsizes h.pending_updateSender h.serializes h.sends).1

theorem waitTime_nimbleClientUpdate (hsizes : RequestsExceedHeader L) {self : NimbleClient L}
    {input : UpdateInput L} (h : request.Undisturbed self input) :
    (nimbleClientUpdate self input).client.waitTime =
      if 0 < self.waitTime then self.waitTime - 1 else 4 := by
  have hwait := h.waitTime_updateSender
  split
  · rw [nimbleClientUpdate_of_waits h.receives (by omega)]
    change (watched (self.received input).client).waitTime - 1 = _
    rw [← Nimble.waitTime_updateSender, hwait]
  · rw [nimbleClientUpdate_of_sends h.receives (by omega)]
    exact (sendPackets_of_pending hsizes h.pending_updateSender h.serializes h.sends).2

/-! ## Runs of updates -/

/-- The client as a machine that is updated again and again. -/
def updates (L : Libraries) : Machine (NimbleClient L) (UpdateInput L) (UpdateOutcome L) where
  step self input := ((nimbleClientUpdate self input).client, nimbleClientUpdate self input)

/-- The wait time after `count` updates from a client that does not wait. -/
def waitTimeAfter (count : Nat) : Int := ((5 - count % 5 : Nat) % 5 : Nat)

theorem waitTime_run (hsizes : RequestsExceedHeader L) {start : NimbleClient L}
    (hstart : start.waitTime = 0)
    (inputs : List (UpdateInput L))
    (h : ∀ v ∈ (updates L).visits start inputs, request.Undisturbed v.1 v.2) :
    ((updates L).run start inputs).waitTime = waitTimeAfter inputs.length := by
  induction inputs using List.reverseRecOn with
  | nil => simp [hstart, waitTimeAfter]
  | append_singleton inputs input ih =>
      rw [Machine.visits_append] at h
      have hbefore := ih fun v hv => h v (List.mem_append_left _ hv)
      have hlast := h ((updates L).run start inputs, input)
        (List.mem_append_right _ List.mem_cons_self)
      rw [Machine.run_append]
      change (nimbleClientUpdate ((updates L).run start inputs) input).client.waitTime = _
      rw [waitTime_nimbleClientUpdate hsizes hlast, hbefore, List.length_append,
        List.length_singleton, waitTimeAfter, waitTimeAfter]
      split <;> omega

/-- The update sends the request. -/
def Request.IsSentBy (request : Request) (self : NimbleClient L) (input : UpdateInput L) :
    Bool :=
  (request.stream (messageSender (updateSender self input) input.outgoing)
    input.outgoing.messageHeaderNow).octets ∈ sentOctets (nimbleClientUpdate self input).events

theorem isSentBy_iff (hsizes : RequestsExceedHeader L) {self : NimbleClient L}
    {input : UpdateInput L}
    (h : request.Undisturbed self input) :
    request.IsSentBy self input = true ↔ self.waitTime ≤ 0 := by
  rw [Request.IsSentBy, decide_eq_true_iff, sentOctets_nimbleClientUpdate hsizes h]
  split
  · exact iff_of_false (List.not_mem_nil) (by omega)
  · exact iff_of_true (List.mem_append_right _ (List.mem_singleton.mpr rfl)) (by omega)

/-- In a run of undisturbed updates that starts with nothing to wait for, the first of every
five sends its steps and the request, and the others send nothing. -/
theorem request_pacing (hsizes : RequestsExceedHeader L) (request : Request) (start : NimbleClient L)
    (inputs : List (UpdateInput L)) (hstart : start.waitTime = 0)
    (h : ∀ v ∈ (updates L).visits start inputs, request.Undisturbed v.1 v.2) :
    (∀ before input after, inputs = before ++ input :: after →
      sentOctets (nimbleClientUpdate ((updates L).run start before) input).events =
        if before.length % 5 = 0 then request.datagrams ((updates L).run start before) input
        else []) ∧
    (updates L).countSteps request.IsSentBy start inputs = (inputs.length + 4) / 5 ∧
    ∀ before, before <+: inputs →
      0 ≤ ((updates L).run start before).waitTime ∧
        ((updates L).run start before).waitTime ≤ 4 := by
  -- The wait time on the way, which decides what each update sends.
  have hwait : ∀ before, before <+: inputs →
      ((updates L).run start before).waitTime = waitTimeAfter before.length := by
    rintro before ⟨after, rfl⟩
    rw [Machine.visits_append] at h
    exact waitTime_run hsizes hstart before fun v hv => h v (List.mem_append_left _ hv)
  refine ⟨?_, ?_, ?_⟩
  · rintro before input after rfl
    have hundisturbed := h ((updates L).run start before, input)
      (((updates L).mem_visits_iff _ _ _).mpr ⟨before, after, rfl, rfl⟩)
    have hbefore := hwait before ⟨input :: after, rfl⟩
    rw [sentOctets_nimbleClientUpdate hsizes hundisturbed, hbefore, waitTimeAfter]
    by_cases hfifth : before.length % 5 = 0
    · rw [if_pos hfifth, if_neg (by omega)]
    · rw [if_neg hfifth, if_pos (by omega)]
  · clear hwait
    induction inputs using List.reverseRecOn with
    | nil => simp
    | append_singleton inputs input ih =>
        rw [Machine.visits_append] at h
        have hbefore : ∀ v ∈ (updates L).visits start inputs, request.Undisturbed v.1 v.2 :=
          fun v hv => h v (List.mem_append_left _ hv)
        have hlast := h ((updates L).run start inputs, input)
          (List.mem_append_right _ List.mem_cons_self)
        have hwait := waitTime_run hsizes hstart inputs hbefore
        have hsent := isSentBy_iff hsizes hlast
        rw [hwait, waitTimeAfter] at hsent
        rw [Machine.countSteps_append_singleton, ih hbefore, List.length_append,
          List.length_singleton]
        split
        · have := hsent.mp ‹_›
          omega
        · have := mt hsent.mpr ‹_›
          omega
  · intro before hbegins
    rw [hwait before hbegins, waitTimeAfter]
    omega

/-! ## A run on fixed inputs -/

namespace Small

theorem requestsExceedHeader_smallLibraries : RequestsExceedHeader smallLibraries := by
  intro request self now
  cases request with
  | connect => exact headerSizes_smallLibraries.connectRequest self now _
  | downloadState => exact show 10 < 12 by decide
  | joinGame => exact headerSizes_smallLibraries.joinGameRequest self now _

/-- A client that is about to ask for a connection. -/
def connectingClient : NimbleClient smallLibraries :=
  ((realizer smallLibraries).run (freshRealizer 1) ((syncSession 10 5).take 2)).client

theorem state_watched_of_connecting {self : NimbleClient smallLibraries}
    (h : self.state = .requestingConnect) :
    (watched (self.received (updateWith [])).client).state = .requestingConnect := by
  have hreceived : (self.received (updateWith [])).client.state = .requestingConnect :=
    (state_beginUpdate self 0).trans h
  rw [watched_of_ne (by rw [hreceived]; decide), hreceived]

theorem undisturbed_of_connecting {self : NimbleClient smallLibraries}
    (h : self.state = .requestingConnect) :
    Request.connect.Undisturbed self (updateWith []) := by
  have hcut : ¬self.IsCutShort (updateWith []) := show ¬(0 : Int) < 0 by decide
  have hsender : (updateSender self (updateWith [])).state = .requestingConnect := by
    rw [state_updateSender]
    exact state_watched_of_connecting h
  have hpending : (nimbleClientUpdate self (updateWith [])).client.state = .requestingConnect := by
    rw [nimbleClientUpdate_of_not_cutShort hcut, state_finishUpdate]
    exact state_watched_of_connecting h
  have hserializes : ¬FailsToSerialize (updateSender self (updateWith [])) sendInput := by
    intro hfails
    cases hfails with
    | pendingHeader hstate => simp [hsender] at hstate
    | steps hstate => simp [hsender] at hstate
    | blobStream hstate => simp [hsender] at hstate
  exact ⟨hpending, hcut, fun f hf => absurd hf List.not_mem_nil, hserializes, Int.le_refl 0⟩

theorem undisturbed_of_mem_visits {self : NimbleClient smallLibraries}
    (h : self.state = .requestingConnect) (count : Nat) :
    ∀ v ∈ (updates smallLibraries).visits self (List.replicate count (updateWith [])),
      Request.connect.Undisturbed v.1 v.2 := by
  induction count generalizing self with
  | zero => simp
  | succ count ih =>
      rw [List.replicate_succ, Machine.visits_cons, List.forall_mem_cons]
      exact ⟨undisturbed_of_connecting h, ih (undisturbed_of_connecting h).pending⟩

end Small

open Nimble.Small

/-- Six updates without an answer send the request twice. -/
theorem request_pacing_connecting :
    (updates smallLibraries).countSteps Request.connect.IsSentBy connectingClient
      (List.replicate 6 (updateWith [])) = 2 :=
  (request_pacing requestsExceedHeader_smallLibraries .connect connectingClient
    (List.replicate 6 (updateWith [])) (by decide +kernel)
    (undisturbed_of_mem_visits (by decide +kernel) 6)).2.1

end Nimble
