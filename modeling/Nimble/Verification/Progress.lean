import Nimble.Verification.FeedTrace
import Nimble.Verification.Phases

/-! # The way to a synced client

Whatever the network does in between, a realizer that wants to be synced needs no more than four
updates that are fed the answer they wait for. -/

namespace Nimble

variable {L : Libraries}

/-! ## Answered updates -/

/-- The answer that a client in this state waits for: a connect response that decodes, a game state
response to its request on a channel other than the one it holds, or the part on its channel that
completes the blob. -/
def Dispatch.IsAnswerIn (x : Dispatch L) : NimbleClientState → Prop
  | .requestingConnect =>
    x.command = some .connectResponse ∧ 0 ≤ (connectFields x.inStream x.locals).1
  | .joiningRequestingState =>
    x.command = some .gameStateResponse ∧
      x.client.AcceptsGameState (gameStateFields x.inStream x.locals)
  | .joiningDownloadingState => x.TakesPart ∧ x.client.CompletesBlob x.inStream
  | _ => False

instance (x : Dispatch L) (state : NimbleClientState) : Decidable (x.IsAnswerIn state) :=
  match state with
  | .requestingConnect => inferInstanceAs (Decidable (_ ∧ _))
  | .joiningRequestingState => inferInstanceAs (Decidable (_ ∧ _))
  | .joiningDownloadingState => inferInstanceAs (Decidable (_ ∧ _))
  | .idle => inferInstanceAs (Decidable False)
  | .connected => inferInstanceAs (Decidable False)
  | .synced => inferInstanceAs (Decidable False)
  | .disconnected => inferInstanceAs (Decidable False)

/-- The datagram is newer than those before it and is such an answer. -/
def answers (state : NimbleClientState) (f : NimbleClient L × Datagram L) : Bool :=
  (dispatch? f.1 f.2).any fun x => x.IsAnswerIn state

/-- The datagram makes the client download another game state. -/
def restartsDownload (f : NimbleClient L × Datagram L) : Bool := startsDownload f.1 f.2

/-- The call is an update of the realizer that is fed what the client waits for: the answer, which
no further download follows, or nothing but the update itself. -/
def Answered (self : NimbleClientRealize L) : Operation L → Bool
  | .realizeUpdate input =>
    let fed := operationFeeds self (.realizeUpdate input)
    match self.client.state with
    | .idle => true
    | .requestingConnect => fed.any (answers .requestingConnect)
    | .connected => true
    | .joiningRequestingState => fed.any (answers .joiningRequestingState)
    | .joiningDownloadingState => fed.tails.any fun
      | [] => false
      | f :: later => answers .joiningDownloadingState f && later.all (!restartsDownload ·)
    | .synced => fed.all (!restartsDownload ·)
    | .disconnected => false
  | _ => false

/-- The answered updates that a realizer needs at most. -/
def NimbleClientState.remaining : NimbleClientState → Nat
  | .idle => 4
  | .requestingConnect => 3
  | .connected => 3
  | .joiningRequestingState => 2
  | .joiningDownloadingState => 1
  | .synced => 1
  | .disconnected => 0

/-- The realizer has got where it was going, or the session has ended. -/
def NimbleClientRealize.HasArrived (self : NimbleClientRealize L) : Prop :=
  self.state = .synced ∧ self.client.state = .synced ∨ self.client.state = .disconnected

/-- On the way to a synced client. A realizer that counts as synced no longer moves its client,
which needs no move any more. -/
structure NimbleClientRealize.IsUnderWay (realize : NimbleClientRealize L) : Prop where
  target : realize.targetState = .synced
  runs : realize.state ≠ .cleared
  follows : realize.state = .synced → 4 ≤ realize.client.state.rank
  connected : realize.client.state ≠ .disconnected

theorem remaining_le_of_rank_le {s t : NimbleClientState} (h : s.rank ≤ t.rank) :
    t.remaining ≤ s.remaining := by
  cases s <;> cases t <;> simp_all [NimbleClientState.rank, NimbleClientState.remaining]

theorem remaining_pos {s : NimbleClientState} (h : s ≠ .disconnected) : 0 < s.remaining := by
  cases s <;> simp_all [NimbleClientState.remaining]

/-! ## Following the target -/

/-- Where a realizer that wants to be synced moves its client. -/
def NimbleClientState.next : NimbleClientState → NimbleClientState
  | .idle => .requestingConnect
  | .connected => .joiningRequestingState
  | s => s

theorem followTarget_of_synced {self : NimbleClientRealize L} (h : self.targetState = .synced) :
    (followTarget self).targetState = .synced ∧
      (followTarget self).state =
        (if self.client.state = .synced then .synced else self.state) ∧
      (followTarget self).client.state =
        if self.state = .synced then self.client.state else self.client.state.next := by
  by_cases hstate : self.state = .synced
  · have hsame : followTarget self = self := if_pos (h.trans hstate.symm)
    rw [hsame, if_pos hstate, hstate, ite_self]
    exact ⟨h, rfl, rfl⟩
  · have hmoves : followTarget self = moveTowardsTarget self :=
      if_neg fun hsame => hstate (hsame.symm.trans h)
    rw [hmoves, if_neg hstate, moveTowardsTarget, h]
    cases hclient : self.client.state <;> simp [hclient, h, NimbleClientState.next]

/-- Under way, an update of the realizer updates the client and follows the target. -/
theorem performOperation_of_isUnderWay {self : NimbleClientRealize L} (h : self.IsUnderWay)
    (input : UpdateInput L) :
    (performOperation self (.realizeUpdate input)).1 =
      followTarget (self.withClient (updatedClient self (.realizeUpdate input))) := by
  have hupdates : self.UpdatesClient := ⟨h.runs, by simp [h.target]⟩
  have hsome : clientUpdate? self (.realizeUpdate input) = some input :=
    if_pos ⟨h.connected, hupdates⟩
  rw [updatedClient_of_update hsome]
  change (nimbleClientRealizeUpdate self input).realize = _
  rw [nimbleClientRealizeUpdate_of_updates ⟨h.connected, hupdates⟩]

/-- So its client goes where the update and the realizer move it, and the realizer is synced as
soon as the update leaves the client synced. -/
theorem state_of_isUnderWay {self : NimbleClientRealize L} (h : self.IsUnderWay)
    (input : UpdateInput L) :
    let after := (performOperation self (.realizeUpdate input)).1
    let updated := (updatedClient self (.realizeUpdate input)).state
    after.targetState = .synced ∧
      after.state = (if updated = .synced then .synced else self.state) ∧
      after.client.state = updated.next := by
  intro after updated
  have hrank := rank_le_of_trace (trace_updatePhases self (.realizeUpdate input))
  have hafter : after = followTarget (self.withClient
    (updatedClient self (.realizeUpdate input))) := performOperation_of_isUnderWay h input
  obtain ⟨htarget, hstate, hclient⟩ := followTarget_of_synced
    (show (self.withClient (updatedClient self (.realizeUpdate input))).targetState = .synced
      from h.target)
  rw [hafter, hclient, hstate]
  refine ⟨htarget, rfl, ?_⟩
  split
  · have hfar : 4 ≤ updated.rank := (h.follows ‹_›).trans hrank
    change updated = updated.next
    cases hu : updated <;> simp_all [NimbleClientState.rank, NimbleClientState.next]
  · rfl

theorem remaining_next_le_two {s : NimbleClientState} (h : 2 ≤ s.rank) :
    s.next.remaining ≤ 2 := by
  cases s <;> simp_all [NimbleClientState.rank, NimbleClientState.next, NimbleClientState.remaining]

theorem remaining_next_le_one {s : NimbleClientState} (h : 4 ≤ s.rank) :
    s.next.remaining ≤ 1 := by
  cases s <;> simp_all [NimbleClientState.rank, NimbleClientState.next, NimbleClientState.remaining]

/-! ## What the answers do -/

theorem rank_le_of_fed {s t : NimbleClientState} {fed : List (NimbleClient L × Datagram L)}
    (h : Trace (FeedStep NimbleClient.state) s fed t) : s.rank ≤ t.rank := by
  induction h with
  | nil => exact le_rfl
  | @cons _ _ _ f _ hstep _ ih =>
      obtain ⟨rfl, rfl⟩ := hstep
      exact (rank_le_of_trace (trace_feedPhase f.1 f.2)).trans ih

/-- A synced client that is not made to download again stays synced. -/
theorem synced_of_fed {s t : NimbleClientState} {fed : List (NimbleClient L × Datagram L)}
    (h : Trace (FeedStep NimbleClient.state) s fed t) (hsynced : s = .synced)
    (hquiet : fed.all (!restartsDownload ·)) : t = .synced := by
  induction h with
  | nil => exact hsynced
  | @cons _ _ _ f _ hstep _ ih =>
      rw [List.all_cons, Bool.and_eq_true] at hquiet
      obtain ⟨rfl, rfl⟩ := hstep
      refine ih ?_ hquiet.2
      cases hx : dispatch? f.1 f.2 with
      | none =>
          exact (congrArg ProtocolState.state (protocolState_feed_of_dispatch_eq_none hx)).trans
            hsynced
      | some x =>
          have hclient : x.client.state = .synced := (state_of_dispatch hx).1.trans hsynced
          rw [nimbleClientFeed_of_dispatch hx]
          rcases x.state_outcome with h | ⟨hconnects, _⟩ | ⟨hstarts, _⟩ | ⟨_, h⟩
          · exact h.trans hclient
          · cases hclient.symm.trans hconnects.2.2
          · simp [restartsDownload, startsDownload, hx, hstarts] at hquiet
          · exact h

/-- A connect response connects a client that asks for a connection, and finds any other one
further on. -/
theorem rank_of_connectResponse {f : NimbleClient L × Datagram L}
    (h : answers .requestingConnect f) (hrank : 1 ≤ f.1.state.rank) :
    2 ≤ (nimbleClientFeed f.1 f.2).2.state.rank := by
  obtain ⟨x, hx, hanswers⟩ := Option.any_eq_true _ _ |>.mp h
  have hdecodes : x.IsAnswerIn .requestingConnect := of_decide_eq_true hanswers
  by_cases hstate : f.1.state = .requestingConnect
  · have hconnects : x.Connects := ⟨hdecodes.1, hdecodes.2, (state_of_dispatch hx).1.trans hstate⟩
    rw [nimbleClientFeed_of_dispatch hx, Dispatch.outcome_connectResponse hdecodes.1,
      nimbleClientOnConnectResponse_snd, if_pos hconnects.2]
    exact le_refl NimbleClientState.connected.rank
  · refine le_trans ?_ (rank_le_of_trace (trace_feedPhase f.1 f.2))
    cases hfed : f.1.state <;> simp_all [NimbleClientState.rank]

theorem rank_of_gameStateResponse {f : NimbleClient L × Datagram L}
    (h : answers .joiningRequestingState f) :
    4 ≤ (nimbleClientFeed f.1 f.2).2.state.rank := by
  obtain ⟨x, hx, hanswers⟩ := Option.any_eq_true _ _ |>.mp h
  have hstarts : x.StartsDownload := of_decide_eq_true hanswers
  rw [nimbleClientFeed_of_dispatch hx, Dispatch.outcome_gameStateResponse hstarts.1,
    nimbleClientOnDownloadGameStateResponse_eq, if_pos hstarts.2]
  exact le_refl NimbleClientState.joiningDownloadingState.rank

theorem synced_of_lastPart {f : NimbleClient L × Datagram L}
    (h : answers .joiningDownloadingState f) :
    (nimbleClientFeed f.1 f.2).2.state = .synced := by
  obtain ⟨x, hx, hanswers⟩ := Option.any_eq_true _ _ |>.mp h
  obtain ⟨htakes, hcompletes⟩ : x.TakesPart ∧ x.client.CompletesBlob x.inStream :=
    of_decide_eq_true hanswers
  rw [nimbleClientFeed_of_dispatch hx]
  by_cases hstate : x.client.state = .synced
  · have hsynced : (x.client.takePart x.inStream).2.state = .synced := hstate
    rw [Dispatch.outcome_serverOutBlobStream htakes.1, nimbleClientOnDownloadGameStatePart_snd,
      if_neg (not_not.mpr htakes.2), if_pos hcompletes, trySetInitialGameState_of_synced hsynced]
    exact hsynced
  · rw [x.outcome_of_adoptsBlob ⟨htakes, hcompletes, hstate⟩]
    rfl

/-- An update of the realizer that updates its client goes through its feeds, and keeps where
they lead or disconnects. -/
theorem trace_operationFeeds {self : NimbleClientRealize L} (h : self.IsUnderWay)
    (input : UpdateInput L) :
    ∃ fed, Trace (FeedStep NimbleClient.state) self.client.state
        (operationFeeds self (.realizeUpdate input)) fed ∧
      ((updatedClient self (.realizeUpdate input)).state = fed ∨
        (updatedClient self (.realizeUpdate input)).state = .disconnected) := by
  have hsome : clientUpdate? self (.realizeUpdate input) = some input :=
    if_pos ⟨h.connected, h.runs, by simp [h.target]⟩
  have hfed := @trace_fed L _ NimbleClient.state (fun _ => rfl) (fun _ => rfl)
    (beginUpdate self.client input.now) 0 input.queue
  rw [state_beginUpdate] at hfed
  rw [updatedClient_of_update hsome, operationFeeds, hsome]
  exact ⟨_, hfed, state_nimbleClientUpdate self.client input⟩

/-- An answer among the feeds, and what comes before and behind it. -/
theorem exists_answer {s t : NimbleClientState} {fed : List (NimbleClient L × Datagram L)}
    {state : NimbleClientState} (htrace : Trace (FeedStep NimbleClient.state) s fed t)
    (h : fed.any (answers state)) :
    ∃ f : NimbleClient L × Datagram L, answers state f ∧ s.rank ≤ f.1.state.rank ∧
      (nimbleClientFeed f.1 f.2).2.state.rank ≤ t.rank := by
  obtain ⟨f, hmem, hanswers⟩ := List.any_eq_true.mp h
  obtain ⟨past, later, rfl⟩ := List.append_of_mem hmem
  obtain ⟨_, hpast, hrest⟩ := htrace.split
  obtain ⟨_, ⟨rfl, rfl⟩, hlater⟩ := hrest.head
  exact ⟨f, hanswers, rank_le_of_fed hpast, rank_le_of_fed hlater⟩

/-- An answered update leaves the client synced, or moves it on. -/
theorem updated_of_answered {self : NimbleClientRealize L} {input : UpdateInput L}
    (hunderWay : self.IsUnderWay) (h : Answered self (.realizeUpdate input)) :
    let updated := (updatedClient self (.realizeUpdate input)).state
    updated = .synced ∨ updated.next.remaining < self.client.state.remaining := by
  intro updated
  obtain ⟨fed, htrace, hupdated⟩ := trace_operationFeeds hunderWay input
  -- a disconnected client needs nothing more
  rcases hupdated with hupdated | hdisconnected
  swap
  · right
    change updated = .disconnected at hdisconnected
    rw [hdisconnected]
    exact remaining_pos hunderWay.connected
  change updated = fed at hupdated
  rw [hupdated]
  have hrank := rank_le_of_fed htrace
  rw [Answered] at h
  cases hbefore : self.client.state with
  | idle =>
      right
      cases fed <;> simp [NimbleClientState.next, NimbleClientState.remaining]
  | requestingConnect =>
      simp only [hbefore] at h htrace
      obtain ⟨f, hanswers, hstart, hfar⟩ := exists_answer htrace h
      have hconnected := (rank_of_connectResponse hanswers hstart).trans hfar
      exact Or.inr (Nat.lt_succ_of_le (remaining_next_le_two hconnected))
  | connected =>
      rw [hbefore] at hrank
      exact Or.inr (Nat.lt_succ_of_le (remaining_next_le_two hrank))
  | joiningRequestingState =>
      simp only [hbefore] at h htrace
      obtain ⟨f, hanswers, _, hfar⟩ := exists_answer htrace h
      have hannounced := (rank_of_gameStateResponse hanswers).trans hfar
      exact Or.inr (Nat.lt_succ_of_le (remaining_next_le_one hannounced))
  | joiningDownloadingState =>
      simp only [hbefore] at h
      obtain ⟨suffix, hmem, hlast⟩ := List.any_eq_true.mp h
      obtain ⟨past, hsuffix⟩ := (List.mem_tails _ _).mp hmem
      rw [← hsuffix] at htrace
      cases suffix with
      | nil => cases hlast
      | cons f later =>
          obtain ⟨hanswers, hquiet⟩ := (Bool.and_eq_true _ _).mp hlast
          obtain ⟨_, _, hrest⟩ := htrace.split
          obtain ⟨_, ⟨_, rfl⟩, hlater⟩ := hrest.head
          exact Or.inl (synced_of_fed hlater (synced_of_lastPart hanswers) hquiet)
  | synced =>
      simp only [hbefore] at h
      exact Or.inl (synced_of_fed htrace hbefore h)
  | disconnected => exact absurd hbefore hunderWay.connected

/-! ## Steps of a run -/

/-- Any other call keeps a realizer under way and what it has reached. -/
theorem isUnderWay_performOperation {self : NimbleClientRealize L} {operation : Operation L}
    (h : self.IsUnderWay) (hrestarts : ¬operation.Restarts)
    (hdisconnects : ¬operation.Disconnects)
    (hconnected : (performOperation self operation).1.client.state ≠ .disconnected) :
    (performOperation self operation).1.IsUnderWay := by
  have hrank := rank_le_of_trace (trace_callPhases self hrestarts)
  have hkeeps : (performOperation self operation).1.targetState = .synced →
      (performOperation self operation).1.state = self.state →
        (performOperation self operation).1.IsUnderWay := by
    intro htarget hstate
    exact ⟨htarget, hstate ▸ h.runs, fun hsynced => (h.follows (hstate ▸ hsynced)).trans hrank,
      hconnected⟩
  cases operation with
  | realizeInit settings now => exact absurd trivial hrestarts
  | realizeReInit settings now => exact absurd trivial hrestarts
  | realizeReset now => exact absurd trivial hrestarts
  | reset now => exact absurd trivial hrestarts
  | reInit transport now => exact absurd trivial hrestarts
  | realizeQuitGame => exact absurd trivial hdisconnects
  | disconnect => exact absurd trivial hdisconnects
  | realizeJoinGame options => exact hkeeps rfl rfl
  | realizeUpdate input =>
      obtain ⟨htarget, hstate, hclient⟩ := state_of_isUnderWay h input
      by_cases hsynced : (updatedClient self (.realizeUpdate input)).state = .synced
      · rw [if_pos hsynced] at hstate
        refine ⟨htarget, by simp [hstate], fun _ => ?_, hconnected⟩
        rw [hclient, hsynced]
        decide
      · rw [if_neg hsynced] at hstate
        exact hkeeps htarget hstate
  | _ => exact hkeeps h.target rfl

/-- An answered update takes the client further or all the way, and no call takes it back. -/
theorem remaining_performOperation {self : NimbleClientRealize L} {operation : Operation L}
    (h : self.IsUnderWay) (hrestarts : ¬operation.Restarts)
    (hdisconnects : ¬operation.Disconnects) :
    (performOperation self operation).1.HasArrived ∨
      (performOperation self operation).1.IsUnderWay ∧
        (performOperation self operation).1.client.state.remaining +
          (if Answered self operation then 1 else 0) ≤ self.client.state.remaining := by
  by_cases hconnected : (performOperation self operation).1.client.state = .disconnected
  · exact Or.inl (Or.inr hconnected)
  have hunderWay := isUnderWay_performOperation h hrestarts hdisconnects hconnected
  by_cases hanswered : Answered self operation
  · cases operation with
    | realizeUpdate input =>
        obtain ⟨_, hstate, hclient⟩ := state_of_isUnderWay h input
        rcases updated_of_answered h hanswered with hsynced | hfurther
        · refine Or.inl (Or.inl ⟨?_, ?_⟩)
          · rw [hstate, if_pos hsynced]
          · rw [hclient, hsynced]
            rfl
        · refine Or.inr ⟨hunderWay, ?_⟩
          rw [hclient, if_pos hanswered]
          exact hfurther
    | _ => cases hanswered
  · refine Or.inr ⟨hunderWay, ?_⟩
    rw [if_neg hanswered]
    exact remaining_le_of_rank_le (rank_le_of_trace (trace_callPhases self hrestarts))

/-- An initialized realizer that has been asked to join a game is synced at the latest when four
of its updates have been fed what they wait for, unless the client has been disconnected. Neither
the order of the calls nor anything else that the network delivers holds it off. -/
theorem synced_after_four_answers (start : NimbleClientRealize L)
    (htarget : start.targetState = .synced) (hstate : start.state = .init ∨ start.state = .reInit)
    (operations : List (Operation L))
    (h : ∀ operation ∈ operations, ¬operation.Restarts ∧ ¬operation.Disconnects)
    (hanswered : 4 ≤ (realizer L).countSteps Answered start operations) :
    ∃ before after, operations = before ++ after ∧
      ((realizer L).run start before).HasArrived := by
  have hstart : start.HasArrived ∨ start.IsUnderWay := by
    by_cases hconnected : start.client.state = .disconnected
    · exact Or.inl (Or.inr hconnected)
    · refine Or.inr ⟨htarget, ?_, ?_, hconnected⟩ <;> rcases hstate with h | h <;> simp [h]
  apply @Machine.exists_goal_of_measure _ _ _ (realizer L) NimbleClientRealize.IsUnderWay
    NimbleClientRealize.HasArrived
    (fun _ operation => ¬operation.Restarts ∧ ¬operation.Disconnects) Answered
    (fun self => self.client.state.remaining) _ _ start operations hstart
    (fun v hv => h v.2 ((realizer L).mem_of_mem_visits hv))
  · refine le_trans ?_ hanswered
    cases start.client.state <;> simp [NimbleClientState.remaining]
  · intro self operation hunderWay hallowed
    exact remaining_performOperation hunderWay hallowed.1 hallowed.2
  · intro self hunderWay
    exact remaining_pos hunderWay.connected

/-! ## A run on fixed inputs -/

namespace Small

/-- The answers of the server among silence, repetitions and nonsense. -/
def delayedSession : List (Operation smallLibraries) :=
  [.realizeUpdate (updateWith []), .realizeUpdate (updateWith []),
    .realizeUpdate ⟨0, [.error 3], ⟨0, 0, 0, 0⟩⟩,
    .realizeUpdate (updateWith [connectResponse 1, connectResponse 1]),
    .realizeUpdate (updateWith [joinResponse 2 3]), .outgoing ⟨0, 0, 0, 0⟩,
    .realizeUpdate (updateWith [gameStateResponse 3 10 5]),
    .realizeUpdate (updateWith [gameStateResponse 4 12 6]),
    .realizeUpdate (updateWith [blobPart 5 6 0 0xaa])]

end Small

open Nimble.Small

theorem synced_after_four_answers_delayed :
    ∃ before after, delayedSession = before ++ after ∧
      ((realizer smallLibraries).run
        (performOperation (freshRealizer 1) (.realizeJoinGame (0 : UInt8))).1 before).HasArrived :=
  synced_after_four_answers _ rfl (Or.inl rfl) delayedSession
    (by simp [delayedSession, Operation.Restarts, Operation.Disconnects]) (by decide +kernel)

end Nimble
