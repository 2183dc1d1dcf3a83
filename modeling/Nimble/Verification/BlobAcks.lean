import Mathlib.Data.List.Induction
import Nimble.Verification.FailedSends
import Nimble.Verification.GameState

/-! # The acknowledgement of blob parts

A downloading client acknowledges the parts it has received in whatever it sends next. The part
that completes the blob ends the download, so nothing acknowledges it. -/

namespace Nimble

variable {L : Libraries}

/-! ## Downloading -/

/-- The state in which a client acknowledges blob parts. -/
def NimbleClient.isDownloading (self : NimbleClient L) : Bool :=
  self.state = .joiningDownloadingState

theorem isDownloading_of_state {self other : NimbleClient L} (h : other.state = self.state) :
    other.isDownloading = self.isDownloading := by
  rw [NimbleClient.isDownloading, NimbleClient.isDownloading, h]

/-- The feed accepts a game state response. -/
def startsDownload (client : NimbleClient L) (datagram : Datagram L) : Bool :=
  (dispatch? client datagram).any fun x => x.StartsDownload

/-- The feed completes the blob of a client that is not synced. -/
def adoptsBlob (client : NimbleClient L) (datagram : Datagram L) : Bool :=
  (dispatch? client datagram).any fun x => x.AdoptsBlob

theorem Dispatch.isDownloading_outcome (x : Dispatch L) :
    x.outcome.2.isDownloading =
      (decide x.StartsDownload || x.client.isDownloading && !decide x.AdoptsBlob) := by
  have hkeeps : ¬x.StartsDownload → ¬x.AdoptsBlob → x.client.isDownloading =
      (decide x.StartsDownload || x.client.isDownloading && !decide x.AdoptsBlob) := by
    intro hstarts hadopts
    simp [hstarts, hadopts]
  have heffect := x.effect
  generalize x.outcome.2 = client at heffect ⊢
  cases heffect with
  | connect h => simp [NimbleClient.isDownloading, StartsDownload, h.1, h.2.2]
  | startDownload h => simp [NimbleClient.isDownloading, NimbleClient.startDownload, h]
  | adoptBlob h =>
      simp [NimbleClient.isDownloading, NimbleClient.adoptBlob, StartsDownload, h, h.1.1]
  | takePart h hadopts => exact hkeeps (by simp [StartsDownload, h.1]) hadopts
  | failSteps h _ =>
      exact hkeeps (by simp [StartsDownload, h]) (by simp [AdoptsBlob, TakesPart, h])
  | takeSteps h =>
      exact hkeeps (by simp [StartsDownload, h.1]) (by simp [AdoptsBlob, TakesPart, h.1])
  | join h => exact hkeeps (by simp [StartsDownload, h.1]) (by simp [AdoptsBlob, TakesPart, h.1])
  | outOfSlots h =>
      exact hkeeps (by simp [StartsDownload, h]) (by simp [AdoptsBlob, TakesPart, h])
  | ignore h => exact hkeeps h.startsDownload fun hadopts => h.takesPart hadopts.1

theorem headerKeeps_isDownloading : HeaderKeeps (@NimbleClient.isDownloading L) :=
  headerKeeps_of fun _ _ _ _ _ _ => rfl

theorem isDownloading_nimbleClientFeed (self : NimbleClient L) (datagram : Datagram L) :
    (nimbleClientFeed self datagram).2.isDownloading =
      (startsDownload self datagram || self.isDownloading && !adoptsBlob self datagram) := by
  cases hx : dispatch? self datagram with
  | none =>
      rw [headerKeeps_isDownloading.of_dispatch_eq_none hx]
      simp [startsDownload, adoptsBlob, hx]
  | some x =>
      rw [nimbleClientFeed_of_dispatch hx, x.isDownloading_outcome,
        headerKeeps_isDownloading.of_dispatch hx]
      simp [startsDownload, adoptsBlob, hx]

/-- The watchdog ends no download. -/
theorem isDownloading_watched (self : NimbleClient L) :
    (watched self).isDownloading = self.isDownloading := by
  by_cases h : self.state = .synced
  · rw [watched_of_synced h]
    split <;> simp [NimbleClient.isDownloading, h]
  · rw [watched_of_ne h]

theorem isDownloading_updateSender (self : NimbleClient L) (input : UpdateInput L) :
    (updateSender self input).isDownloading = (self.received input).client.isDownloading :=
  (isDownloading_of_state (state_updateSender self input)).trans (isDownloading_watched _)

theorem isDownloading_nimbleClientUpdate (self : NimbleClient L) (input : UpdateInput L) :
    (nimbleClientUpdate self input).client.isDownloading =
      (self.received input).client.isDownloading := by
  by_cases hcut : self.IsCutShort input
  · rw [nimbleClientUpdate_of_cutShort hcut]
  · rw [nimbleClientUpdate_of_not_cutShort hcut, ← isDownloading_watched (self.received _).client]
    exact isDownloading_of_state (state_finishUpdate _ _ _ _)

/-! ## Transfers -/

/-- What a run does for a transfer: a datagram is fed, or `nimbleClientOutgoing` is called, on the
way of an update or by the application. -/
inductive TransferEvent (L : Libraries)
  | feed (client : NimbleClient L) (datagram : Datagram L)
  | send (inUpdate : Bool) (client : NimbleClient L) (input : OutgoingInput)

/-- The client an event starts from. -/
def TransferEvent.client : TransferEvent L → NimbleClient L
  | .feed client _ => client
  | .send _ client _ => client

/-- The events of one call: it receives before it sends. -/
def transferEvents (self : NimbleClientRealize L) (operation : Operation L) :
    List (TransferEvent L) :=
  (operationFeeds self operation).map (fun f => .feed f.1 f.2) ++
    (outgoingCall? self operation).toList.map fun call =>
      .send (clientUpdate? self operation).isSome call.1 call.2

/-- The events of a run, in order. -/
def transfers (start : NimbleClientRealize L) (operations : List (Operation L)) :
    List (TransferEvent L) :=
  ((realizer L).visits start operations).flatMap fun v => transferEvents v.1 v.2

/-- Whether the client downloads behind an event, given whether it did in front of it. -/
def TransferEvent.downloads (downloading : Bool) : TransferEvent L → Bool
  | .feed client datagram =>
    startsDownload client datagram || downloading && !adoptsBlob client datagram
  | .send _ _ _ => downloading

/-- Whether it downloads behind some events. -/
def downloadsAfter (downloading : Bool) (events : List (TransferEvent L)) : Bool :=
  events.foldl TransferEvent.downloads downloading

/-- Each event starts from a client that downloads as the one before it left it. -/
inductive Transfers : Bool → List (TransferEvent L) → Bool → Prop
  | nil (downloading : Bool) : Transfers downloading [] downloading
  | cons {event : TransferEvent L} {events : List (TransferEvent L)} {last : Bool} :
      Transfers (event.downloads event.client.isDownloading) events last →
        Transfers event.client.isDownloading (event :: events) last

theorem Transfers.append {a b c : Bool} {events more : List (TransferEvent L)}
    (hab : Transfers a events b) (hbc : Transfers b more c) : Transfers a (events ++ more) c := by
  induction hab with
  | nil downloading => exact hbc
  | cons _ ih => exact .cons (ih hbc)

/-- What the client of an event owes to the events before it. -/
theorem Transfers.isDownloading_client {a c : Bool} {before after : List (TransferEvent L)}
    {event : TransferEvent L} (h : Transfers a (before ++ event :: after) c) :
    event.client.isDownloading = downloadsAfter a before := by
  induction before generalizing a with
  | nil =>
      cases h with
      | cons _ => rfl
  | cons other before ih =>
      cases h with
      | cons htail => exact ih htail

theorem Transfers.feed {client : NimbleClient L} {datagram : Datagram L}
    {events : List (TransferEvent L)} {last : Bool}
    (h : Transfers (nimbleClientFeed client datagram).2.isDownloading events last) :
    Transfers client.isDownloading (.feed client datagram :: events) last := by
  rw [isDownloading_nimbleClientFeed] at h
  exact @Transfers.cons _ (.feed client datagram) _ _ h

theorem transfers_feeds (self : NimbleClient L) (count : Nat) (queue : List (Received L)) :
    Transfers self.isDownloading ((feeds self queue).map fun f => .feed f.1 f.2)
      (receiveLoop self count queue).client.isDownloading := by
  induction queue generalizing self count with
  | nil => exact .nil _
  | cons received queue ih =>
      cases received with
      | error code => exact .nil _
      | datagram datagram =>
          by_cases hoctets : datagram.octets = []
          · rw [feeds_of_empty hoctets, receiveLoop_of_empty hoctets]
            exact .nil _
          rw [feeds_datagram hoctets, receiveLoop_datagram hoctets, List.map_cons]
          apply @Transfers.feed _ self.countPacketIn
          split
          · exact .nil _
          · exact ih (nimbleClientFeed self.countPacketIn datagram).2.receivedUsableDatagram
              (count + 1)

theorem isDownloading_beginUpdate (self : NimbleClient L) (now : MonotonicTimeMs) :
    (beginUpdate self now).isDownloading = self.isDownloading :=
  isDownloading_of_state (state_beginUpdate self now)

theorem transfers_received (self : NimbleClient L) (input : UpdateInput L) :
    Transfers self.isDownloading
      ((feeds (beginUpdate self input.now) input.queue).map fun f => .feed f.1 f.2)
      (self.received input).client.isDownloading := by
  rw [← isDownloading_beginUpdate self input.now]
  exact transfers_feeds _ 0 input.queue

theorem transfers_send (inUpdate : Bool) (client : NimbleClient L) (input : OutgoingInput) :
    Transfers client.isDownloading [.send inUpdate client input] client.isDownloading :=
  @Transfers.cons _ (.send inUpdate client input) _ _ (.nil _)

/-- A call that neither starts the client over nor disconnects it leaves a download to what it is
fed. -/
theorem isDownloading_performOperation (self : NimbleClientRealize L) {operation : Operation L}
    (hrestarts : ¬operation.Restarts) (hdisconnects : ¬operation.Disconnects) :
    (performOperation self operation).1.client.isDownloading =
      (updatedClient self operation).isDownloading := by
  rcases state_performOperation self hrestarts hdisconnects with h | ⟨h, h'⟩ | ⟨h, h'⟩
  · exact isDownloading_of_state h
  · simp [NimbleClient.isDownloading, h, h']
  · simp [NimbleClient.isDownloading, h, h']

theorem transfers_performOperation (self : NimbleClientRealize L) {operation : Operation L}
    (hrestarts : ¬operation.Restarts) (hdisconnects : ¬operation.Disconnects) :
    Transfers self.client.isDownloading (transferEvents self operation)
      (performOperation self operation).1.client.isDownloading := by
  rw [isDownloading_performOperation self hrestarts hdisconnects, transferEvents, updatedClient,
    operationFeeds]
  cases hupdate : clientUpdate? self operation with
  | none =>
      cases operation with
      | outgoing input => exact transfers_send _ _ _
      | _ =>
          simp only [outgoingCall?, hupdate, Option.bind_none]
          exact .nil _
  | some input =>
      rw [outgoingCall?_of_update hupdate]
      dsimp only
      rw [isDownloading_nimbleClientUpdate]
      refine (transfers_received self.client input).append ?_
      rw [updateCall?]
      split
      · exact .nil _
      · have hsend := transfers_send true (updateSender self.client input) input.outgoing
        rw [isDownloading_updateSender] at hsend
        exact hsend

theorem transfers_run (start : NimbleClientRealize L) {operations : List (Operation L)}
    (h : ∀ operation ∈ operations, ¬operation.Restarts ∧ ¬operation.Disconnects) :
    Transfers start.client.isDownloading (transfers start operations)
      ((realizer L).run start operations).client.isDownloading := by
  induction operations generalizing start with
  | nil => exact .nil _
  | cons operation operations ih =>
      rw [List.forall_mem_cons] at h
      exact (transfers_performOperation start h.1.1 h.1.2).append (ih _ h.2)

/-! ## Acknowledgements -/

/-- The datagram that `blobStreamLogicInSend` makes behind the command. -/
def blobAckStream (self : NimbleClient L) (input : OutgoingInput) : FldOutStream :=
  (sendBlobStreamCommands self (headerStream self input.messageHeaderNow)).stream

/-- `blobStreamLogicInSend` is run in the event, and its datagram handed to the transport. -/
def TransferEvent.Acknowledges : TransferEvent L → Prop
  | .feed _ _ => False
  | .send _ client input =>
    .blobStreamSend ∈ (nimbleClientOutgoing client input).events ∧
      (blobAckStream client input).octets ∈ sentOctets (nimbleClientOutgoing client input).events

/-- A library routine that a send runs reports an error. -/
def TransferEvent.Fails : TransferEvent L → Prop
  | .feed _ _ => False
  | .send _ client input => FailsToSerialize client input

/-- A blob part on the channel of the client is received without error. -/
def TransferEvent.ReceivesPart : TransferEvent L → Prop
  | .feed client datagram => ∃ x, dispatch? client datagram = some x ∧ x.TakesPart ∧ 0 ≤ x.outcome.1
  | .send _ _ _ => False

theorem stream_outgoingMessage_of_downloading {self : NimbleClient L} {input : OutgoingInput}
    (hstate : self.state = .joiningDownloadingState) :
    (outgoingMessage self input).stream = blobAckStream self input := by
  rw [outgoingMessage_of_downloading hstate, blobAckStream, sendBlobStreamCommands,
    sendBlobStreamCommands]
  dsimp only
  split <;> split <;> rfl

theorem sentOctets_of_downloading (hsizes : HeaderSizes L) {self : NimbleClient L}
    {input : OutgoingInput} (hstate : self.state = .joiningDownloadingState)
    (hserializes : ¬FailsToSerialize self input) :
    sentOctets (nimbleClientOutgoing self input).events = [(blobAckStream self input).octets] := by
  have hresult : ¬(outgoingMessage self input).result < 0 := by
    intro hneg
    rw [outgoingMessage_of_downloading hstate, sendBlobStreamCommands] at hneg
    dsimp only at hneg
    split at hneg
    · exact hserializes (.blobStream hstate ‹_›)
    · exact Int.lt_irrefl 0 hneg
  have hpos : 10 < (outgoingMessage self input).stream.pos :=
    (pos_outgoingMessage hsizes self input).mpr (Or.inr (Or.inr (Or.inl hstate)))
  rw [events_nimbleClientOutgoing, handleState]
  rw [hstate]
  dsimp only
  rw [sentOctets_sendMessageDatagram_of_pos hpos hresult,
    stream_outgoingMessage_of_downloading hstate]

/-- A send that serializes acknowledges exactly when the client downloads. -/
theorem acknowledges_send_iff (hsizes : HeaderSizes L) (inUpdate : Bool) {client : NimbleClient L}
    {input : OutgoingInput} (hserializes : ¬FailsToSerialize client input) :
    (TransferEvent.send inUpdate client input).Acknowledges ↔ client.isDownloading = true := by
  rw [TransferEvent.Acknowledges, blobStreamSend_mem_nimbleClientOutgoing,
    NimbleClient.isDownloading, decide_eq_true_iff]
  constructor
  · exact fun h => h.1
  · intro hstate
    refine ⟨hstate, ?_⟩
    rw [sentOctets_of_downloading hsizes hstate hserializes]
    exact List.mem_singleton_self _

/-- A part that is received among these events, and what follows it up to the first update that
reaches `nimbleClientOutgoing`. -/
structure AwaitsAcknowledgement (events : List (TransferEvent L)) (part : TransferEvent L)
    (window : List (TransferEvent L)) : Prop where
  occurs : part :: window <:+: events
  receivesPart : part.ReceivesPart
  endsInUpdate : ∃ between client input, window = between ++ [.send true client input] ∧
    ∀ other later, .send true other later ∉ between
  serializes : ∀ event ∈ window, ¬event.Fails

/-- At some send behind the part the client downloads: of the datagrams from the part on, the last
that started or completed a download started one, or there was none and the client downloaded in
front of the part. -/
def SendsWhileDownloading (part : TransferEvent L) (window : List (TransferEvent L)) : Prop :=
  ∃ past inUpdate client input later, window = past ++ .send inUpdate client input :: later ∧
    downloadsAfter part.client.isDownloading (part :: past) = true

theorem downloadsAfter_append (downloading : Bool) (events more : List (TransferEvent L)) :
    downloadsAfter downloading (events ++ more) =
      downloadsAfter (downloadsAfter downloading events) more :=
  List.foldl_append

/-- A download goes on as long as no datagram completes a blob. -/
theorem downloadsAfter_true {events : List (TransferEvent L)}
    (h : ∀ client datagram, .feed client datagram ∈ events → adoptsBlob client datagram = false) :
    downloadsAfter true events = true := by
  induction events using List.reverseRecOn with
  | nil => rfl
  | append_singleton events event ih =>
      have hbefore := ih fun client datagram hmem =>
        h client datagram (List.mem_append_left _ hmem)
      rw [downloadsAfter_append, hbefore]
      cases event with
      | feed client datagram =>
          have hkeeps := h client datagram (List.mem_append_right _ List.mem_cons_self)
          simp [downloadsAfter, TransferEvent.downloads, hkeeps]
      | send inUpdate client input => rfl

/-- None begins as long as no datagram starts one. -/
theorem downloadsAfter_false {events : List (TransferEvent L)}
    (h : ∀ client datagram, .feed client datagram ∈ events →
      startsDownload client datagram = false) : downloadsAfter false events = false := by
  induction events using List.reverseRecOn with
  | nil => rfl
  | append_singleton events event ih =>
      have hbefore := ih fun client datagram hmem =>
        h client datagram (List.mem_append_left _ hmem)
      rw [downloadsAfter_append, hbefore]
      cases event with
      | feed client datagram =>
          have hkeeps := h client datagram (List.mem_append_right _ List.mem_cons_self)
          simp [downloadsAfter, TransferEvent.downloads, hkeeps]
      | send inUpdate client input => rfl

/-- A part of a downloading client, as long as nothing completes the blob. -/
theorem AwaitsAcknowledgement.sendsWhileDownloading {events window : List (TransferEvent L)}
    {part : TransferEvent L} (h : AwaitsAcknowledgement events part window)
    (hclient : part.client.isDownloading = true)
    (hadopts : ∀ client datagram, .feed client datagram ∈ part :: window →
      adoptsBlob client datagram = false) : SendsWhileDownloading part window := by
  obtain ⟨between, client, input, hwindow, _⟩ := h.endsInUpdate
  refine ⟨between, true, client, input, [], hwindow, ?_⟩
  rw [hclient]
  apply downloadsAfter_true
  intro other datagram hmem
  apply hadopts other datagram
  rw [hwindow, ← List.cons_append]
  exact List.mem_append_left _ hmem

/-- The part that completes the blob, and a part behind the completion, unless another download is
started. -/
theorem not_sendsWhileDownloading {part : TransferEvent L} {window : List (TransferEvent L)}
    (hpart : part.downloads part.client.isDownloading = false)
    (hstarts : ∀ client datagram, .feed client datagram ∈ window →
      startsDownload client datagram = false) : ¬SendsWhileDownloading part window := by
  rintro ⟨past, _, _, _, _, rfl, hdownloads⟩
  have hnone : downloadsAfter (part.downloads part.client.isDownloading) past = false := by
    rw [hpart]
    exact downloadsAfter_false fun client datagram hmem =>
      hstarts client datagram (List.mem_append_left _ hmem)
  exact absurd (hnone.symm.trans hdownloads) (by decide)

/-- The sends behind a part acknowledge it exactly when the client downloads at one of them. -/
theorem acknowledges_window_iff (hsizes : HeaderSizes L) (start : NimbleClientRealize L)
    {operations : List (Operation L)}
    (hoperations : ∀ operation ∈ operations, ¬operation.Restarts ∧ ¬operation.Disconnects)
    {part : TransferEvent L} {window : List (TransferEvent L)}
    (h : AwaitsAcknowledgement (transfers start operations) part window) :
    (∃ event ∈ window, event.Acknowledges) ↔ SendsWhileDownloading part window := by
  obtain ⟨before, after, hevents⟩ := h.occurs
  have hrun := transfers_run start hoperations
  rw [← hevents] at hrun
  generalize ((realizer L).run start operations).client.isDownloading = last at hrun
  -- what a send in the window owes to the part and the events between
  have hclient : ∀ {past event later}, window = past ++ event :: later →
      event.client.isDownloading = downloadsAfter part.client.isDownloading (part :: past) := by
    rintro past event later rfl
    have hpart : part.client.isDownloading = downloadsAfter start.client.isDownloading before := by
      refine @Transfers.isDownloading_client _ _ last before (past ++ event :: later ++ after) _ ?_
      simpa using hrun
    rw [hpart, ← downloadsAfter_append]
    refine @Transfers.isDownloading_client _ _ last (before ++ part :: past) (later ++ after) _ ?_
    simpa using hrun
  constructor
  · rintro ⟨event, hmem, hacknowledges⟩
    obtain ⟨past, later, hwindow⟩ := List.append_of_mem hmem
    cases event with
    | feed client datagram => exact hacknowledges.elim
    | send inUpdate client input =>
        refine ⟨past, inUpdate, client, input, later, hwindow, ?_⟩
        rw [← hclient hwindow]
        exact (acknowledges_send_iff hsizes inUpdate (h.serializes _ hmem)).mp hacknowledges
  · rintro ⟨past, inUpdate, client, input, later, hwindow, hdownloads⟩
    have hmem : .send inUpdate client input ∈ window := by
      rw [hwindow]
      exact List.mem_append_right _ List.mem_cons_self
    refine ⟨_, hmem, (acknowledges_send_iff hsizes inUpdate (h.serializes _ hmem)).mpr ?_⟩
    rw [← hclient hwindow] at hdownloads
    exact hdownloads

/-- A received part is acknowledged, by the first update behind it that sends, exactly when the
client downloads at some send up to there. In particular a part of a downloading client is as long
as nothing completes the blob, and the part that completes it, or one behind the completion, is not
unless another download is started. -/
theorem blob_part_acknowledged (hsizes : HeaderSizes L) (start : NimbleClientRealize L)
    (operations : List (Operation L))
    (hoperations : ∀ operation ∈ operations, ¬operation.Restarts ∧ ¬operation.Disconnects)
    (part : TransferEvent L) (window : List (TransferEvent L))
    (h : AwaitsAcknowledgement (transfers start operations) part window) :
    ((∃ event ∈ window, event.Acknowledges) ↔ SendsWhileDownloading part window) ∧
      (part.client.isDownloading = true →
        (∀ client datagram, .feed client datagram ∈ part :: window →
          adoptsBlob client datagram = false) →
        ∃ event ∈ window, event.Acknowledges) ∧
      (part.downloads part.client.isDownloading = false →
        (∀ client datagram, .feed client datagram ∈ window →
          startsDownload client datagram = false) →
        ¬∃ event ∈ window, event.Acknowledges) := by
  have hiff := acknowledges_window_iff hsizes start hoperations h
  refine ⟨hiff, fun hclient hadopts => ?_, fun hpart hstarts => ?_⟩
  · exact hiff.mpr (h.sendsWhileDownloading hclient hadopts)
  · exact fun hacknowledges => not_sendsWhileDownloading hpart hstarts (hiff.mp hacknowledges)

/-! ## Runs on fixed inputs -/

namespace Small

/-- A client that waits for the parts of a blob on channel 5. -/
def awaitingRealizer (chunkCount : Nat) : NimbleClientRealize smallLibraries :=
  (realizer smallLibraries).run (freshRealizer chunkCount) (syncSession 10 5).dropLast

/-- The feed of a datagram that comes first in an update. -/
def firstFeed (self : NimbleClientRealize smallLibraries) (datagram : Datagram smallLibraries) :
    TransferEvent smallLibraries :=
  .feed (beginUpdate self.client 0).countPacketIn datagram

/-- What an update sends behind a datagram. -/
def sendBehind (self : NimbleClientRealize smallLibraries) (datagram : Datagram smallLibraries) :
    TransferEvent smallLibraries :=
  .send true (updateSender self.client (updateWith [datagram])) sendInput

theorem transfers_realizeUpdate {self : NimbleClientRealize smallLibraries}
    {datagram : Datagram smallLibraries} (hoctets : datagram.octets ≠ [])
    (hupdates : self.client.state ≠ .disconnected ∧ self.UpdatesClient)
    (hsends : ¬(self.client.IsCutShort (updateWith [datagram]) ∨
      0 < (updateSender self.client (updateWith [datagram])).waitTime ∨
      (updateSender self.client (updateWith [datagram])).state = .idle ∨
      (updateSender self.client (updateWith [datagram])).state = .disconnected)) :
    transfers self [.realizeUpdate (updateWith [datagram])] =
      [firstFeed self datagram, sendBehind self datagram] := by
  have hupdate : clientUpdate? self (.realizeUpdate (updateWith [datagram])) =
      some (updateWith [datagram]) := if_pos hupdates
  have hcall : updateCall? self.client (updateWith [datagram]) =
      some (updateSender self.client (updateWith [datagram]), sendInput) := if_neg hsends
  have hfeeds : feeds (beginUpdate self.client 0) [.datagram datagram] =
      [((beginUpdate self.client 0).countPacketIn, datagram)] := feeds_singleton hoctets _
  rw [transfers, Machine.visits_cons, Machine.visits_nil, List.flatMap_singleton, transferEvents,
    operationFeeds, outgoingCall?_of_update hupdate, hupdate, hcall]
  change List.map _ (feeds (beginUpdate self.client 0) [.datagram datagram]) ++ _ = _
  rw [hfeeds]
  rfl

theorem not_failsToSerialize_smallLibraries (client : NimbleClient smallLibraries)
    (input : OutgoingInput) : ¬FailsToSerialize client input := by
  intro h
  cases h with
  | pendingHeader _ hfails => exact Int.lt_irrefl 0 hfails
  | steps _ _ hfails =>
      have hlength : ((client.outSteps.steps.length : Nat) : Int) < 0 := hfails
      omega
  | blobStream _ hfails => exact Int.lt_irrefl 0 hfails

/-- The update receives a part and sends once behind it. -/
def AwaitsUpdate (self : NimbleClientRealize smallLibraries) (datagram : Datagram smallLibraries) :
    Prop :=
  AwaitsAcknowledgement (transfers self [.realizeUpdate (updateWith [datagram])])
    (firstFeed self datagram) [sendBehind self datagram]

theorem awaitsUpdate_of_transfers {self : NimbleClientRealize smallLibraries}
    {datagram : Datagram smallLibraries}
    (htransfers : transfers self [.realizeUpdate (updateWith [datagram])] =
      [firstFeed self datagram, sendBehind self datagram])
    (hreceives : (firstFeed self datagram).ReceivesPart) : AwaitsUpdate self datagram where
  occurs := htransfers ▸ List.infix_refl _
  receivesPart := hreceives
  endsInUpdate := ⟨[], _, _, rfl, by simp⟩
  serializes event hmem := by
    obtain rfl := List.mem_singleton.mp hmem
    exact not_failsToSerialize_smallLibraries _ _

/-- The first of two parts. -/
theorem awaitsUpdate_firstPart : AwaitsUpdate (awaitingRealizer 2) (blobPart 3 5 0 0xaa) :=
  awaitsUpdate_of_transfers (transfers_realizeUpdate (by decide) (by decide +kernel)
    (by decide +kernel))
    ⟨_, rfl, by decide +kernel, by decide +kernel⟩

/-- The only part, which completes the blob. -/
theorem awaitsUpdate_onlyPart : AwaitsUpdate (awaitingRealizer 1) (blobPart 3 5 0 0xaa) :=
  awaitsUpdate_of_transfers (transfers_realizeUpdate (by decide) (by decide +kernel)
    (by decide +kernel))
    ⟨_, rfl, by decide +kernel, by decide +kernel⟩

/-- That part again, behind the completion. -/
theorem awaitsUpdate_repeatedPart : AwaitsUpdate syncedRealizer (blobPart 4 5 0 0xaa) :=
  awaitsUpdate_of_transfers (transfers_realizeUpdate (by decide) (by decide +kernel)
    (by decide +kernel))
    ⟨_, rfl, by decide +kernel, by decide +kernel⟩

theorem not_acknowledges_sendBehind {self : NimbleClientRealize smallLibraries}
    {datagram : Datagram smallLibraries}
    (h : (updateSender self.client (updateWith [datagram])).state ≠ .joiningDownloadingState) :
    ¬∃ event ∈ [sendBehind self datagram], event.Acknowledges := by
  rintro ⟨event, hmem, hacknowledges⟩
  obtain rfl := List.mem_singleton.mp hmem
  exact h ((blobStreamSend_mem_nimbleClientOutgoing _ _).mp hacknowledges.1)

end Small

open Nimble.Small

/-- The first of two parts is acknowledged. -/
theorem blob_part_acknowledged_firstPart :
    ∃ event ∈ [sendBehind (awaitingRealizer 2) (blobPart 3 5 0 0xaa)], event.Acknowledges :=
  (blob_part_acknowledged headerSizes_smallLibraries (awaitingRealizer 2)
    [.realizeUpdate (updateWith [blobPart 3 5 0 0xaa])] (fun _ hmem => List.mem_singleton.mp hmem ▸
      ⟨id, id⟩) _ _ awaitsUpdate_firstPart).1.mpr ⟨[], _, _, _, [], rfl, by decide +kernel⟩

/-- The only part completes the blob and is not acknowledged, and nor is it when the server
repeats it. -/
theorem blob_part_acknowledged_counterexample :
    (Reachable (awaitingRealizer 1) ∧
        AwaitsUpdate (awaitingRealizer 1) (blobPart 3 5 0 0xaa) ∧
        ¬∃ event ∈ [sendBehind (awaitingRealizer 1) (blobPart 3 5 0 0xaa)],
          event.Acknowledges) ∧
      Reachable syncedRealizer ∧ AwaitsUpdate syncedRealizer (blobPart 4 5 0 0xaa) ∧
        ¬∃ event ∈ [sendBehind syncedRealizer (blobPart 4 5 0 0xaa)], event.Acknowledges :=
  ⟨⟨⟨_, _, _, _, rfl⟩, awaitsUpdate_onlyPart, not_acknowledges_sendBehind (by decide +kernel)⟩,
    reachable_syncedRealizer, awaitsUpdate_repeatedPart,
    not_acknowledges_sendBehind (by decide +kernel)⟩

end Nimble
