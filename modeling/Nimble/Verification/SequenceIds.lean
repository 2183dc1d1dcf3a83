import Nimble.Verification.SequenceIds.Accounts

/-! # Sequence ids of outgoing datagrams

Which of the ids that are committed were sent in a datagram. -/

namespace Nimble

variable {L : Libraries}

/-! ## Calls of `nimbleClientOutgoing` -/

/-- The call commits an id for a datagram that holds no more than its header. -/
def HeaderOnly (self : NimbleClient L) (input : OutgoingInput) : Prop :=
  self.state = .synced ∧ self.joinParticipantPhase ≠ .joiningParticipant ∧
    0 ≤ (nimbleClientSendStepsToServer self input).result

instance (self : NimbleClient L) (input : OutgoingInput) : Decidable (HeaderOnly self input) :=
  inferInstanceAs (Decidable (_ ∧ _ ∧ _))

variable {ids : OrderedIds L}

theorem current_nimbleClientWriteHeader (self : NimbleClient L) (stream : FldOutStream)
    (now : MonotonicTimeMs) :
    ids.current (nimbleClientWriteHeader self stream now).1 = ids.current self :=
  ids.currentId_prepare self.orderedDatagramOut stream

theorem carriedId_headerStream (self : NimbleClient L) (now : MonotonicTimeMs)
    (rest : List UInt8) :
    ids.carriedId ((headerStream self now).octets ++ rest) = ids.current self := by
  simp only [headerStream, nimbleClientWriteHeader, fldOutStreamInit, FldOutStream.octets_write,
    List.nil_append, List.append_assoc]
  exact ids.carriedId_prepare _ _ _

theorem sendStepsToStream_frame (self : NimbleClient L) (stream : FldOutStream) :
    (sendStepsToStream self stream).2.1.orderedDatagramOut = self.orderedDatagramOut ∧
      ∃ steps, (sendStepsToStream self stream).2.2.octets = stream.octets ++ steps := by
  rw [sendStepsToStream]
  dsimp only
  split
  · refine ⟨rfl, ?_⟩
    simp only [FldOutStream.octets_write, List.append_assoc]
    exact ⟨_, rfl⟩
  · split <;> refine ⟨rfl, ?_⟩ <;> simp only [FldOutStream.octets_write, List.append_assoc] <;>
      exact ⟨_, rfl⟩

/-- The steps datagram commits its id only when it is sent. -/
theorem accounts_nimbleClientSendStepsToServer (self : NimbleClient L) (input : OutgoingInput) :
    Accounts ids self (nimbleClientSendStepsToServer self input).client
      (nimbleClientSendStepsToServer self input).events 0 := by
  have hheader := @current_nimbleClientWriteHeader _ ids self (fldOutStreamInit L)
    input.stepsHeaderNow
  obtain ⟨hlogic, steps, hoctets⟩ := sendStepsToStream_frame
    (nimbleClientWriteHeader self (fldOutStreamInit L) input.stepsHeaderNow).1
    (headerStream self input.stepsHeaderNow)
  have hcurrent : ids.current (sendStepsToStream
      (nimbleClientWriteHeader self (fldOutStreamInit L) input.stepsHeaderNow).1
      (headerStream self input.stepsHeaderNow)).2.1 = ids.current self :=
    (congrArg ids.currentId hlogic).trans hheader
  have hcarried := @carriedId_headerStream _ ids self input.stepsHeaderNow steps
  rw [← hoctets] at hcarried
  rw [nimbleClientSendStepsToServer]
  dsimp only
  split
  · exact Accounts.of_silent rfl rfl hcurrent
  · refine Accounts.of_commit (congrArg (fun id => [id]) hcurrent)
      (Or.inl ⟨congrArg (fun id => [id]) hcarried, rfl⟩) ?_
    rw [← hcurrent]
    exact ids.currentId_commit _

theorem committed_of_forall {events : List (OutgoingEvent L)}
    (h : ∀ event ∈ events, event = .blobStreamSend) : ids.committed events = [] := by
  apply List.filterMap_eq_nil_iff.mpr
  intro event hevent
  rw [h event hevent]

theorem sent_of_forall {events : List (OutgoingEvent L)}
    (h : ∀ event ∈ events, event = .blobStreamSend) : ids.sent events = [] := by
  apply List.filterMap_eq_nil_iff.mpr
  intro event hevent
  rw [h event hevent]

theorem committed_append (events more : List (OutgoingEvent L)) :
    ids.committed (events ++ more) = ids.committed events ++ ids.committed more :=
  List.filterMap_append

theorem sent_append (events more : List (OutgoingEvent L)) :
    ids.sent (events ++ more) = ids.sent events ++ ids.sent more :=
  List.filterMap_append

/-- The message that is put behind the header of a message datagram. -/
def outgoingMessage (self : NimbleClient L) (input : OutgoingInput) : MessageOutcome L :=
  sendMessageUsingStream
    (nimbleClientWriteHeader self (fldOutStreamInit L) input.messageHeaderNow).1
    (headerStream self input.messageHeaderNow)

/-- A downloading client puts an acknowledgement of the blob there. -/
theorem outgoingMessage_of_downloading {self : NimbleClient L} {input : OutgoingInput}
    (hstate : self.state = .joiningDownloadingState) :
    outgoingMessage self input = sendBlobStreamCommands
      (nimbleClientWriteHeader self (fldOutStreamInit L) input.messageHeaderNow).1
      (headerStream self input.messageHeaderNow) := by
  rw [outgoingMessage, sendMessageUsingStream]
  rw [show (nimbleClientWriteHeader self (fldOutStreamInit L) input.messageHeaderNow).1.state =
    .joiningDownloadingState from hstate]

/-- In front of what follows, a message sends nothing. -/
theorem sentOctets_outgoingMessage (self : NimbleClient L) (input : OutgoingInput)
    (more : List (OutgoingEvent L)) :
    sentOctets (.writeHeader self.remoteConnectionId :: (outgoingMessage self input).events ++
      more) = sentOctets more := by
  have hsilent : ∀ event ∈ (outgoingMessage self input).events, event = .blobStreamSend :=
    (silent_sendMessageUsingStream _ _).2
  have hnil : sentOctets (outgoingMessage self input).events = [] := by
    apply List.filterMap_eq_nil_iff.mpr
    intro event hevent
    rw [hsilent event hevent]
  have happend := sentOctets_append (outgoingMessage self input).events more
  rw [hnil, List.nil_append] at happend
  exact happend

theorem sendMessageDatagram_eq (self : NimbleClient L) (input : OutgoingInput) :
    sendMessageDatagram self input =
      let message := outgoingMessage self input
      let other := nimbleClientCommitHeader message.client
      if message.result < 0 then
        ⟨message.result, message.client, .writeHeader self.remoteConnectionId :: message.events⟩
      else if message.stream.pos ≤ 10 then
        ⟨0, other, .writeHeader self.remoteConnectionId :: message.events ++
          [.commitHeader message.client.orderedDatagramOut]⟩
      else
        ⟨input.messageSendResult,
          { other with packetsPerSecondOut := L.statsIntPerSecondAdd other.packetsPerSecondOut 1 },
          .writeHeader self.remoteConnectionId :: message.events ++
            [.commitHeader message.client.orderedDatagramOut, .send message.stream.octets]⟩ := rfl

theorem current_outgoingMessage (self : NimbleClient L) (input : OutgoingInput) :
    ids.current (outgoingMessage self input).client = ids.current self :=
  (congrArg ids.currentId (silent_sendMessageUsingStream _ _).1).trans
    (current_nimbleClientWriteHeader self _ _)

theorem carriedId_outgoingMessage (self : NimbleClient L) (input : OutgoingInput) :
    ids.carriedId (outgoingMessage self input).stream.octets = ids.current self := by
  obtain ⟨message, hoctets⟩ := octets_sendMessageUsingStream
    (nimbleClientWriteHeader self (fldOutStreamInit L) input.messageHeaderNow).1
    (headerStream self input.messageHeaderNow)
  rw [outgoingMessage]
  rw [hoctets, carriedId_headerStream]

theorem pos_outgoingMessage (hsizes : HeaderSizes L) (self : NimbleClient L)
    (input : OutgoingInput) :
    10 < (outgoingMessage self input).stream.pos ↔ self.HasMessage :=
  pos_sendMessageUsingStream hsizes _ self input.messageHeaderNow

theorem sentOctets_sendMessageDatagram_of_fails {self : NimbleClient L} {input : OutgoingInput}
    (h : (outgoingMessage self input).result < 0) :
    sentOctets (sendMessageDatagram self input).events = [] := by
  have hmessage := sentOctets_outgoingMessage self input []
  rw [List.append_nil] at hmessage
  rw [sendMessageDatagram_eq]
  dsimp only
  rw [if_pos h]
  exact hmessage

theorem sentOctets_sendMessageDatagram_of_pos {self : NimbleClient L} {input : OutgoingInput}
    (hpos : 10 < (outgoingMessage self input).stream.pos)
    (h : ¬(outgoingMessage self input).result < 0) :
    sentOctets (sendMessageDatagram self input).events =
      [(outgoingMessage self input).stream.octets] := by
  rw [sendMessageDatagram_eq]
  dsimp only
  rw [if_neg h, if_neg (Nat.not_le.mpr hpos), sentOctets_outgoingMessage]
  rfl

/-- A message datagram that is sent holds the message and is longer than a header. -/
theorem eq_of_mem_sendMessageDatagram {self : NimbleClient L} {input : OutgoingInput}
    {octets : List UInt8} (h : octets ∈ sentOctets (sendMessageDatagram self input).events) :
    octets = (outgoingMessage self input).stream.octets ∧
      10 < (outgoingMessage self input).stream.pos := by
  by_cases hfails : (outgoingMessage self input).result < 0
  · rw [sentOctets_sendMessageDatagram_of_fails hfails] at h
    cases h
  by_cases hpos : 10 < (outgoingMessage self input).stream.pos
  · rw [sentOctets_sendMessageDatagram_of_pos hpos hfails] at h
    exact ⟨List.mem_singleton.mp h, hpos⟩
  · rw [sendMessageDatagram_eq] at h
    dsimp only at h
    rw [if_neg hfails, if_pos (Nat.not_lt.mp hpos), sentOctets_outgoingMessage] at h
    cases h

theorem result_outgoingMessage_of_synced {self : NimbleClient L} (h : self.state = .synced)
    (input : OutgoingInput) : (outgoingMessage self input).result = 0 := by
  have hstate : (nimbleClientWriteHeader self (fldOutStreamInit L)
      input.messageHeaderNow).1.state = .synced := h
  rw [outgoingMessage, sendMessageUsingStream]
  rw [hstate]
  rw [updateSyncedSubState]
  dsimp only
  split <;> rfl

/-- The ids of a message datagram up to its commit. -/
theorem ids_outgoingMessage (self : NimbleClient L) (input : OutgoingInput)
    (more : List (OutgoingEvent L)) :
    ids.committed (.writeHeader self.remoteConnectionId ::
        (outgoingMessage self input).events ++ more) = ids.committed more ∧
      ids.sent (.writeHeader self.remoteConnectionId ::
        (outgoingMessage self input).events ++ more) = ids.sent more := by
  have hsilent : ∀ event ∈ (outgoingMessage self input).events, event = .blobStreamSend :=
    (silent_sendMessageUsingStream _ _).2
  rw [committed_append, sent_append]
  constructor
  · change ids.committed (outgoingMessage self input).events ++ _ = _
    rw [committed_of_forall hsilent, List.nil_append]
  · change ids.sent (outgoingMessage self input).events ++ _ = _
    rw [sent_of_forall hsilent, List.nil_append]

theorem accounts_sendMessageDatagram_of_hasMessage (hsizes : HeaderSizes L)
    {self : NimbleClient L} (h : self.HasMessage) (input : OutgoingInput) :
    Accounts ids self (sendMessageDatagram self input).client
      (sendMessageDatagram self input).events 0 := by
  have hcurrent := @current_outgoingMessage _ ids self input
  have hcarried := @carriedId_outgoingMessage _ ids self input
  have hpos := (pos_outgoingMessage hsizes self input).mpr h
  rw [sendMessageDatagram_eq]
  dsimp only
  split
  · have hids := @ids_outgoingMessage _ ids self input []
    rw [List.append_nil] at hids
    exact Accounts.of_silent hids.1 hids.2 hcurrent
  · rw [if_neg (Nat.not_le.mpr hpos)]
    obtain ⟨hcommitted, hsent⟩ := @ids_outgoingMessage _ ids self input
      [.commitHeader (outgoingMessage self input).client.orderedDatagramOut,
        .send (outgoingMessage self input).stream.octets]
    refine Accounts.of_commit (hcommitted.trans (congrArg (fun id => [id]) hcurrent))
      (Or.inl ⟨hsent.trans (congrArg (fun id => [id]) hcarried), rfl⟩) ?_
    rw [← hcurrent]
    exact ids.currentId_commit _

/-- A synced client without a message commits an id that it does not send. -/
theorem accounts_sendMessageDatagram_of_headerOnly (hsizes : HeaderSizes L)
    {self : NimbleClient L} (hstate : self.state = .synced) (h : ¬self.HasMessage)
    (input : OutgoingInput) :
    Accounts ids self (sendMessageDatagram self input).client
      (sendMessageDatagram self input).events 1 := by
  have hcurrent := @current_outgoingMessage _ ids self input
  have hpos : (outgoingMessage self input).stream.pos ≤ 10 :=
    Nat.not_lt.mp fun hlt => h ((pos_outgoingMessage hsizes self input).mp hlt)
  have hresult := result_outgoingMessage_of_synced hstate input
  rw [sendMessageDatagram_eq]
  dsimp only
  rw [if_neg (by omega), if_pos hpos]
  obtain ⟨hcommitted, hsent⟩ := @ids_outgoingMessage _ ids self input
    [.commitHeader (outgoingMessage self input).client.orderedDatagramOut]
  refine Accounts.of_commit (hcommitted.trans (congrArg (fun id => [id]) hcurrent))
    (Or.inr ⟨hsent, rfl⟩) ?_
  rw [← hcurrent]
  exact ids.currentId_commit _

/-- Each call accounts for its ids, but for the one that a header-only datagram skips. -/
theorem accounts_handleState (hsizes : HeaderSizes L) (self : NimbleClient L)
    (input : OutgoingInput) :
    Accounts ids self (handleState self input).client (handleState self input).events
      (if HeaderOnly self input then 1 else 0) := by
  have hother : self.state ≠ .synced → (if HeaderOnly self input then 1 else 0) = 0 :=
    fun hstate => if_neg fun h => hstate h.1
  rw [handleState]
  cases hstate : self.state with
  | idle =>
      rw [hother (by rw [hstate]; decide)]
      exact Accounts.of_silent rfl rfl rfl
  | connected =>
      rw [hother (by rw [hstate]; decide)]
      exact Accounts.of_silent rfl rfl rfl
  | disconnected =>
      rw [hother (by rw [hstate]; decide)]
      exact Accounts.of_silent rfl rfl rfl
  | requestingConnect =>
      rw [hother (by rw [hstate]; decide)]
      exact accounts_sendMessageDatagram_of_hasMessage hsizes (Or.inl hstate) input
  | joiningRequestingState =>
      rw [hother (by rw [hstate]; decide)]
      exact accounts_sendMessageDatagram_of_hasMessage hsizes (Or.inr (Or.inl hstate)) input
  | joiningDownloadingState =>
      rw [hother (by rw [hstate]; decide)]
      exact accounts_sendMessageDatagram_of_hasMessage hsizes
        (Or.inr (Or.inr (Or.inl hstate))) input
  | synced =>
      have hsteps := @accounts_nimbleClientSendStepsToServer _ ids self input
      have hsame := (sendsTo_nimbleClientSendStepsToServer self input).protocolState_eq
      have hstate' : (nimbleClientSendStepsToServer self input).client.state = .synced :=
        (congrArg ProtocolState.state hsame).trans hstate
      have hphase : (nimbleClientSendStepsToServer self input).client.joinParticipantPhase =
          self.joinParticipantPhase := congrArg ProtocolState.joinParticipantPhase hsame
      dsimp only
      split
      · rw [if_neg fun h : HeaderOnly self input => absurd h.2.2 (by omega)]
        exact hsteps
      · rename_i hresult
        by_cases hjoining : self.joinParticipantPhase = .joiningParticipant
        · rw [if_neg fun h : HeaderOnly self input => h.2.1 hjoining]
          exact hsteps.trans (accounts_sendMessageDatagram_of_hasMessage hsizes
            (Or.inr (Or.inr (Or.inr ⟨hstate', hphase.trans hjoining⟩))) input)
        · rw [if_pos ⟨hstate, hjoining, by omega⟩, ← Nat.zero_add 1]
          refine hsteps.trans (accounts_sendMessageDatagram_of_headerOnly hsizes hstate' ?_ input)
          rw [NimbleClient.HasMessage]
          rw [hstate', hphase]
          simp [hjoining]

theorem Accounts.of_current_eq {a b c : NimbleClient L} {events : List (OutgoingEvent L)}
    {skipped : Nat} (h : Accounts ids a b events skipped)
    (hcurrent : ids.current c = ids.current b) : Accounts ids a c events skipped :=
  ⟨h.committed, hcurrent.trans h.current, h.length, h.sent⟩

theorem Accounts.of_start_eq {a b c : NimbleClient L} {events : List (OutgoingEvent L)}
    {skipped : Nat} (h : Accounts ids b c events skipped)
    (hcurrent : ids.current a = ids.current b) : Accounts ids a c events skipped :=
  ⟨hcurrent ▸ h.committed, hcurrent ▸ h.current, h.length, h.sent⟩

theorem events_nimbleClientOutgoing (self : NimbleClient L) (input : OutgoingInput) :
    (nimbleClientOutgoing self input).events = (handleState self input).events := by
  rw [nimbleClientOutgoing]
  dsimp only
  split <;> rfl

theorem accounts_nimbleClientOutgoing (hsizes : HeaderSizes L) (self : NimbleClient L)
    (input : OutgoingInput) :
    Accounts ids self (nimbleClientOutgoing self input).client
      (nimbleClientOutgoing self input).events (if HeaderOnly self input then 1 else 0) := by
  have hhandled := @accounts_handleState _ ids hsizes self input
  rw [nimbleClientOutgoing]
  dsimp only
  split
  · exact hhandled
  · exact hhandled.of_current_eq rfl

/-! ## Runs -/

/-- The call of `nimbleClientOutgoing` that an update makes, if it gets that far. -/
def updateCall? (self : NimbleClient L) (input : UpdateInput L) :
    Option (NimbleClient L × OutgoingInput) :=
  if self.IsCutShort input ∨ 0 < (updateSender self input).waitTime ∨
      (updateSender self input).state = .idle ∨ (updateSender self input).state = .disconnected
  then none
  else some (updateSender self input, input.outgoing)

/-- The call of `nimbleClientOutgoing` that a call makes on its way, if it makes one. -/
def outgoingCall? (self : NimbleClientRealize L) :
    Operation L → Option (NimbleClient L × OutgoingInput)
  | .outgoing input => some (self.client, input)
  | operation => (clientUpdate? self operation).bind (updateCall? self.client)

theorem outgoingCall?_of_update {self : NimbleClientRealize L} {operation : Operation L}
    {input : UpdateInput L} (h : clientUpdate? self operation = some input) :
    outgoingCall? self operation = updateCall? self.client input := by
  cases operation with
  | outgoing input => cases h
  | _ => simp only [outgoingCall?, h, Option.bind_some]

/-- The client that sends in a call: the one it is made on, or the one that its update has led
to. -/
theorem outgoingCall?_cases {self : NimbleClientRealize L} {operation : Operation L}
    {call : NimbleClient L × OutgoingInput} (h : call ∈ outgoingCall? self operation) :
    (∃ input, operation = .outgoing input ∧ call = (self.client, input)) ∨
      ∃ input, clientUpdate? self operation = some input ∧ ¬self.client.IsCutShort input ∧
        call = (updateSender self.client input, input.outgoing) := by
  have hupdate : (clientUpdate? self operation).bind (updateCall? self.client) = some call →
      ∃ input, clientUpdate? self operation = some input ∧ ¬self.client.IsCutShort input ∧
        call = (updateSender self.client input, input.outgoing) := by
    intro hcall
    obtain ⟨input, hinput, hcall⟩ := Option.bind_eq_some_iff.mp hcall
    unfold updateCall? at hcall
    split at hcall
    · cases hcall
    · rename_i hsends
      exact ⟨input, hinput, (not_or.mp hsends).1, (Option.some.inj hcall).symm⟩
  cases operation with
  | outgoing input => exact Or.inl ⟨input, rfl, (Option.some.inj h).symm⟩
  | _ => exact Or.inr (hupdate h)

/-- The events of a call of `nimbleClientOutgoing`. -/
def callEvents (call : Option (NimbleClient L × OutgoingInput)) : List (OutgoingEvent L) :=
  (call.map fun c => (nimbleClientOutgoing c.1 c.2).events).getD []

theorem mem_callEvents {call : Option (NimbleClient L × OutgoingInput)}
    {event : OutgoingEvent L} :
    event ∈ callEvents call ↔ ∃ c ∈ call, event ∈ (nimbleClientOutgoing c.1 c.2).events := by
  cases call with
  | none => simp [callEvents]
  | some c => simp [callEvents]

/-- An update does nothing but send, and all it sends is sent by that call. -/
theorem events_nimbleClientUpdate (self : NimbleClient L) (input : UpdateInput L) :
    (nimbleClientUpdate self input).events = callEvents (updateCall? self input) := by
  by_cases hcut : self.IsCutShort input
  · have hnone : updateCall? self input = none := if_pos (Or.inl hcut)
    rw [hnone, nimbleClientUpdate_of_cutShort hcut]
    rfl
  by_cases hwait : 0 < (updateSender self input).waitTime
  · have hnone : updateCall? self input = none := if_pos (Or.inr (Or.inl hwait))
    rw [hnone, nimbleClientUpdate_of_waits hcut hwait]
    rfl
  rw [nimbleClientUpdate_of_sends hcut hwait]
  rw [sendPackets]
  by_cases hstate : (updateSender self input).state = .idle ∨
      (updateSender self input).state = .disconnected
  · have hnone : updateCall? self input = none := if_pos (Or.inr (Or.inr hstate))
    rw [hnone, if_pos hstate]
    rfl
  · have hsome : updateCall? self input = some (updateSender self input, input.outgoing) :=
      if_neg (by rw [not_or, not_or]; exact ⟨hcut, hwait, hstate⟩)
    rw [hsome, if_neg hstate]
    rfl

theorem events_performOperation (self : NimbleClientRealize L) (operation : Operation L) :
    (performOperation self operation).2.events = callEvents (outgoingCall? self operation) := by
  cases operation with
  | update input => exact events_nimbleClientUpdate self.client input
  | realizeUpdate input =>
      simp only [performOperation, outgoingCall?, clientUpdate?]
      by_cases hdisconnected : self.client.state = .disconnected
      · rw [nimbleClientRealizeUpdate_of_disconnected hdisconnected,
          if_neg fun hc => hc.1 hdisconnected]
        rfl
      by_cases hupdates : self.UpdatesClient
      · rw [nimbleClientRealizeUpdate_of_updates ⟨hdisconnected, hupdates⟩,
          if_pos ⟨hdisconnected, hupdates⟩]
        exact events_nimbleClientUpdate self.client input
      · rw [nimbleClientRealizeUpdate_of_not_updates hdisconnected hupdates,
          if_neg fun hc => hupdates hc.2]
        rfl
  | _ => rfl

/-- On the way of this call an id is committed that is not sent. -/
def SkipsId (call : Option (NimbleClient L × OutgoingInput)) : Prop :=
  ∃ c ∈ call, HeaderOnly c.1 c.2

instance (call : Option (NimbleClient L × OutgoingInput)) : Decidable (SkipsId call) :=
  match call with
  | none => .isFalse (by simp [SkipsId])
  | some c => decidable_of_iff (HeaderOnly c.1 c.2) (by simp [SkipsId])

theorem not_skipsId_none : ¬SkipsId (none : Option (NimbleClient L × OutgoingInput)) := by
  simp [SkipsId]

theorem skipsId_some (c : NimbleClient L × OutgoingInput) :
    SkipsId (some c) ↔ HeaderOnly c.1 c.2 := by
  simp [SkipsId]

theorem OrderedIds.current_of_localFields {client other : NimbleClient L}
    (h : other.localFields = client.localFields) : ids.current other = ids.current client :=
  congrArg (fun fields : LocalFields L => ids.currentId fields.orderedDatagramOut) h

theorem accounts_nimbleClientUpdate (hsizes : HeaderSizes L) (self : NimbleClient L)
    (input : UpdateInput L) :
    Accounts ids self (nimbleClientUpdate self input).client
      (nimbleClientUpdate self input).events
      (if SkipsId (updateCall? self input) then 1 else 0) := by
  have hsender : ids.current (updateSender self input) = ids.current self :=
    OrderedIds.current_of_localFields (localFields_updateSender self input)
  by_cases hcut : self.IsCutShort input
  · have hnone : updateCall? self input = none := if_pos (Or.inl hcut)
    have hreceived : ids.current (self.received input).client = ids.current self :=
      OrderedIds.current_of_localFields (localFields_received self input)
    rw [hnone, if_neg not_skipsId_none, nimbleClientUpdate_of_cutShort hcut]
    exact Accounts.of_silent rfl rfl hreceived
  by_cases hwait : 0 < (updateSender self input).waitTime
  · have hnone : updateCall? self input = none := if_pos (Or.inr (Or.inl hwait))
    have hwatched : ids.current (watched (self.received input).client) = ids.current self :=
      OrderedIds.current_of_localFields
        ((localFields_watched _).trans (localFields_received self input))
    rw [hnone, if_neg not_skipsId_none, nimbleClientUpdate_of_waits hcut hwait]
    exact Accounts.of_silent rfl rfl hwatched
  rw [nimbleClientUpdate_of_sends hcut hwait]
  rw [sendPackets]
  by_cases hstate : (updateSender self input).state = .idle ∨
      (updateSender self input).state = .disconnected
  · have hnone : updateCall? self input = none := if_pos (Or.inr (Or.inr hstate))
    rw [hnone, if_neg not_skipsId_none, if_pos hstate]
    exact Accounts.of_silent rfl rfl hsender
  · have hsome : updateCall? self input = some (updateSender self input, input.outgoing) :=
      if_neg (by rw [not_or, not_or]; exact ⟨hcut, hwait, hstate⟩)
    rw [hsome, if_neg hstate]
    simp only [skipsId_some]
    exact (accounts_nimbleClientOutgoing hsizes _ _).of_start_eq hsender.symm

/-- A call on whose way an id is committed that is not sent. -/
def operationSkipsId (self : NimbleClientRealize L) (operation : Operation L) : Bool :=
  SkipsId (outgoingCall? self operation)

theorem current_followTarget (self : NimbleClientRealize L) :
    ids.current (followTarget self).client = ids.current self.client :=
  OrderedIds.current_of_localFields (localFields_followTarget self)

theorem accounts_performOperation (hsizes : HeaderSizes L) (self : NimbleClientRealize L)
    {operation : Operation L} (hrestarts : ¬operation.Restarts) :
    Accounts ids self.client (performOperation self operation).1.client
      (performOperation self operation).2.events
      (if operationSkipsId self operation then 1 else 0) := by
  simp only [operationSkipsId, decide_eq_true_eq]
  cases operation with
  | realizeInit settings now => exact absurd trivial hrestarts
  | realizeReInit settings now => exact absurd trivial hrestarts
  | realizeReset now => exact absurd trivial hrestarts
  | reset now => exact absurd trivial hrestarts
  | reInit transport now => exact absurd trivial hrestarts
  | outgoing input =>
      simp only [outgoingCall?, skipsId_some]
      exact accounts_nimbleClientOutgoing hsizes self.client input
  | update input => exact accounts_nimbleClientUpdate hsizes self.client input
  | realizeUpdate input =>
      have hnone : ∀ other : NimbleClientRealize L,
          ids.current other.client = ids.current self.client →
          clientUpdate? self (.realizeUpdate input) = none →
          Accounts ids self.client other.client []
            (if SkipsId (outgoingCall? self (.realizeUpdate input)) then 1 else 0) := by
        intro other hcurrent hupdate
        simp only [outgoingCall?, hupdate, Option.bind_none, if_neg not_skipsId_none]
        exact Accounts.of_silent rfl rfl hcurrent
      simp only [performOperation]
      by_cases hdisconnected : self.client.state = .disconnected
      · rw [nimbleClientRealizeUpdate_of_disconnected hdisconnected]
        exact hnone _ rfl (if_neg fun hc => hc.1 hdisconnected)
      by_cases hupdates : self.UpdatesClient
      · have hinput : clientUpdate? self (.realizeUpdate input) = some input :=
          if_pos ⟨hdisconnected, hupdates⟩
        rw [nimbleClientRealizeUpdate_of_updates ⟨hdisconnected, hupdates⟩]
        simp only [outgoingCall?, hinput, Option.bind_some]
        exact (accounts_nimbleClientUpdate hsizes self.client input).of_current_eq
          (current_followTarget _)
      · rw [nimbleClientRealizeUpdate_of_not_updates hdisconnected hupdates]
        exact hnone _ (current_followTarget self) (if_neg fun hc => hupdates hc.2)
  | _ => exact Accounts.of_silent rfl rfl rfl

/-- The events of a run, in order. -/
def outgoingEvents (start : NimbleClientRealize L) (operations : List (Operation L)) :
    List (OutgoingEvent L) :=
  ((realizer L).outputs start operations).flatMap OperationOutcome.events

theorem accounts_run (hsizes : HeaderSizes L) (start : NimbleClientRealize L)
    {operations : List (Operation L)} (hrestarts : ∀ operation ∈ operations,
      ¬operation.Restarts) :
    Accounts ids start.client ((realizer L).run start operations).client
      (outgoingEvents start operations)
      ((realizer L).countSteps operationSkipsId start operations) := by
  induction operations generalizing start with
  | nil => exact Accounts.of_silent rfl rfl rfl
  | cons operation operations ih =>
      have hhead := @accounts_performOperation _ ids hsizes start operation
        (hrestarts operation List.mem_cons_self)
      have htail := ih ((realizer L).step start operation).1
        fun o ho => hrestarts o (List.mem_cons_of_mem _ ho)
      rw [Machine.countSteps_cons, Nat.add_comm]
      exact hhead.trans htail

/-- In a run without restarts the ids of the datagrams that are sent are the ones that are
committed, and consecutive, exactly when no call sends from a synced client that is not joining
behind a steps datagram that did not fail. -/
theorem outgoing_ids (ids : OrderedIds L) (hsizes : HeaderSizes L)
    (start : NimbleClientRealize L) (operations : List (Operation L))
    (hrestarts : ∀ operation ∈ operations, ¬operation.Restarts) :
    let events := outgoingEvents start operations
    (ids.sent events = ids.committed events ∧
      ids.sent events =
        consecutive ids.modulus (ids.current start.client) (ids.sent events).length) ↔
    ∀ v ∈ (realizer L).visits start operations,
      ∀ call ∈ outgoingCall? v.1 v.2, ¬HeaderOnly call.1 call.2 := by
  intro events
  have haccounts := @accounts_run _ ids hsizes start operations hrestarts
  have hzero : (realizer L).countSteps operationSkipsId start operations = 0 ↔
      ∀ v ∈ (realizer L).visits start operations,
        ∀ call ∈ outgoingCall? v.1 v.2, ¬HeaderOnly call.1 call.2 := by
    rw [Machine.countSteps]
    rw [List.countP_eq_zero]
    simp only [operationSkipsId, decide_eq_true_eq]
    simp only [SkipsId, not_exists, not_and]
  rw [← hzero, ← haccounts.sent_eq_committed_iff]
  constructor
  · exact fun h => h.1
  · intro heq
    refine ⟨heq, ?_⟩
    have hcommitted := haccounts.committed
    rw [← heq] at hcommitted
    exact hcommitted

open Nimble.Small

/-- In the small implementation the ids are octets. -/
def smallIds : OrderedIds smallLibraries where
  modulus := 256
  currentId := UInt8.toNat
  carriedId octets := (octets.headD 0).toNat
  currentId_lt := UInt8.toNat_lt
  currentId_prepare _ _ := rfl
  carriedId_prepare _ _ _ := rfl
  currentId_commit logic := UInt8.toNat_add logic 1

theorem headerSizes_smallLibraries : HeaderSizes smallLibraries where
  header _ _ := show 3 ≤ 10 by decide
  command _ _ _ := show 10 < 11 by decide
  connectRequest _ _ _ := show 10 < 14 by decide
  joinGameRequest _ _ _ := show 10 < 13 by decide

theorem isSession_syncSession : ∀ operation ∈ syncSession 10 5, ¬operation.Restarts := by
  intro operation h
  simp only [syncSession, List.mem_cons, List.not_mem_nil, or_false] at h
  rcases h with rfl | rfl | rfl | rfl | rfl | rfl <;> exact id

/-- Until the join request is answered every id is sent. -/
theorem outgoing_ids_syncSession :
    smallIds.sent (outgoingEvents (freshRealizer 1) (syncSession 10 5)) =
      smallIds.committed (outgoingEvents (freshRealizer 1) (syncSession 10 5)) :=
  ((outgoing_ids smallIds headerSizes_smallLibraries (freshRealizer 1) (syncSession 10 5)
    isSession_syncSession).mpr (by decide +kernel)).1

/-- Behind the answer to the join request every update of the synced client commits the id of a
datagram that holds a header only, so the ids 3, 5 and 7 are never sent. -/
theorem outgoing_ids_counterexample :
    let events := outgoingEvents (freshRealizer 1)
      (syncSession 10 5 ++ [.realizeUpdate (updateWith [joinResponse 4 3]), .writeStep 10 [1],
        .realizeUpdate (updateWith []), .realizeUpdate (updateWith [])])
    smallIds.sent events = [0, 1, 2, 4, 6] ∧
      smallIds.committed events = [0, 1, 2, 3, 4, 5, 6, 7] := by
  decide +kernel

end Nimble
