import Nimble.Verification.SequenceIds
import Nimble.Verification.Sessions

/-! # Messages of clients that are alike

Clients that differ only in values that nothing of a session reads again take in and send the
same messages. -/

namespace Nimble

variable {L : Libraries}

/-! ## The fields that do not show -/

/-- The fields that no return value, no datagram and no participant lookup depends on. -/
structure Rest (L : Libraries) where
  joinedGameState : NimbleClientGameState
  frame : Nat
  statsCounter : Nat
  packetsPerSecondOut : L.StatsIntPerSecond
  packetsPerSecondIn : L.StatsIntPerSecond
  simulationStepsPerSecond : L.StatsIntPerSecond
  sentStepsDatagramCountPerSecond : L.StatsIntPerSecond
  blobStreamAllocator : ImprintAllocatorWithFree
  partyAndSessionSecret : L.NimbleSerializePartyAndSessionSecret
  lastUpdateMonotonicMsIsSet : Bool
  lastUpdateMonotonicMs : MonotonicTimeMs
  tickDuration : L.StatsInt
  qualityRating : Nat
  useDebugStreams : Bool
  remoteConnectionId : UInt8
  loggingTickCount : UInt32

/-- The client with other values in these fields. -/
def NimbleClient.withRest (self : NimbleClient L) (rest : Rest L) : NimbleClient L :=
  { self with
    joinedGameState := rest.joinedGameState
    frame := rest.frame
    statsCounter := rest.statsCounter
    packetsPerSecondOut := rest.packetsPerSecondOut
    packetsPerSecondIn := rest.packetsPerSecondIn
    simulationStepsPerSecond := rest.simulationStepsPerSecond
    sentStepsDatagramCountPerSecond := rest.sentStepsDatagramCountPerSecond
    blobStreamAllocator := rest.blobStreamAllocator
    partyAndSessionSecret := rest.partyAndSessionSecret
    lastUpdateMonotonicMsIsSet := rest.lastUpdateMonotonicMsIsSet
    lastUpdateMonotonicMs := rest.lastUpdateMonotonicMs
    tickDuration := rest.tickDuration
    quality := { self.quality with qualityRating := rest.qualityRating }
    useDebugStreams := rest.useDebugStreams
    remoteConnectionId := rest.remoteConnectionId
    loggingTickCount := rest.loggingTickCount }

def NimbleClient.rest (self : NimbleClient L) : Rest L where
  joinedGameState := self.joinedGameState
  frame := self.frame
  statsCounter := self.statsCounter
  packetsPerSecondOut := self.packetsPerSecondOut
  packetsPerSecondIn := self.packetsPerSecondIn
  simulationStepsPerSecond := self.simulationStepsPerSecond
  sentStepsDatagramCountPerSecond := self.sentStepsDatagramCountPerSecond
  blobStreamAllocator := self.blobStreamAllocator
  partyAndSessionSecret := self.partyAndSessionSecret
  lastUpdateMonotonicMsIsSet := self.lastUpdateMonotonicMsIsSet
  lastUpdateMonotonicMs := self.lastUpdateMonotonicMs
  tickDuration := self.tickDuration
  qualityRating := self.quality.qualityRating
  useDebugStreams := self.useDebugStreams
  remoteConnectionId := self.remoteConnectionId
  loggingTickCount := self.loggingTickCount

/-- The two clients differ in these fields at most. -/
def Alike (a b : NimbleClient L) : Prop :=
  b = a.withRest b.rest

theorem alike_withRest (self : NimbleClient L) (rest : Rest L) : Alike self (self.withRest rest) :=
  rfl

theorem Alike.eq_withRest {a b : NimbleClient L} (h : Alike a b) : ∃ rest, b = a.withRest rest :=
  ⟨b.rest, h⟩

/-- What does not depend on these fields is the same for clients that are alike. -/
theorem Alike.congr {a b : NimbleClient L} {α : Type} (h : Alike a b) (f : NimbleClient L → α)
    (hf : ∀ c rest, f (NimbleClient.withRest c rest) = f c) : f b = f a :=
  (congrArg f (show b = a.withRest b.rest from h)).trans (hf a b.rest)

/-- Two outcomes with the same value, and clients that are alike. -/
def AlikeResults {α : Type} (x y : α × NimbleClient L) : Prop :=
  y.1 = x.1 ∧ Alike x.2 y.2

/-- Branches that are related one by one, under equivalent conditions. -/
theorem related_ite {α β : Type} {R : α → β → Prop} {p q : Prop} [Decidable p] [Decidable q]
    (h : p ↔ q) {x y : α} {z w : β} (hpos : R x z) (hneg : R y w) :
    R (if p then x else y) (if q then z else w) := by
  by_cases hp : p
  · rw [if_pos hp, if_pos (h.mp hp)]
    exact hpos
  · rw [if_neg hp, if_neg fun hq => hp (h.mpr hq)]
    exact hneg

/-! ## Incoming datagrams -/

section

variable {a b : NimbleClient L}

theorem alike_nimbleClientOnConnectResponse (h : Alike a b) (inStream : FldInStream)
    (locals : FeedLocals L) :
    AlikeResults (nimbleClientOnConnectResponse a inStream locals)
      (nimbleClientOnConnectResponse b inStream locals) := by
  obtain ⟨rest, rfl⟩ := h.eq_withRest
  refine related_ite Iff.rfl ⟨rfl, rfl⟩ ?_
  exact related_ite Iff.rfl ⟨rfl, rfl⟩ ⟨rfl, rfl⟩

theorem alike_nimbleClientOnJoinGameResponse (h : Alike a b) (inStream : FldInStream)
    (locals : FeedLocals L) :
    AlikeResults (nimbleClientOnJoinGameResponse a inStream locals)
      (nimbleClientOnJoinGameResponse b inStream locals) := by
  obtain ⟨rest, rfl⟩ := h.eq_withRest
  refine related_ite Iff.rfl ⟨rfl, rfl⟩ ?_
  exact related_ite Iff.rfl ⟨rfl, rfl⟩ ⟨rfl, rfl⟩

theorem alike_nimbleClientOnDownloadGameStateResponse (h : Alike a b) (inStream : FldInStream)
    (locals : FeedLocals L) :
    AlikeResults (nimbleClientOnDownloadGameStateResponse a inStream locals)
      (nimbleClientOnDownloadGameStateResponse b inStream locals) := by
  obtain ⟨rest, rfl⟩ := h.eq_withRest
  refine related_ite Iff.rfl ⟨rfl, rfl⟩ ?_
  refine related_ite Iff.rfl ⟨rfl, rfl⟩ ?_
  exact related_ite Iff.rfl ⟨rfl, rfl⟩ ⟨rfl, rfl⟩

theorem alike_nimbleClientOnJoinGameParticipantOutOfSpaceResponse (h : Alike a b)
    (inStream : FldInStream) :
    AlikeResults (nimbleClientOnJoinGameParticipantOutOfSpaceResponse a inStream)
      (nimbleClientOnJoinGameParticipantOutOfSpaceResponse b inStream) := by
  obtain ⟨rest, rfl⟩ := h.eq_withRest
  exact related_ite Iff.rfl ⟨rfl, rfl⟩ ⟨rfl, rfl⟩

theorem alike_trySetInitialGameState (h : Alike a b) :
    Alike (trySetInitialGameState a) (trySetInitialGameState b) := by
  obtain ⟨rest, rfl⟩ := h.eq_withRest
  exact related_ite Iff.rfl rfl rfl

theorem alike_takePart (h : Alike a b) (inStream : FldInStream) :
    AlikeResults (a.takePart inStream) (b.takePart inStream) := by
  obtain ⟨rest, rfl⟩ := h.eq_withRest
  exact ⟨rfl, rfl⟩

theorem alike_nimbleClientOnDownloadGameStatePart (h : Alike a b) (inStream : FldInStream)
    (locals : FeedLocals L) :
    AlikeResults (nimbleClientOnDownloadGameStatePart a inStream locals)
      (nimbleClientOnDownloadGameStatePart b inStream locals) := by
  obtain ⟨hresult, hclient⟩ := alike_takePart h inStream
  have hsame := h.congr NimbleClient.joinStateChannel fun _ _ => rfl
  by_cases hchannel : partChannelId inStream locals = a.joinStateChannel
  · rw [nimbleClientOnDownloadGameStatePart_of_eq hchannel,
      nimbleClientOnDownloadGameStatePart_of_eq (hchannel.trans hsame.symm), hresult]
    rw [hclient.congr NimbleClient.blobStreamIn fun _ _ => rfl]
    refine related_ite Iff.rfl ⟨hresult, hclient⟩ ?_
    exact related_ite Iff.rfl ⟨rfl, alike_trySetInitialGameState hclient⟩ ⟨rfl, hclient⟩
  · rw [nimbleClientOnDownloadGameStatePart_of_ne hchannel,
      nimbleClientOnDownloadGameStatePart_of_ne fun heq => hchannel (heq.trans hsame)]
    exact ⟨rfl, h⟩

theorem alike_nimbleClientOnGameStepResponse (h : Alike a b) (inStream : FldInStream)
    (locals : FeedLocals L) :
    AlikeResults (nimbleClientOnGameStepResponse a inStream locals)
      (nimbleClientOnGameStepResponse b inStream locals) := by
  obtain ⟨rest, rfl⟩ := h.eq_withRest
  rw [nimbleClientOnGameStepResponse_eq, nimbleClientOnGameStepResponse_eq]
  exact related_ite Iff.rfl ⟨rfl, rfl⟩ ⟨rfl, rfl⟩

theorem alike_dispatchCommand (h : Alike a b) (cmd : UInt8) (inStream : FldInStream)
    (locals : FeedLocals L) :
    AlikeResults (dispatchCommand a cmd inStream locals)
      (dispatchCommand b cmd inStream locals) := by
  unfold dispatchCommand
  cases L.nimbleSerializeCmd cmd with
  | none => exact ⟨rfl, h⟩
  | some cmd =>
      cases cmd with
      | connectResponse => exact alike_nimbleClientOnConnectResponse h inStream locals
      | serverOutBlobStream => exact alike_nimbleClientOnDownloadGameStatePart h inStream locals
      | gameStepResponse =>
          obtain ⟨hresult, hclient⟩ := alike_nimbleClientOnGameStepResponse h inStream locals
          exact ⟨congrArg intCast hresult, hclient⟩
      | joinGameResponse => exact alike_nimbleClientOnJoinGameResponse h inStream locals
      | gameStateResponse =>
          exact alike_nimbleClientOnDownloadGameStateResponse h inStream locals
      | joinGameOutOfParticipantSlotsResponse =>
          exact alike_nimbleClientOnJoinGameParticipantOutOfSpaceResponse h inStream
      | _ => exact ⟨rfl, h⟩

/-- The same code and the same stream. -/
def AlikeStreams {β : Type} (x y : Int × NimbleClient L × β) : Prop :=
  y.1 = x.1 ∧ Alike x.2.1 y.2.1 ∧ y.2.2 = x.2.2

theorem alike_reportDropped (h : Alike a b) (delta : Int) :
    Alike (reportDropped a delta) (reportDropped b delta) := by
  obtain ⟨rest, rfl⟩ := h.eq_withRest
  exact related_ite Iff.rfl rfl rfl

theorem alike_nimbleClientReceivePong (h : Alike a b) (inStream : FldInStream)
    (now : MonotonicTimeMs) (locals : FeedLocals L) :
    AlikeStreams (nimbleClientReceivePong a inStream now locals)
      (nimbleClientReceivePong b inStream now locals) := by
  obtain ⟨rest, rfl⟩ := h.eq_withRest
  exact related_ite Iff.rfl ⟨rfl, rfl, rfl⟩ ⟨rfl, rfl, rfl⟩

theorem alike_readDatagramHeader (h : Alike a b) (datagram : Datagram L) :
    AlikeStreams (readDatagramHeader a datagram) (readDatagramHeader b datagram) := by
  obtain ⟨rest, rfl⟩ := h.eq_withRest
  refine related_ite Iff.rfl ⟨rfl, rfl, rfl⟩ ?_
  refine alike_nimbleClientReceivePong (alike_reportDropped ?_ _) _ _ _
  exact rfl

theorem alike_nimbleClientFeed (h : Alike a b) (datagram : Datagram L) :
    AlikeResults (nimbleClientFeed a datagram) (nimbleClientFeed b datagram) := by
  obtain ⟨hcode, hclient, hstream⟩ := alike_readDatagramHeader h datagram
  rw [nimbleClientFeed_eq, nimbleClientFeed_eq, hcode, hstream,
    h.congr NimbleClient.state fun _ _ => rfl]
  refine related_ite Iff.rfl ⟨rfl, h⟩ (related_ite Iff.rfl ⟨rfl, h⟩ ?_)
  exact related_ite Iff.rfl ⟨rfl, hclient⟩ (alike_dispatchCommand hclient _ _ _)

theorem alike_countPacketIn (h : Alike a b) : Alike a.countPacketIn b.countPacketIn := by
  obtain ⟨rest, rfl⟩ := h.eq_withRest
  rfl

theorem alike_receivedUsableDatagram (h : Alike a b) :
    Alike a.receivedUsableDatagram b.receivedUsableDatagram := by
  obtain ⟨rest, rfl⟩ := h.eq_withRest
  rfl

end

/-- Receive loops of clients that are alike stop at the same place with the same result. -/
theorem alike_receiveLoop {a b : NimbleClient L} (h : Alike a b) (count : Nat)
    (queue : List (Received L)) :
    (receiveLoop b count queue).result = (receiveLoop a count queue).result ∧
      (receiveLoop b count queue).queue = (receiveLoop a count queue).queue ∧
      Alike (receiveLoop a count queue).client (receiveLoop b count queue).client := by
  induction queue generalizing a b count with
  | nil => exact ⟨rfl, rfl, h⟩
  | cons received queue ih =>
      cases received with
      | error code => exact ⟨rfl, rfl, h⟩
      | datagram datagram =>
          by_cases hoctets : datagram.octets = []
          · rw [receiveLoop_of_empty hoctets, receiveLoop_of_empty hoctets]
            exact ⟨rfl, rfl, h⟩
          obtain ⟨hresult, hclient⟩ := alike_nimbleClientFeed (alike_countPacketIn h) datagram
          rw [receiveLoop_datagram hoctets, receiveLoop_datagram hoctets, hresult]
          by_cases hfails : (nimbleClientFeed a.countPacketIn datagram).1 < 0
          · rw [if_pos hfails, if_pos hfails]
            exact ⟨rfl, rfl, hclient⟩
          · rw [if_neg hfails, if_neg hfails]
            exact ih (alike_receivedUsableDatagram hclient) (count + 1)

/-! ## Outgoing datagrams -/

/-- The same return value and the same datagrams. -/
def AlikeOutgoing (x y : OutgoingOutcome L) : Prop :=
  y.result = x.result ∧ sentOctets y.events = sentOctets x.events ∧ Alike x.client y.client

/-- The same message. -/
def AlikeMessages (x y : MessageOutcome L) : Prop :=
  y.result = x.result ∧ y.stream = x.stream ∧ y.events = x.events ∧ Alike x.client y.client

section

variable {a b : NimbleClient L}

theorem alike_nimbleClientWriteHeader (h : Alike a b) (stream : FldOutStream)
    (now : MonotonicTimeMs) :
    Alike (nimbleClientWriteHeader a stream now).1 (nimbleClientWriteHeader b stream now).1 ∧
      (nimbleClientWriteHeader b stream now).2 = (nimbleClientWriteHeader a stream now).2 := by
  obtain ⟨rest, rfl⟩ := h.eq_withRest
  exact ⟨rfl, rfl⟩

theorem alike_sendStepsToStream (h : Alike a b) (stream : FldOutStream) :
    AlikeStreams (sendStepsToStream a stream) (sendStepsToStream b stream) := by
  obtain ⟨rest, rfl⟩ := h.eq_withRest
  refine related_ite Iff.rfl ⟨rfl, rfl, rfl⟩ ?_
  exact related_ite Iff.rfl ⟨rfl, rfl, rfl⟩ ⟨rfl, rfl, rfl⟩

theorem alike_countSteps (h : Alike a b) :
    Alike
      { nimbleClientCommitHeader a with
        sentStepsDatagramCountPerSecond :=
          L.statsIntPerSecondAdd (nimbleClientCommitHeader a).sentStepsDatagramCountPerSecond 1
        packetsPerSecondOut :=
          L.statsIntPerSecondAdd (nimbleClientCommitHeader a).packetsPerSecondOut 1 }
      { nimbleClientCommitHeader b with
        sentStepsDatagramCountPerSecond :=
          L.statsIntPerSecondAdd (nimbleClientCommitHeader b).sentStepsDatagramCountPerSecond 1
        packetsPerSecondOut :=
          L.statsIntPerSecondAdd (nimbleClientCommitHeader b).packetsPerSecondOut 1 } := by
  obtain ⟨rest, rfl⟩ := h.eq_withRest
  rfl

theorem alike_nimbleClientSendStepsToServer (h : Alike a b) (input : OutgoingInput) :
    AlikeOutgoing (nimbleClientSendStepsToServer a input)
      (nimbleClientSendStepsToServer b input) := by
  obtain ⟨hheader, hstream⟩ :=
    alike_nimbleClientWriteHeader h (fldOutStreamInit L) input.stepsHeaderNow
  obtain ⟨hsteps, hclient, hsent⟩ := alike_sendStepsToStream hheader
    (nimbleClientWriteHeader a (fldOutStreamInit L) input.stepsHeaderNow).2
  unfold nimbleClientSendStepsToServer
  dsimp only
  rw [hstream, hsteps, hsent]
  refine related_ite Iff.rfl ⟨rfl, rfl, hclient⟩ ⟨rfl, rfl, ?_⟩
  exact alike_countSteps hclient

theorem alike_sendBlobStreamCommands (h : Alike a b) (stream : FldOutStream) :
    AlikeMessages (sendBlobStreamCommands a stream) (sendBlobStreamCommands b stream) := by
  obtain ⟨rest, rfl⟩ := h.eq_withRest
  exact related_ite Iff.rfl ⟨rfl, rfl, rfl, rfl⟩ ⟨rfl, rfl, rfl, rfl⟩

theorem alike_updateSyncedSubState (h : Alike a b) (stream : FldOutStream) :
    AlikeMessages (updateSyncedSubState a stream) (updateSyncedSubState b stream) := by
  unfold updateSyncedSubState
  rw [h.congr NimbleClient.joinParticipantPhase fun _ _ => rfl]
  obtain ⟨rest, rfl⟩ := h.eq_withRest
  cases a.joinParticipantPhase with
  | joiningParticipant => exact ⟨rfl, rfl, rfl, rfl⟩
  | joinedParticipant => exact ⟨rfl, rfl, rfl, rfl⟩
  | outOfParticipantSlots => exact ⟨rfl, rfl, rfl, rfl⟩

theorem alike_sendMessageUsingStream (h : Alike a b) (stream : FldOutStream) :
    AlikeMessages (sendMessageUsingStream a stream) (sendMessageUsingStream b stream) := by
  unfold sendMessageUsingStream
  rw [h.congr NimbleClient.state fun _ _ => rfl]
  cases a.state with
  | joiningDownloadingState => exact alike_sendBlobStreamCommands h stream
  | synced => exact alike_updateSyncedSubState h stream
  | requestingConnect =>
      obtain ⟨rest, rfl⟩ := h.eq_withRest
      exact ⟨rfl, rfl, rfl, rfl⟩
  | joiningRequestingState =>
      obtain ⟨rest, rfl⟩ := h.eq_withRest
      exact ⟨rfl, rfl, rfl, rfl⟩
  | _ => exact ⟨rfl, rfl, rfl, h⟩

theorem alike_outgoingMessage (h : Alike a b) (input : OutgoingInput) :
    AlikeMessages (outgoingMessage a input) (outgoingMessage b input) := by
  obtain ⟨hheader, hstream⟩ :=
    alike_nimbleClientWriteHeader h (fldOutStreamInit L) input.messageHeaderNow
  unfold outgoingMessage headerStream
  rw [hstream]
  exact alike_sendMessageUsingStream hheader _

theorem alike_nimbleClientCommitHeader (h : Alike a b) :
    Alike (nimbleClientCommitHeader a) (nimbleClientCommitHeader b) := by
  obtain ⟨rest, rfl⟩ := h.eq_withRest
  rfl

theorem alike_countPacketOut (h : Alike a b) :
    Alike { a with packetsPerSecondOut := L.statsIntPerSecondAdd a.packetsPerSecondOut 1 }
      { b with packetsPerSecondOut := L.statsIntPerSecondAdd b.packetsPerSecondOut 1 } := by
  obtain ⟨rest, rfl⟩ := h.eq_withRest
  rfl

theorem alike_sendMessageDatagram (h : Alike a b) (input : OutgoingInput) :
    AlikeOutgoing (sendMessageDatagram a input) (sendMessageDatagram b input) := by
  obtain ⟨hresult, hstream, hevents, hclient⟩ := alike_outgoingMessage h input
  rw [sendMessageDatagram_eq, sendMessageDatagram_eq]
  dsimp only
  rw [hresult, hstream, hevents]
  refine related_ite Iff.rfl ⟨rfl, rfl, hclient⟩ ?_
  refine related_ite Iff.rfl ⟨rfl, ?_, alike_nimbleClientCommitHeader hclient⟩
    ⟨rfl, ?_, alike_countPacketOut (alike_nimbleClientCommitHeader hclient)⟩
  · rw [hclient.congr NimbleClient.orderedDatagramOut fun _ _ => rfl]
    rfl
  · rw [hclient.congr NimbleClient.orderedDatagramOut fun _ _ => rfl]
    rfl

theorem alike_handleState (h : Alike a b) (input : OutgoingInput) :
    AlikeOutgoing (handleState a input) (handleState b input) := by
  have hmessage := alike_sendMessageDatagram h input
  unfold handleState
  rw [h.congr NimbleClient.state fun _ _ => rfl]
  cases a.state with
  | requestingConnect => exact hmessage
  | joiningRequestingState => exact hmessage
  | joiningDownloadingState => exact hmessage
  | synced =>
      have hsteps := alike_nimbleClientSendStepsToServer h input
      obtain ⟨hresult, hevents, hclient⟩ := alike_sendMessageDatagram hsteps.2.2 input
      dsimp only
      rw [hsteps.1]
      refine related_ite Iff.rfl hsteps ⟨hresult, ?_, hclient⟩
      rw [sentOctets_append, sentOctets_append, hsteps.2.1, hevents]
  | _ => exact ⟨rfl, rfl, h⟩

theorem alike_nimbleClientOutgoing (h : Alike a b) (input : OutgoingInput) :
    AlikeOutgoing (nimbleClientOutgoing a input) (nimbleClientOutgoing b input) := by
  have hhandled := alike_handleState h input
  unfold nimbleClientOutgoing
  dsimp only
  rw [hhandled.1]
  refine related_ite Iff.rfl hhandled ⟨rfl, hhandled.2.1, ?_⟩
  obtain ⟨rest, hrest⟩ := hhandled.2.2.eq_withRest
  rw [hrest]
  rfl

theorem alike_sendPackets (h : Alike a b) (input : OutgoingInput) :
    AlikeOutgoing (sendPackets a input) (sendPackets b input) := by
  unfold sendPackets
  rw [h.congr NimbleClient.state fun _ _ => rfl]
  exact related_ite Iff.rfl ⟨rfl, rfl, h⟩ (alike_nimbleClientOutgoing h input)

end

end Nimble
