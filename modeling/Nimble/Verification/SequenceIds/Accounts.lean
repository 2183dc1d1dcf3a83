import Nimble.Model.SmallLibraries
import Nimble.Verification.Update

/-! # Accounts of sequence ids

The ids of the datagrams that are handed to the transport, for one message at a time. -/

namespace Nimble

variable {L : Libraries}

/-! ## The libraries as documented -/

/-- The ordered ids: preparing writes the current id in front of the datagram and keeps it, and
committing goes on to the next. -/
structure OrderedIds (L : Libraries) where
  modulus : Nat
  currentId : L.OrderedDatagramOutLogic → Nat
  /-- The id that a datagram starts with. -/
  carriedId : List UInt8 → Nat
  currentId_lt : ∀ logic, currentId logic < modulus
  currentId_prepare : ∀ logic stream,
    currentId (L.orderedDatagramOutLogicPrepare logic stream).2 = currentId logic
  carriedId_prepare : ∀ logic stream rest,
    carriedId ((L.orderedDatagramOutLogicPrepare logic stream).1.octets ++ rest) =
      currentId logic
  currentId_commit : ∀ logic,
    currentId (L.orderedDatagramOutLogicCommit logic) = (currentId logic + 1) % modulus

/-- The stream behind the header of a datagram. -/
def headerStream (self : NimbleClient L) (now : MonotonicTimeMs) : FldOutStream :=
  (nimbleClientWriteHeader self (fldOutStreamInit L) now).2

/-- A header has at most 10 octets, and more with a command behind it. -/
structure HeaderSizes (L : Libraries) : Prop where
  header : ∀ (self : NimbleClient L) now, (headerStream self now).pos ≤ 10
  command : ∀ (self : NimbleClient L) now cmd,
    10 < ((headerStream self now).write (L.nimbleSerializeWriteCommand cmd)).pos
  connectRequest : ∀ (self : NimbleClient L) now request,
    10 < ((headerStream self now).write (L.nimbleSerializeClientOutConnectRequest request)).pos
  joinGameRequest : ∀ (self : NimbleClient L) now request,
    10 < ((headerStream self now).write (L.nimbleSerializeClientOutJoinGameRequest request)).pos

/-! ## Consecutive ids -/

/-- `count` ids from `first` on. -/
def consecutive (modulus first : Nat) : Nat → List Nat
  | 0 => []
  | count + 1 => first :: consecutive modulus ((first + 1) % modulus) count

theorem consecutive_append {modulus first : Nat} (hfirst : first < modulus) (m n : Nat) :
    consecutive modulus first (m + n) =
      consecutive modulus first m ++ consecutive modulus ((first + m) % modulus) n := by
  induction m generalizing first with
  | zero => simp [consecutive, Nat.mod_eq_of_lt hfirst]
  | succ m ih =>
      have hnext : (first + 1) % modulus < modulus := Nat.mod_lt _ (by omega)
      have hmod : ((first + 1) % modulus + m) % modulus = (first + (m + 1)) % modulus := by
        rw [Nat.mod_add_mod]
        congr 1
        omega
      rw [Nat.succ_add, consecutive, consecutive, ih hnext, hmod, List.cons_append]

/-! ## Accounts of ids -/

section

variable (ids : OrderedIds L)

/-- The id of the datagram that is written next. -/
def OrderedIds.current (client : NimbleClient L) : Nat :=
  ids.currentId client.orderedDatagramOut

def OrderedIds.committed (events : List (OutgoingEvent L)) : List Nat :=
  events.filterMap fun
    | .commitHeader logic => some (ids.currentId logic)
    | _ => none

def OrderedIds.sent (events : List (OutgoingEvent L)) : List Nat :=
  events.filterMap fun
    | .send octets => some (ids.carriedId octets)
    | _ => none

/-- Between `client` and `other` the events commit consecutive ids, and `skipped` of them are in
no datagram. -/
structure Accounts (client other : NimbleClient L) (events : List (OutgoingEvent L))
    (skipped : Nat) : Prop where
  committed : ids.committed events =
    consecutive ids.modulus (ids.current client) (ids.committed events).length
  current : ids.current other =
    (ids.current client + (ids.committed events).length) % ids.modulus
  length : (ids.sent events).length + skipped = (ids.committed events).length
  sent : skipped = 0 → ids.sent events = ids.committed events

variable {ids}

theorem OrderedIds.current_lt (client : NimbleClient L) : ids.current client < ids.modulus :=
  ids.currentId_lt _

/-- No events between clients with the same current id. -/
theorem Accounts.of_silent {client other : NimbleClient L} {events : List (OutgoingEvent L)}
    (hcommitted : ids.committed events = []) (hsent : ids.sent events = [])
    (hcurrent : ids.current other = ids.current client) :
    Accounts ids client other events 0 := by
  refine ⟨by rw [hcommitted]; rfl, ?_, by rw [hcommitted, hsent]; rfl, ?_⟩
  · rw [hcommitted, hcurrent]
    exact (Nat.mod_eq_of_lt (OrderedIds.current_lt client)).symm
  · intro _
    rw [hcommitted, hsent]

/-- One commit, whose id was sent unless it is skipped. -/
theorem Accounts.of_commit {client other : NimbleClient L} {events : List (OutgoingEvent L)}
    {skipped : Nat} (hcommitted : ids.committed events = [ids.current client])
    (hsent : ids.sent events = [ids.current client] ∧ skipped = 0 ∨
      ids.sent events = [] ∧ skipped = 1)
    (hcurrent : ids.current other = (ids.current client + 1) % ids.modulus) :
    Accounts ids client other events skipped := by
  refine ⟨by rw [hcommitted]; rfl, by rw [hcommitted]; exact hcurrent, ?_, ?_⟩
  · rcases hsent with ⟨hsent, rfl⟩ | ⟨hsent, rfl⟩ <;> rw [hcommitted, hsent] <;> rfl
  · intro hskipped
    rcases hsent with ⟨hsent, _⟩ | ⟨_, hone⟩
    · rw [hcommitted, hsent]
    · omega

theorem Accounts.trans {a b c : NimbleClient L} {events more : List (OutgoingEvent L)}
    {m n : Nat} (hab : Accounts ids a b events m) (hbc : Accounts ids b c more n) :
    Accounts ids a c (events ++ more) (m + n) := by
  have hcommitted : ids.committed (events ++ more) = ids.committed events ++ ids.committed more :=
    List.filterMap_append
  have hsent : ids.sent (events ++ more) = ids.sent events ++ ids.sent more :=
    List.filterMap_append
  refine ⟨?_, ?_, ?_, ?_⟩
  · rw [hcommitted, List.length_append, consecutive_append (OrderedIds.current_lt a),
      ← hab.current, ← hab.committed, ← hbc.committed]
  · rw [hcommitted, List.length_append, hbc.current, hab.current, Nat.mod_add_mod,
      Nat.add_assoc]
  · have := hab.length
    have := hbc.length
    rw [hcommitted, hsent, List.length_append, List.length_append]
    omega
  · intro hskipped
    rw [hcommitted, hsent, hab.sent (by omega), hbc.sent (by omega)]

/-- Nothing is skipped exactly when the committed ids are the sent ones. -/
theorem Accounts.sent_eq_committed_iff {a b : NimbleClient L} {events : List (OutgoingEvent L)}
    {skipped : Nat} (h : Accounts ids a b events skipped) :
    ids.sent events = ids.committed events ↔ skipped = 0 := by
  constructor
  · intro heq
    have := h.length
    rw [heq] at this
    omega
  · exact h.sent

end

/-! ## Messages -/

/-- The state asks for a message behind the header. -/
def NimbleClient.HasMessage (self : NimbleClient L) : Prop :=
  self.state = .requestingConnect ∨ self.state = .joiningRequestingState ∨
    self.state = .joiningDownloadingState ∨
    self.state = .synced ∧ self.joinParticipantPhase = .joiningParticipant

theorem pos_write (stream : FldOutStream) (w : Writer) :
    (stream.write w).pos = stream.pos + (w stream).octets.length := by
  simp [FldOutStream.pos]

/-- A message goes behind what the stream holds. -/
theorem octets_sendMessageUsingStream (self : NimbleClient L) (stream : FldOutStream) :
    ∃ message, (sendMessageUsingStream self stream).stream.octets = stream.octets ++ message := by
  have hnone : ∃ message, stream.octets = stream.octets ++ message :=
    ⟨[], (List.append_nil _).symm⟩
  rw [sendMessageUsingStream]
  cases self.state with
  | idle => exact hnone
  | connected => exact hnone
  | disconnected => exact hnone
  | requestingConnect => exact ⟨_, FldOutStream.octets_write _ _⟩
  | joiningRequestingState =>
      simp only [sendStartDownloadStateRequest, FldOutStream.octets_write, List.append_assoc]
      exact ⟨_, rfl⟩
  | joiningDownloadingState =>
      rw [sendBlobStreamCommands]
      dsimp only
      split <;> exact ⟨_, by rw [FldOutStream.octets_write, List.append_assoc]⟩
  | synced =>
      rw [updateSyncedSubState]
      cases self.joinParticipantPhase with
      | joiningParticipant => exact ⟨_, FldOutStream.octets_write _ _⟩
      | joinedParticipant => exact hnone
      | outOfParticipantSlots => exact hnone

/-- A message neither prepares, nor commits, nor sends. -/
theorem silent_sendMessageUsingStream (self : NimbleClient L) (stream : FldOutStream) :
    (sendMessageUsingStream self stream).client.orderedDatagramOut = self.orderedDatagramOut ∧
      ∀ event ∈ (sendMessageUsingStream self stream).events, event = .blobStreamSend := by
  rw [sendMessageUsingStream]
  cases self.state with
  | joiningDownloadingState =>
      rw [sendBlobStreamCommands]
      dsimp only
      split <;> exact ⟨rfl, by simp⟩
  | synced =>
      rw [updateSyncedSubState]
      cases self.joinParticipantPhase with
      | joiningParticipant => exact ⟨rfl, by simp [sendJoinGameRequest]⟩
      | joinedParticipant => exact ⟨rfl, by simp⟩
      | outOfParticipantSlots => exact ⟨rfl, by simp⟩
  | requestingConnect => exact ⟨rfl, by simp [sendConnectRequest]⟩
  | joiningRequestingState => exact ⟨rfl, by simp [sendStartDownloadStateRequest]⟩
  | _ => exact ⟨rfl, by simp⟩

/-- A datagram holds more than its header exactly when the state asks for a message. -/
theorem pos_sendMessageUsingStream (hsizes : HeaderSizes L) (self header : NimbleClient L)
    (now : MonotonicTimeMs) :
    10 < (sendMessageUsingStream self (headerStream header now)).stream.pos ↔
      self.HasMessage := by
  have hheader := hsizes.header header now
  have hnone : ¬10 < (headerStream header now).pos := Nat.not_lt.mpr hheader
  rw [sendMessageUsingStream, NimbleClient.HasMessage]
  cases hstate : self.state with
  | idle => exact iff_of_false hnone (by simp)
  | connected => exact iff_of_false hnone (by simp)
  | disconnected => exact iff_of_false hnone (by simp)
  | requestingConnect => exact iff_of_true (hsizes.connectRequest header now _) (by simp)
  | joiningRequestingState =>
      have hcommand := hsizes.command header now .downloadGameStateRequest
      refine iff_of_true ?_ (by simp)
      simp only [sendStartDownloadStateRequest, pos_write] at hcommand ⊢
      omega
  | joiningDownloadingState =>
      have hcommand := hsizes.command header now .clientOutBlobStream
      refine iff_of_true ?_ (by simp)
      rw [sendBlobStreamCommands]
      dsimp only
      split <;> simp only [FldOutStream.pos, List.length_append] at hcommand ⊢ <;> omega
  | synced =>
      rw [updateSyncedSubState]
      cases hphase : self.joinParticipantPhase with
      | joiningParticipant => exact iff_of_true (hsizes.joinGameRequest header now _) (by simp)
      | joinedParticipant => exact iff_of_false hnone (by simp)
      | outOfParticipantSlots => exact iff_of_false hnone (by simp)

end Nimble
