import Nimble.Model.Update

/-! # The realizer (`network_realizer.c`) -/

namespace Nimble

variable {L : Libraries}

inductive NimbleClientRealizeState
  | init
  | reInit
  | cleared
  | synced
  | disconnected
  deriving DecidableEq

structure NimbleClientRealize (L : Libraries) where
  targetState : NimbleClientRealizeState
  state : NimbleClientRealizeState
  client : NimbleClient L
  settings : NimbleClientRealizeSettings L
  joinGameRequestNonce : NimbleSerializeNonce

/-- The nonce is not written. -/
def nimbleClientRealizeInit (self : NimbleClientRealize L)
    (settings : NimbleClientRealizeSettings L) (now : MonotonicTimeMs) : NimbleClientRealize L :=
  { self with
    targetState := .init
    state := .init
    settings := settings
    client := nimbleClientInit self.client settings now }

def nimbleClientRealizeReInit (self : NimbleClientRealize L)
    (settings : NimbleClientRealizeSettings L) (now : MonotonicTimeMs) : NimbleClientRealize L :=
  { self with
    targetState := .init
    state := .reInit
    settings := settings
    client := nimbleClientReInit self.client settings.transport now }

/-- The target is not written. -/
def nimbleClientRealizeReset (self : NimbleClientRealize L) (now : MonotonicTimeMs) :
    NimbleClientRealize L :=
  { self with
    client := nimbleClientReset self.client now
    state := .cleared
    joinGameRequestNonce := 0 }

def nimbleClientRealizeJoinGame (self : NimbleClientRealize L) (options : L.JoinGameOptions) :
    NimbleClientRealize L :=
  { self with
    joinGameRequestNonce := (self.joinGameRequestNonce + 1) % L.nonceModulus
    targetState := .synced
    client := { self.client with
      joinGameRequest := ⟨self.joinGameRequestNonce, options⟩
      joinParticipantPhase := .joiningParticipant } }

def nimbleClientRealizeQuitGame (self : NimbleClientRealize L) : NimbleClientRealize L :=
  { self with client := nimbleClientDisconnect self.client, targetState := .cleared }

/-- The two `switch` statements at the end of `nimbleClientRealizeUpdate`: one move of the
realizer, or of the client, towards the target. -/
def moveTowardsTarget (self : NimbleClientRealize L) : NimbleClientRealize L :=
  match self.targetState with
  | .init => self
  | .reInit => self
  | .disconnected => self
  | .cleared =>
    if self.state ≠ .cleared then { self with state := self.targetState } else self
  | .synced =>
    match self.client.state with
    | .idle =>
      { self with client := { self.client with state := .requestingConnect, waitTime := 0 } }
    | .connected =>
      { self with client := { self.client with
          state := .joiningRequestingState
          joinParticipantPhase := .joiningParticipant
          waitTime := 0 } }
    | .synced => { self with state := .synced, client := { self.client with waitTime := 0 } }
    | .requestingConnect => self
    | .joiningRequestingState => self
    | .joiningDownloadingState => self
    | .disconnected => self

/-- The outcome of an update of the realizer: the realizer, and the update of the client if
there was one. -/
structure RealizeOutcome (L : Libraries) where
  realize : NimbleClientRealize L
  update : Option (UpdateOutcome L)

/-- The test in front of the call of `nimbleClientUpdate`. -/
def NimbleClientRealize.UpdatesClient (self : NimbleClientRealize L) : Prop :=
  self.state ≠ .cleared ∧ self.targetState ≠ .init

instance (self : NimbleClientRealize L) : Decidable self.UpdatesClient :=
  inferInstanceAs (Decidable (_ ∧ _))

/-- The rest of `nimbleClientRealizeUpdate` once the client has been updated. -/
def followTarget (self : NimbleClientRealize L) : NimbleClientRealize L :=
  if self.targetState = self.state then self else moveTowardsTarget self

def nimbleClientRealizeUpdate (self : NimbleClientRealize L) (input : UpdateInput L) :
    RealizeOutcome L :=
  if self.client.state = .disconnected then ⟨{ self with state := .disconnected }, none⟩
  else if self.UpdatesClient then
    let update := nimbleClientUpdate self.client input
    ⟨followTarget { self with client := update.client }, some update⟩
  else ⟨followTarget self, none⟩

end Nimble
