import Nimble.Verification.SequenceIds

/-! # Events of a session

The feeds and restarts of a run, and the fields of a download from one of them to the next. -/

namespace Nimble

variable {L : Libraries}

/-! ## Events -/

/-- What a run does to a download: the client starts over, or is fed a datagram. -/
inductive SessionEvent (L : Libraries)
  | restart
  | feed (client : NimbleClient L) (datagram : Datagram L)

/-- The events of one call. -/
def sessionEvents (self : NimbleClientRealize L) : Operation L → List (SessionEvent L)
  | .realizeInit _ _ => [.restart]
  | .realizeReInit _ _ => [.restart]
  | .realizeReset _ => [.restart]
  | .reset _ => [.restart]
  | .reInit _ _ => [.restart]
  | operation => (operationFeeds self operation).map fun f => .feed f.1 f.2

/-- The events of a run, in order. -/
def runEvents (start : NimbleClientRealize L) (operations : List (Operation L)) :
    List (SessionEvent L) :=
  ((realizer L).visits start operations).flatMap fun v => sessionEvents v.1 v.2

/-- The game state response that is accepted in an event. -/
def SessionEvent.accepted? : SessionEvent L → Option GameStateFields
  | .restart => none
  | .feed client datagram =>
    (dispatch? client datagram).bind fun x =>
      if x.StartsDownload then some (gameStateFields x.inStream x.locals) else none

/-- The event is a feed that dispatches a command with this property. -/
def SessionEvent.Feeds (p : Dispatch L → Prop) : SessionEvent L → Prop
  | .restart => False
  | .feed client datagram => ∃ x, dispatch? client datagram = some x ∧ p x

/-- A join response is accepted. -/
def SessionEvent.Joins (event : SessionEvent L) : Prop :=
  event.Feeds Dispatch.Joins

/-- A part brings a chunk that the blob stream did not have. -/
def Dispatch.Contributes (x : Dispatch L) : Prop :=
  x.TakesPart ∧ (x.client.takePart x.inStream).2.blobStreamIn ≠ x.client.blobStreamIn

def SessionEvent.Contributes (event : SessionEvent L) : Prop :=
  event.Feeds Dispatch.Contributes

/-- The blob is adopted as the game state. -/
def SessionEvent.Adopts (event : SessionEvent L) : Prop :=
  event.Feeds Dispatch.AdoptsBlob

/-- The channel a dispatched part is on. -/
def SessionEvent.channel? : SessionEvent L → Option NimbleSerializeBlobStreamChannelId
  | .restart => none
  | .feed client datagram =>
    (dispatch? client datagram).map fun x => partChannelId x.inStream x.locals

/-! ## The fields of a download -/

structure DownloadFields (L : Libraries) where
  joinStateId : StepId
  joinStateChannel : NimbleSerializeBlobStreamChannelId
  blobStreamIn : L.BlobStreamIn

def NimbleClient.downloadFields (self : NimbleClient L) : DownloadFields L :=
  ⟨self.joinStateId, self.joinStateChannel, self.blobStreamIn⟩

/-- An accepted game state response names the state and the channel, an accepted join response
clears the channel, and a part goes to the blob stream. -/
theorem Dispatch.downloadFields_outcome (x : Dispatch L) :
    x.outcome.2.downloadFields =
      if x.StartsDownload then
        ⟨(gameStateFields x.inStream x.locals).stateId,
          (gameStateFields x.inStream x.locals).channelId, x.client.blobStreamIn⟩
      else if x.Joins then ⟨x.client.joinStateId, 0, x.client.blobStreamIn⟩
      else if x.TakesPart then
        ⟨x.client.joinStateId, x.client.joinStateChannel,
          (x.client.takePart x.inStream).2.blobStreamIn⟩
      else x.client.downloadFields := by
  have heffect := x.effect
  generalize x.outcome.2 = client at heffect ⊢
  cases heffect with
  | startDownload h =>
      rw [if_pos h]
      rfl
  | join h =>
      rw [if_neg (by simp [StartsDownload, h.1]), if_pos h]
      rfl
  | takePart h _ =>
      rw [if_neg (by simp [StartsDownload, h.1]), if_neg (by simp [Joins, h.1]), if_pos h]
      rfl
  | adoptBlob h =>
      rw [if_neg (by simp [StartsDownload, h.1.1]), if_neg (by simp [Joins, h.1.1]), if_pos h.1]
      rfl
  | connect h =>
      rw [if_neg (by simp [StartsDownload, h.1]), if_neg (by simp [Joins, h.1]),
        if_neg (by simp [TakesPart, h.1])]
      rfl
  | takeSteps h =>
      rw [if_neg (by simp [StartsDownload, h.1]), if_neg (by simp [Joins, h.1]),
        if_neg (by simp [TakesPart, h.1])]
      rfl
  | failSteps h =>
      rw [if_neg (by simp [StartsDownload, h]), if_neg (by simp [Joins, h]),
        if_neg (by simp [TakesPart, h])]
      rfl
  | outOfSlots h =>
      rw [if_neg (by simp [StartsDownload, h]), if_neg (by simp [Joins, h]),
        if_neg (by simp [TakesPart, h])]
      rfl
  | ignore h => rw [if_neg h.startsDownload, if_neg h.joins, if_neg h.takesPart]

theorem headerKeeps_downloadFields : HeaderKeeps (@NimbleClient.downloadFields L) :=
  headerKeeps_of fun _ _ _ _ _ _ => rfl

theorem downloadFields_beginUpdate (self : NimbleClient L) (now : MonotonicTimeMs) :
    (beginUpdate self now).downloadFields = self.downloadFields := by
  obtain ⟨_, _, _, _, h⟩ := beginUpdate_eq self now
  rw [h]
  rfl

/-- Behind the receive loop an update leaves the fields of the download alone. -/
theorem downloadFields_nimbleClientUpdate (self : NimbleClient L) (input : UpdateInput L) :
    (nimbleClientUpdate self input).client.downloadFields =
      (self.received input).client.downloadFields := by
  obtain ⟨_, h⟩ := client_nimbleClientUpdate self input
  rw [h]
  rfl

theorem downloadFields_nimbleClientOutgoing (self : NimbleClient L) (input : OutgoingInput) :
    (nimbleClientOutgoing self input).client.downloadFields = self.downloadFields := by
  obtain ⟨_, h⟩ := sendsTo_nimbleClientOutgoing self input
  rw [h]
  rfl

/-- Reset does not touch them either. -/
theorem downloadFields_nimbleClientReset (self : NimbleClient L) (now : MonotonicTimeMs) :
    (nimbleClientReset self now).downloadFields = self.downloadFields := by
  rw [nimbleClientReset]
  dsimp only
  obtain ⟨_, _, h⟩ := freeGameState_eq _
  rw [h]
  rfl

/-! ## From event to event -/

/-- The events lead from these fields of a download to those: nothing but the feeds changes
them, and each feed starts from what the one before it left. -/
inductive Leads : DownloadFields L → List (SessionEvent L) → DownloadFields L → Prop
  | nil (fields : DownloadFields L) : Leads fields [] fields
  | restart {fields last : DownloadFields L} {events : List (SessionEvent L)} :
      Leads fields events last → Leads fields (.restart :: events) last
  | feed {client : NimbleClient L} {datagram : Datagram L} {last : DownloadFields L}
      {events : List (SessionEvent L)} :
      Leads (nimbleClientFeed client datagram).2.downloadFields events last →
        Leads client.downloadFields (.feed client datagram :: events) last

theorem Leads.append {a b c : DownloadFields L} {events more : List (SessionEvent L)}
    (hab : Leads a events b) (hbc : Leads b more c) : Leads a (events ++ more) c := by
  induction hab with
  | nil fields => exact hbc
  | restart _ ih => exact .restart (ih hbc)
  | feed _ ih => exact .feed (ih hbc)

theorem Leads.split {a c : DownloadFields L} {events more : List (SessionEvent L)}
    (h : Leads a (events ++ more) c) : ∃ b, Leads a events b ∧ Leads b more c := by
  induction events generalizing a with
  | nil => exact ⟨a, .nil a, h⟩
  | cons event events ih =>
      cases h with
      | restart htail =>
          obtain ⟨b, hevents, hmore⟩ := ih htail
          exact ⟨b, .restart hevents, hmore⟩
      | feed htail =>
          obtain ⟨b, hevents, hmore⟩ := ih htail
          exact ⟨b, .feed hevents, hmore⟩

theorem leads_feeds (self : NimbleClient L) (count : Nat) (queue : List (Received L)) :
    Leads self.downloadFields ((feeds self queue).map fun f => .feed f.1 f.2)
      (receiveLoop self count queue).client.downloadFields := by
  induction queue generalizing self count with
  | nil => exact .nil _
  | cons received queue ih =>
      cases received with
      | error code => exact .nil _
      | datagram datagram =>
          by_cases hoctets : datagram.octets = []
          · rw [feeds_of_empty hoctets, receiveLoop_of_empty hoctets]
            exact .nil _
          rw [feeds_datagram hoctets, receiveLoop_datagram hoctets, List.map_cons]
          split
          · exact @Leads.feed _ self.countPacketIn _ _ _ (.nil _)
          · exact @Leads.feed _ self.countPacketIn _ _ _
              (ih (nimbleClientFeed self.countPacketIn datagram).2.receivedUsableDatagram
                (count + 1))

theorem leads_received (self : NimbleClient L) (input : UpdateInput L) :
    Leads self.downloadFields
      ((feeds (beginUpdate self input.now) input.queue).map fun f => .feed f.1 f.2)
      (self.received input).client.downloadFields := by
  rw [← downloadFields_beginUpdate self input.now]
  exact leads_feeds _ 0 input.queue

/-- The update of a call leads through what it is fed. -/
theorem leads_updatedClient (self : NimbleClientRealize L) (operation : Operation L) :
    Leads self.client.downloadFields
      ((operationFeeds self operation).map fun f => .feed f.1 f.2)
      (updatedClient self operation).downloadFields := by
  rw [operationFeeds, updatedClient]
  cases clientUpdate? self operation with
  | none => exact .nil _
  | some input =>
      dsimp only
      rw [downloadFields_nimbleClientUpdate]
      exact leads_received self.client input

theorem leads_of_restart {self other : NimbleClientRealize L}
    (hfields : other.client.downloadFields = self.client.downloadFields) :
    Leads self.client.downloadFields [.restart] other.client.downloadFields := by
  rw [hfields]
  exact .restart (.nil _)

theorem leads_performOperation (self : NimbleClientRealize L) (operation : Operation L) :
    Leads self.client.downloadFields (sessionEvents self operation)
      (performOperation self operation).1.client.downloadFields := by
  cases operation with
  | realizeInit settings now =>
      exact leads_of_restart ((downloadFields_nimbleClientReset _ now).trans rfl)
  | realizeReInit settings now =>
      exact leads_of_restart ((downloadFields_nimbleClientReset _ now).trans rfl)
  | realizeReset now => exact leads_of_restart (downloadFields_nimbleClientReset _ now)
  | reset now => exact leads_of_restart (downloadFields_nimbleClientReset _ now)
  | reInit transport now =>
      exact leads_of_restart ((downloadFields_nimbleClientReset _ now).trans rfl)
  | update input => exact leads_updatedClient self (.update input)
  | outgoing input =>
      have hfields := downloadFields_nimbleClientOutgoing self.client input
      change Leads _ [] (nimbleClientOutgoing self.client input).client.downloadFields
      rw [hfields]
      exact .nil _
  | realizeUpdate input =>
      have hleads := leads_updatedClient self (.realizeUpdate input)
      obtain ⟨_, _, _, hclient⟩ := client_realizeUpdate self input
      rw [hclient]
      exact hleads
  | _ => exact .nil _

theorem leads_run (start : NimbleClientRealize L) (operations : List (Operation L)) :
    Leads start.client.downloadFields (runEvents start operations)
      ((realizer L).run start operations).client.downloadFields := by
  induction operations generalizing start with
  | nil => exact .nil _
  | cons operation operations ih =>
      exact (leads_performOperation start operation).append (ih _)

end Nimble
