import SfuLoad.Client.Assignment
import SfuLoad.Client.Steps

/-!
# The set-up of a room

All peers of a room connect at once. Then the room goes through its rounds: the layouts of
one peer after another, and for each publication a round of the publisher alone and a
round in which all others accept the negotiation. A round starts once every peer has come
to rest; within a round the peers step in any order.
-/

namespace SfuLoad.Client.Protocol

open Kit.Runs Model

variable {Core Request Kind Slot : Type}

/-- One thing a room does with its peers before the media start. -/
inductive Round where
  | layouts (peerIndex : Nat) (layouts : List (Int × VideoLayoutIntent))
  | publish (publisherIndex : Nat) (kind : StreamType)
  | accept (publisherIndex : Nat)

namespace Round

/-- What a round asks of a peer. -/
def operation (peerIndex : Nat) : Round → Option Operation
  | .layouts index intents => if index = peerIndex then some (.setCameraLayouts intents) else none
  | .publish index kind => if index = peerIndex then some (.publish kind) else none
  | .accept index => if index = peerIndex then none else some .acceptNextNegotiation

/-- The publisher of a publication has to be there. -/
def isMissing (peerCount : Nat) : Round → Bool
  | .publish index _ => peerCount ≤ index
  | _ => false

/-- Start what the round asks of the peer. -/
def assign (round : Round) (peerIndex : Nat) (peer : Peer Core Request Kind Slot) :
    Peer Core Request Kind Slot :=
  match round.operation peerIndex with
  | none => peer
  | some operation => (peer.start operation).getD peer

end Round

/-- A layout of the plan, as the protocol spells it. -/
def layoutIntent : Rooms.VideoLayoutIntent → VideoLayoutIntent
  | .featured => .featured
  | .visibleThumbnail => .visibleThumbnail

/-- The layouts a peer sets, source by source. -/
def setLayouts (layouts : List (Int × Rooms.VideoLayoutIntent)) :
    List (Int × VideoLayoutIntent) :=
  layouts.map (fun entry => (entry.1, layoutIntent entry.2))

/-- One round for each peer of the room, in which it alone sets its layouts. -/
def configureVideoLayouts (peerCount publisherCount : UInt32) : List Round :=
  (List.range peerCount.toNat).map (fun peerIndex =>
    .layouts peerIndex (setLayouts (Rooms.cameraLayouts peerIndex publisherCount)))

/-- Each publication is followed by its acceptance by all others. -/
def publishSources (publisherCount : UInt32) (kind : StreamType) : List Round :=
  (List.range publisherCount.toNat).flatMap (fun publisherIndex =>
    [.publish publisherIndex kind, .accept publisherIndex])

/-- The rounds of a room of the scenario. -/
def roundsOf : ScenarioSpec → List Round
  | .smoke _ _ => publishSources 1 .audio
  | .audioMesh _ peers _ => publishSources peers .audio
  | .videoGallery _ peers publishers _ =>
    configureVideoLayouts peers publishers ++ publishSources publishers .camera
  | .mixedConference _ peers audioPublishers videoPublishers _ =>
    configureVideoLayouts peers videoPublishers ++ publishSources audioPublishers .audio ++
      publishSources videoPublishers .camera

/-- How far the set-up of a room has come. -/
inductive SetupStage where
  | settingUp
  | ready
  | failed (error : Fault)

/-- A room that is being set up. -/
structure Setup (Core Request Kind Slot : Type) where
  peers : List (Peer Core Request Kind Slot)
  rounds : List Round
  stage : SetupStage

/-- A peer of the room takes a step, or the next round starts. -/
inductive SetupAction where
  | peer (index : Nat) (action : Action)
  | proceed

namespace Peer

variable (self : Peer Core Request Kind Slot)

/-- The operation has returned. -/
def atRest : Bool :=
  match self.activity with
  | .failed _ => true
  | .idle => self.program.isEmpty
  | _ => false

/-- The fault a peer has ended with, if it has. -/
def fault : Option Fault :=
  match self.activity with
  | .failed error => some error
  | _ => none

/-- What a load peer takes over: the connected socket and the RTC peer. -/
def intoLoadPeer : Except Fault Nat :=
  match self.websocket, self.rtc with
  | false, _ => .error (.msg "protocol WebSocket is not connected")
  | true, none => .error (.msg "protocol RTC peer is not available")
  | true, some rtc => .ok rtc

end Peer

namespace Setup

/-- The peers of a room connect, each with its own token. -/
def initial (core : ProtocolCore Core Request Kind Slot) (spec : ScenarioSpec) (url roomId : String)
    (token : Nat → String) : Setup Core Request Kind Slot where
  peers := (List.range spec.peersPerRoom.toNat).map (fun peerIndex =>
    .new core url (token peerIndex) roomId)
  rounds := roundsOf spec
  stage := .settingUp

variable (self : Setup Core Request Kind Slot)

/-- All peers have come to rest. The room fails with the first of them that failed. -/
def advance : Setup Core Request Kind Slot :=
  match self.peers.findSome? Peer.fault with
  | some error => { self with stage := .failed error }
  | none =>
    match self.rounds with
    | round :: rounds =>
      if round.isMissing self.peers.length then
        { self with stage := .failed (.msg "publisher is missing") }
      else { self with peers := self.peers.mapIdx round.assign, rounds := rounds }
    | [] =>
      match self.peers.mapM Peer.intoLoadPeer with
      | .error error => { self with stage := .failed error }
      | .ok _ => { self with stage := .ready }

/-- The next round may start once all peers have come to rest. -/
def proceed : Option (Setup Core Request Kind Slot) :=
  match self.stage with
  | .settingUp => if self.peers.all Peer.atRest then some self.advance else none
  | _ => none

/-- A peer steps on its own. Operations are started by the rounds only. -/
def stepPeer [DecidableEq Kind] (core : ProtocolCore Core Request Kind Slot) (index : Nat)
    (action : Action) : Option (Setup Core Request Kind Slot) :=
  match self.stage, action with
  | .settingUp, .start _ => none
  | .settingUp, action => do
    let peer ← self.peers[index]?
    let next ← peer.step core action
    some { self with peers := self.peers.set index next }
  | _, _ => none

/-- One step of the set-up: of a peer, or to the next round. -/
def step [DecidableEq Kind] (core : ProtocolCore Core Request Kind Slot)
    (self : Setup Core Request Kind Slot) : SetupAction → Option (Setup Core Request Kind Slot)
  | .peer index action => self.stepPeer core index action
  | .proceed => self.proceed

end Setup

end SfuLoad.Client.Protocol
