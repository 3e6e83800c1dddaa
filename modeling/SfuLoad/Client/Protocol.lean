import SfuLoad.Kit.Runs
import SfuLoad.Kit.Table
import SfuLoad.Model.Fault

/-!
# A peer of the signaling protocol

The protocol core decides what is to be done: each call of it answers with commands. The
peer executes them in a queue at whose end the commands of further calls join, keeps the
core's timers and lets its RTC peer answer the negotiations. Its operations are programs
of a few instructions. The core is a parameter, and what the socket, the server and the
RTC peer answer is left open.
-/

namespace SfuLoad.Client.Protocol

open Kit Kit.Runs Model

/-- The kinds of stream a peer uploads. -/
inductive StreamType where
  | audio
  | camera
deriving DecidableEq

/-- What a client tells the server of how it shows a participant's video. -/
inductive VideoLayoutIntent where
  | hidden
  | visibleThumbnail
  | featured
deriving DecidableEq

variable {Core Request Kind Slot : Type}

/-- What the core tells the peer to do. -/
inductive Command (Request Kind Slot : Type) where
  | connect (url : String)
  | sendWebSocket (frame : String)
  | closePeerConnection
  | applyNegotiation (requestId : Request) (kind : Kind) (sdp : String) (uploadSlots : List Slot)
  | scheduleTimer (id ms : Nat)
  | cancelTimer (id : Nat)
  | closeWebSocket
  | beginPendingRequest (timeoutTimerId timeoutMs : Nat)
  | completePendingRequest (timeoutTimerId : Nat)
  | emitStateChange
  | emitEvent
  | setAvailableFeatures
  | setRecordingState

/-- What the peer tells the core. -/
inductive Call (Request Kind : Type) where
  | connect (url jwt roomId : String)
  | wsOpen
  | wsMessage (frame : String)
  | transportReady
  | publish (streamType : StreamType) (active : Bool)
  | subscribe (userId : Int) (camera : Bool) (cameraLayout : VideoLayoutIntent)
  | timer (id : Nat)
  | submitNegotiationAnswer (requestId : Request) (kind : Kind) (answer : String)

/-- The calls an operation makes by itself. The others answer to what happens. -/
def Call.isEntry : Call Request Kind → Bool
  | .connect _ _ _ => true
  | .transportReady => true
  | .publish _ _ => true
  | .subscribe _ _ _ => true
  | _ => false

/-- The protocol core: a state that answers each call with commands. Among the kinds of
negotiation it knows initial offers. -/
structure ProtocolCore (Core Request Kind Slot : Type) where
  new : Core
  offer : Kind
  call : Core → Call Request Kind → List (Command Request Kind Slot) × Core

/-- What happens between the peer, its core and its RTC peers, which are numbered in the
order they were bound. -/
inductive Event (Request Kind Slot : Type) where
  | called (call : Call Request Kind) (commands : List (Command Request Kind Slot))
  | executed (command : Command Request Kind Slot)
  | asked (rtc : Nat) (kind : Kind) (sdp : String) (uploadSlots : List Slot)

/-- A part of an operation. `readNext` waits for one more negotiation than there has been. -/
inductive Instruction (Request Kind : Type) where
  | call (call : Call Request Kind) (entry : call.isEntry = true)
  | flushNextTimer
  | readUntil (expectedCount : Nat)
  | readNext
  | waitUntilConnected

/-- What the peer is doing: nothing, executing the queue for a call or for a frame it has
read, waiting for a frame, for a timer or for its RTC peer, or it has failed. -/
inductive Activity where
  | idle
  | running (expectedCount : Option Nat)
  | reading (expectedCount : Nat)
  | sleeping (timer : Nat)
  | connecting
  | failed (error : Fault)

/-- A peer: the core's state, what the core's commands have touched (the socket, the RTC
peer, the timers), the queue of commands to execute, and where its program stands. The events
are the record of what it did, for the statements only. -/
structure Peer (Core Request Kind Slot : Type) where
  core : Core
  websocket : Bool
  rtc : Option Nat
  bound : Nat
  timers : Table Nat Nat
  negotiationCount : Nat
  pending : List (Command Request Kind Slot)
  program : List (Instruction Request Kind)
  activity : Activity
  events : List (Event Request Kind Slot)

/-- A message of the WebSocket. -/
inductive Message where
  | text (payload : String)
  | ping (payload : List UInt8)
  | pong
  | binary
  | close
  | frame

/-- What the outside answers to a command: the socket or the binding, and the RTC peer. -/
structure Io where
  done : Except Fault Unit
  answer : Except Fault String

/-- What is asked of a peer once it is connected. -/
inductive Operation where
  | publish (streamType : StreamType)
  | acceptNextNegotiation
  | setCameraLayouts (layouts : List (Int × VideoLayoutIntent))

namespace Operation

/-- The layouts are subscribed to one by one, and flushed where there were any. -/
def program : Operation → List (Instruction Request Kind)
  | .publish streamType => [.call (.publish streamType true) rfl, .flushNextTimer, .readNext]
  | .acceptNextNegotiation => [.readNext]
  | .setCameraLayouts layouts =>
    layouts.map (fun entry => .call (.subscribe entry.1 (entry.2 ≠ .hidden) entry.2) rfl) ++
      if layouts.isEmpty then [] else [.flushNextTimer]

end Operation

/-- What can happen to a peer: the next thing its program does, or the answer of the socket
or the clock that it waits for. -/
inductive Action where
  | start (operation : Operation)
  | begin
  | execute (io : Io)
  | finish
  | receive (message : Except Fault (Option Message)) (pong : Except Fault Unit)
  | timeout
  | fire
  | connected (io : Except Fault Unit)

namespace Peer

/-- A peer that is about to connect. -/
def new (core : ProtocolCore Core Request Kind Slot) (url jwt roomId : String) :
    Peer Core Request Kind Slot where
  core := core.new
  websocket := false
  rtc := none
  bound := 0
  timers := .empty
  negotiationCount := 0
  pending := []
  program :=
    [.call (.connect url jwt roomId) rfl, .readUntil 1, .waitUntilConnected,
      .call .transportReady rfl]
  activity := .idle
  events := []

variable (self : Peer Core Request Kind Slot)

/-- An operation ends with an error, which is the peer's. -/
def fail (error : Fault) : Peer Core Request Kind Slot := { self with activity := .failed error }

/-- One more event on record. -/
def record (event : Event Request Kind Slot) : Peer Core Request Kind Slot :=
  { self with events := self.events ++ [event] }

/-- Call the core. Its commands join the queue. -/
def call (core : ProtocolCore Core Request Kind Slot) (call : Call Request Kind) :
    Peer Core Request Kind Slot :=
  let answer := core.call self.core call
  { self with core := answer.2, pending := self.pending ++ answer.1 }.record
    (.called call answer.1)

/-- The command at the head of the queue has been executed. -/
def executed (command : Command Request Kind Slot) : Peer Core Request Kind Slot :=
  { self with pending := self.pending.tail }.record (.executed command)

/-- Something is done through the WebSocket, where there is one. -/
def overWebSocket (command : Command Request Kind Slot) (io : Except Fault Unit) :
    Peer Core Request Kind Slot :=
  if self.websocket then
    match io with
    | .error error => self.fail error
    | .ok () => self.executed command
  else self.fail (.msg "protocol WebSocket is not connected")

/-- Only initial offers may replace the RTC peer, so that renegotiation preserves ICE and
DTLS. -/
def bindFor [DecidableEq Kind] (core : ProtocolCore Core Request Kind Slot) (kind : Kind)
    (io : Except Fault Unit) : Except Fault (Peer Core Request Kind Slot) :=
  if kind = core.offer then
    io.map (fun _ => { self with rtc := some self.bound, bound := self.bound + 1 })
  else .ok self

/-- The RTC peer answers the negotiation, and its answer is submitted. -/
def negotiate (core : ProtocolCore Core Request Kind Slot) (requestId : Request) (kind : Kind)
    (sdp : String) (uploadSlots : List Slot) (io : Except Fault String) :
    Peer Core Request Kind Slot :=
  match self.rtc with
  | none => self.fail (.msg "protocol RTC peer is not available")
  | some rtc =>
    let asked := self.record (.asked rtc kind sdp uploadSlots)
    match io with
    | .error error => asked.fail error
    | .ok answer =>
      { (asked.executed (.applyNegotiation requestId kind sdp uploadSlots)).call core
          (.submitNegotiationAnswer requestId kind answer) with
        negotiationCount := self.negotiationCount + 1 }

/-- A timer under an id takes the place of an older one of that id. -/
def schedule (id ms : Nat) : Peer Core Request Kind Slot :=
  { self with timers := self.timers.insert id ms }

/-- A timer is taken away; there may be none. -/
def cancel (id : Nat) : Peer Core Request Kind Slot :=
  { self with timers := self.timers.erase id }

/-- One pass of `run_commands`. -/
def perform [DecidableEq Kind] (core : ProtocolCore Core Request Kind Slot) (io : Io)
    (command : Command Request Kind Slot) : Peer Core Request Kind Slot :=
  match command with
  | .connect _ =>
    match withContext "failed to connect to the o-sfu WebSocket" io.done with
    | .error error => self.fail error
    | .ok () => { self with websocket := true }.executed command |>.call core .wsOpen
  | .sendWebSocket _ =>
    self.overWebSocket command (withContext "failed to send an o-sfu signaling frame" io.done)
  | .closePeerConnection => { self with rtc := none }.executed command
  | .applyNegotiation requestId kind sdp uploadSlots =>
    match self.bindFor core kind io.done with
    | .error error => self.fail error
    | .ok bound => bound.negotiate core requestId kind sdp uploadSlots io.answer
  | .scheduleTimer id ms => (self.schedule id ms).executed command
  | .cancelTimer id => (self.cancel id).executed command
  | .closeWebSocket =>
    self.overWebSocket command (withContext "failed to close the o-sfu WebSocket" io.done)
  | .beginPendingRequest timeoutTimerId timeoutMs =>
    (self.schedule timeoutTimerId timeoutMs).executed command
  | .completePendingRequest timeoutTimerId => (self.cancel timeoutTimerId).executed command
  | .emitStateChange => self.executed command
  | .emitEvent => self.executed command
  | .setAvailableFeatures => self.executed command
  | .setRecordingState => self.executed command

/-- The head of the loop of `read_until_negotiation`. -/
def readUntil (expectedCount : Nat) : Peer Core Request Kind Slot :=
  if self.negotiationCount < expectedCount then
    if self.websocket then { self with activity := .reading expectedCount }
    else self.fail (.msg "protocol WebSocket is not connected")
  else { self with activity := .idle }

/-- An operation starts on a peer that does nothing else. -/
def start (operation : Operation) : Option (Peer Core Request Kind Slot) :=
  match self.activity, self.program with
  | .idle, [] => some { self with program := operation.program }
  | _, _ => none

/-- The program's next instruction. -/
def begin (core : ProtocolCore Core Request Kind Slot) : Option (Peer Core Request Kind Slot) :=
  match self.activity, self.program with
  | .idle, instruction :: program =>
    let left := { self with program := program }
    some (match instruction with
      | .call call _ => { left.call core call with activity := .running none }
      | .flushNextTimer =>
        match self.timers.least with
        | none => left.fail (.msg "protocol did not schedule its outbound batch")
        | some (id, _) => { left with activity := .sleeping id }
      | .readUntil expectedCount => left.readUntil expectedCount
      | .readNext => left.readUntil (self.negotiationCount + 1)
      | .waitUntilConnected =>
        match self.rtc with
        | none => left.fail (.msg "protocol RTC peer is not available")
        | some _ => { left with activity := .connecting })
  | _, _ => none

/-- The first command of the queue is executed. -/
def execute [DecidableEq Kind] (core : ProtocolCore Core Request Kind Slot) (io : Io) :
    Option (Peer Core Request Kind Slot) :=
  match self.activity, self.pending with
  | .running _, command :: _ => some (self.perform core io command)
  | _, _ => none

/-- The queue is empty: the call is over, and a wait goes on where it left. -/
def finish : Option (Peer Core Request Kind Slot) :=
  match self.activity, self.pending with
  | .running none, [] => some { self with activity := .idle }
  | .running (some expectedCount), [] => some (self.readUntil expectedCount)
  | _, _ => none

/-- One pass of `read_text_message`. A text goes to the core, a ping is answered. -/
def receive (core : ProtocolCore Core Request Kind Slot)
    (message : Except Fault (Option Message)) (pong : Except Fault Unit) :
    Option (Peer Core Request Kind Slot) :=
  match self.activity with
  | .reading expectedCount =>
    some (match message with
      | .ok none => self.fail (.msg "o-sfu closed its signaling WebSocket")
      | .error error => self.fail (error.context "failed to read an o-sfu signaling frame")
      | .ok (some (.text payload)) =>
        { self.call core (.wsMessage payload) with activity := .running (some expectedCount) }
      | .ok (some (.ping _)) =>
        match withContext "failed to answer an o-sfu WebSocket ping" pong with
        | .error error => self.fail error
        | .ok () => self
      | .ok (some .pong) => self
      | .ok (some _) => self.fail (.msg "o-sfu sent an unexpected WebSocket frame"))
  | _ => none

/-- The time a reading peer gives the server is over. -/
def timeout : Option (Peer Core Request Kind Slot) :=
  match self.activity with
  | .reading _ =>
    some (self.fail ((Fault.msg "deadline has elapsed").context
      "timed out waiting for an o-sfu signaling frame"))
  | _ => none

/-- The sleep of `flush_next_timer` is over. -/
def fire (core : ProtocolCore Core Request Kind Slot) : Option (Peer Core Request Kind Slot) :=
  match self.activity with
  | .sleeping id =>
    some { (self.cancel id).call core (.timer id) with activity := .running none }
  | _ => none

/-- What the socket answers when it is opened. -/
def connected (io : Except Fault Unit) : Option (Peer Core Request Kind Slot) :=
  match self.activity with
  | .connecting =>
    some (match io with
      | .error error => self.fail error
      | .ok () => { self with activity := .idle })
  | _ => none

/-- One step of a peer; an action that does not fit where the peer stands is none. -/
def step [DecidableEq Kind] (core : ProtocolCore Core Request Kind Slot)
    (self : Peer Core Request Kind Slot) : Action → Option (Peer Core Request Kind Slot)
  | .start operation => self.start operation
  | .begin => self.begin core
  | .execute io => self.execute core io
  | .finish => self.finish
  | .receive message pong => self.receive core message pong
  | .timeout => self.timeout
  | .fire => self.fire core
  | .connected io => self.connected io

end Peer

end SfuLoad.Client.Protocol
