import SfuLoad.Client.Ledger
import SfuLoad.Client.Protocol
import SfuLoad.Kit.Runs

/-!
# A load peer and the task that services its socket

While the media run, a task of its own answers the pings of the signaling socket. Every
operation of the load peer checks this task before and after it uses the RTC peer, and
`close` waits for it. The RTC peer keeps the payloads that have arrived until a read takes
them. Reads of `drain_for` run under a timeout that can drop them wherever they wait.
-/

namespace SfuLoad.Client.LoadPeer

open Identity Kit.Runs Ledger Model
open Protocol (Message)

/-- Where the task is. Its outcome is what awaiting it answers: a failure of the task
itself, or the result of `service_signaling`. -/
inductive TaskStage where
  | serving
  | closing
  | ended (outcome : Except Fault (Except Fault Unit))

/-- The task with the messages it has read and the payloads of the pongs it has sent. -/
structure SignalingTask where
  stage : TaskStage
  heard : List Message
  ponged : List (List UInt8)

/-- Who reads a payload. `drain_pending` reads without waiting, and only `drain_for` reads
under a timeout. -/
inductive Reader where
  | drainPending
  | receiveUntilComplete
  | drainFor
deriving DecidableEq

/-- What the owner of a load peer asks of it while the media run. -/
inductive Operation where
  | send
  | read (reader : Reader)
deriving DecidableEq

/-- What the RTC peer has answered to an operation. -/
inductive Answer where
  | sent
  | read (payload : Option Payload)

/-- What the owner of a load peer is doing. It stops at the first error. -/
inductive Activity where
  | idle
  | checking (operation : Operation) (answer : Option Answer)
  | sending
  | popping (reader : Reader)
  | waiting (reader : Reader)
  | closing
  | closed
  | failed (error : Fault)

/-- A load peer with its task and its owner's ledger. All payloads that have arrived are
recorded, and the list `seen` has those the ledger has been given. -/
structure State where
  task : SignalingTask
  signalingShutdown : Bool
  signalingTask : Bool
  arrived : List Payload
  pendingRtp : List Payload
  seen : List Payload
  ledger : PacketLedger
  activity : Activity

/-- What can happen to a load peer: a step of its task, or of its owner. -/
inductive Action where
  | hear (message : Except Fault (Option Message)) (pong : Except Fault Unit)
  | notice
  | closeSocket (io : Except Fault Unit)
  | abort (error : Fault)
  | begin (operation : Operation)
  | sent (payloads : List Payload) (io : Except Fault Unit)
  | pop
  | input (payloads : List Payload) (io : Except Fault Unit)
  | expire (payloads : List Payload)
  | cancel (payloads : List Payload)
  | settle
  | close
  | leave (error : Fault)

namespace SignalingTask

/-- A task that has just started serves the socket and has heard nothing. -/
def spawn : SignalingTask := ⟨.serving, [], []⟩

variable (self : SignalingTask)

/-- Whether the task has ended. -/
def finished : Bool :=
  match self.stage with
  | .ended _ => true
  | _ => false

/-- The task returns. -/
def stop (result : Except Fault Unit) : SignalingTask := { self with stage := .ended (.ok result) }

/-- One message in the loop of `service_signaling`. A ping is answered with its payload. -/
def hear (message : Except Fault (Option Message)) (pong : Except Fault Unit) :
    SignalingTask :=
  match message with
  | .ok none => self.stop (.error (.msg "o-sfu closed its fixed-work WebSocket"))
  | .error error => self.stop (.error (error.context "failed to read the fixed-work WebSocket"))
  | .ok (some message) =>
    let heard := { self with heard := self.heard ++ [message] }
    match message with
    | .ping payload =>
      match withContext "failed to answer an o-sfu WebSocket ping" pong with
      | .error error => heard.stop (.error error)
      | .ok () => { heard with ponged := self.ponged ++ [payload] }
    | .pong => heard
    | .text _ => heard
    | .binary | .close | .frame =>
      heard.stop (.error (.msg "o-sfu sent an unexpected fixed-work WebSocket frame"))

/-- The task closes the socket, and ends with what the socket answers. -/
def closeSocket (io : Except Fault Unit) : SignalingTask :=
  self.stop (withContext "failed to close the fixed-work WebSocket" io)

end SignalingTask

/-- What `wait_for_signaling` answers once the task has ended. -/
def awaited (outcome : Except Fault (Except Fault Unit)) : Except Fault Unit :=
  withContext "signaling task failed" outcome >>= id

namespace State

/-- A load peer when the media start: its task serves, and it expects its streams. -/
def initial (streams : List ExpectedStream) : State where
  task := .spawn
  signalingShutdown := true
  signalingTask := true
  arrived := []
  pendingRtp := []
  seen := []
  ledger := .new streams
  activity := .idle

variable (self : State)

/-- The operation ends with an error, and the owner goes no further with this peer. -/
def fail (error : Fault) : State := { self with activity := .failed error }

/-- Payloads have arrived at the RTC peer. -/
def receive (payloads : List Payload) : State :=
  { self with
    arrived := self.arrived ++ payloads
    pendingRtp := self.pendingRtp ++ payloads }

/-- Whether `check_signaling` finds the task finished. Without a handle it does not. -/
def stopped : Bool := self.signalingTask && self.task.finished

/-- The operation returns, and its owner gives the payload to the ledger. -/
def give : Answer → State
  | .read (some payload) =>
    { self with
      seen := self.seen ++ [payload]
      ledger := self.ledger.observe payload
      activity := .idle }
  | _ => { self with activity := .idle }

/-- The check after the RTC peer has answered. -/
def finish (operation : Operation) (answer : Answer) : State :=
  if self.stopped then
    { self with signalingTask := false, activity := .checking operation (some answer) }
  else self.give answer

/-- An operation that has passed its first check uses the RTC peer. -/
def enter : Operation → State
  | .send => { self with activity := .sending }
  | .read reader => { self with activity := .popping reader }

/-- The check before the RTC peer is used. -/
def begin (operation : Operation) : Option State :=
  match self.activity with
  | .idle =>
    some (if self.stopped then
      { self with signalingTask := false, activity := .checking operation none }
    else self.enter operation)
  | _ => none

/-- The RTC peer has taken what was to be sent; payloads may have arrived in between. -/
def sent (payloads : List Payload) (io : Except Fault Unit) : Option State :=
  match self.activity with
  | .sending =>
    let received := self.receive payloads
    some (match io with
      | .error error => received.fail error
      | .ok () => received.finish .send .sent)
  | _ => none

/-- A read takes the first payload there is. -/
def pop : Option State :=
  match self.activity with
  | .popping reader =>
    some (match self.pendingRtp with
      | payload :: rest =>
        { self with pendingRtp := rest }.finish (.read reader) (.read (some payload))
      | [] => { self with activity := .waiting reader })
  | _ => none

/-- The RTC peer was driven on while a read waited. -/
def input (payloads : List Payload) (io : Except Fault Unit) : Option State :=
  match self.activity with
  | .waiting reader =>
    let received := self.receive payloads
    some (match io with
      | .error error => received.fail error
      | .ok () => { received with activity := .popping reader })
  | _ => none

/-- The window of a read is over. Only a read that does not wait can have received
something by applying the timeouts that were due. -/
def expire (payloads : List Payload) : Option State :=
  match self.activity with
  | .waiting reader =>
    if payloads = [] ∨ reader = .drainPending then
      some ((self.receive payloads).finish (.read reader) (.read none))
    else none
  | _ => none

/-- The timeout of `drain_for` drops a read that waits. What has arrived stays. -/
def cancel (payloads : List Payload) : Option State :=
  match self.activity with
  | .waiting .drainFor => some { self.receive payloads with activity := .idle }
  | .checking (.read .drainFor) _ =>
    if payloads = [] then some { self with activity := .idle } else none
  | _ => none

/-- The awaited task has ended. -/
def settle : Option State :=
  match self.activity, self.task.stage with
  | .checking _ _, .ended outcome =>
    some (match awaited outcome with
      | .error error => self.fail error
      | .ok () => self.fail (.msg "signaling task stopped during fixed work"))
  | .closing, .ended outcome =>
    some (match awaited outcome with
      | .error error => self.fail error
      | .ok () => { self with activity := .closed })
  | _, _ => none

/-- The owner shuts the signaling down and then waits for its task. -/
def close : Option State :=
  match self.activity with
  | .idle =>
    let shutdown := { self with signalingShutdown := false }
    some (if self.signalingTask then
      { shutdown with signalingTask := false, activity := .closing }
    else shutdown.fail (.msg "signaling task is not available"))
  | _ => none

/-- The owner gives up, or is itself dropped. -/
def leave (error : Fault) : Option State :=
  match self.activity with
  | .closed => none
  | .failed _ => none
  | _ => some (self.fail error)

/-- The load peer is still there, and has not told its task to stop. -/
def holdsShutdown : Bool :=
  match self.activity with
  | .failed _ => false
  | _ => self.signalingShutdown

/-- The task hears a message of the socket. -/
def hear (message : Except Fault (Option Message)) (pong : Except Fault Unit) : Option State :=
  match self.task.stage with
  | .serving => some { self with task := self.task.hear message pong }
  | _ => none

/-- The task notices that it is told to stop, or that the load peer is gone. -/
def notice : Option State :=
  match self.task.stage with
  | .serving =>
    if self.holdsShutdown then none
    else some { self with task := { self.task with stage := .closing } }
  | _ => none

/-- The task closes the socket. -/
def closeSocket (io : Except Fault Unit) : Option State :=
  match self.task.stage with
  | .closing => some { self with task := self.task.closeSocket io }
  | _ => none

/-- The task panics or is aborted. -/
def abort (error : Fault) : Option State :=
  if self.task.finished then none
  else some { self with task := { self.task with stage := .ended (.error error) } }

/-- One step of the load peer. -/
def step (self : State) : Action → Option State
  | .hear message pong => self.hear message pong
  | .notice => self.notice
  | .closeSocket io => self.closeSocket io
  | .abort error => self.abort error
  | .begin operation => self.begin operation
  | .sent payloads io => self.sent payloads io
  | .pop => self.pop
  | .input payloads io => self.input payloads io
  | .expire payloads => self.expire payloads
  | .cancel payloads => self.cancel payloads
  | .settle => self.settle
  | .close => self.close
  | .leave error => self.leave error

end State

end SfuLoad.Client.LoadPeer
