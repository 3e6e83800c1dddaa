import SfuLoad.Client.Sender
import SfuLoad.Kit.Barriers
import SfuLoad.Model.Phase

/-!
# The task of one peer

A peer's task from its first wait to its last, one step for each operation that
another task can see or that takes time. Packets are the ones the peer's media
yields; which payloads arrive, how long anything takes and when a task is dropped
are left open. The network and the signaling before the first wait are outside the
model.
-/

namespace SfuLoad.Phases

open Identity Kit.Barriers Ledger Media Model Rooms Sender

/-- How long a peer waits for packets that are still missing. -/
def packetTimeout : Duration := 10000000000

/-- How long a peer listens on after it has everything. -/
def quiescenceTimeout : Duration := 200000000

/-- How long a peer listens on after its warmup. -/
def routeSettleTime : Duration := 300000000

/-- How far ahead the measured phase is set to start. -/
def measureStartLead : Duration := 1000000000

/-- A notification: one stored permit, and how often all waiters were notified. -/
structure Notify where
  permit : Bool
  waves : Nat
deriving DecidableEq

namespace Notify

/-- Nobody waits and nothing has been announced. -/
def new : Notify := ⟨false, 0⟩

/-- A permit for one waiter, which is kept where nobody waits yet. -/
def notifyOne (self : Notify) : Notify := { self with permit := true }

/-- Wakes those who wait now. Whoever comes later is not woken. -/
def notifyWaiters (self : Notify) : Notify := { self with waves := self.waves + 1 }

end Notify

/-- What the tasks of a scenario share, apart from the reporter. -/
structure ScenarioSync (Peer : Type) where
  barrier : Barrier Peer
  measuredAt : Option Nat
  measuredAcknowledged : Bool
  measuredReady : Notify
  measuredReleased : Notify

/-- Nobody has arrived and no start has been set. -/
def ScenarioSync.new {Peer : Type} : ScenarioSync Peer := ⟨.new, none, false, .new, .new⟩

/-- How many waits a task has been through when a phase is reported. -/
def due : ScenarioPhase → Nat
  | .setup => 0
  | .warmup => 1
  | .measured => 5
  | .drain => 6

/-- Where a peer's task is. A wait knows its generation of the barrier, a drain its
deadline, and a notified future the notifications before it. -/
inductive Stage where
  | joining
  | waiting (wait generation : Nat)
  | requesting (phase : ScenarioPhase)
  | reporting (phase : ScenarioPhase)
  | reported (phase : ScenarioPhase)
  | warming
  | settling (deadline : Nat)
  | settled
  | restarted
  | starting
  | started
  | notifying
  | checking
  | creating
  | rechecking (heard : Nat)
  | listening (heard : Nat)
  | measuring
  | receiving (deadline : Nat)
  | received
  | quiescing (deadline : Nat)
  | finished
deriving DecidableEq

namespace Stage

/-- The waits a task has entered. -/
def entered : Stage → Nat
  | joining => 0
  | waiting wait _ => wait + 1
  | requesting phase | reporting phase | reported phase => due phase
  | warming | settling _ | settled => 2
  | restarted => 3
  | starting | started => 4
  | notifying | checking | creating | rechecking _ | listening _ => 5
  | measuring | receiving _ | received => 5
  | quiescing _ | finished => 7

/-- The waits a task has left. -/
def left : Stage → Nat
  | waiting wait _ => wait
  | stage => stage.entered

/-- The wait a task is about to enter. -/
def nextWait : Stage → Option Nat
  | joining => some 0
  | reported .warmup => some 1
  | settled => some 2
  | restarted => some 3
  | started => some 4
  | received => some 5
  | reported .drain => some 6
  | _ => none

/-- Where packets are handed to the RTP writer. -/
def sends : Stage → Bool
  | warming | measuring => true
  | _ => false

/-- Where received payloads are observed. -/
def observes : Stage → Bool
  | warming | settling _ | measuring | receiving _ | quiescing _ => true
  | _ => false

/-- Whether the drain after the warmup is over. -/
def hasSettled (self : Stage) : Bool := self = settled ∨ 2 < self.entered

/-- Before a wait a peer has entered and left the same number of waits. -/
theorem nextWait_eq_some {self : Stage} {wait : Nat} (next : self.nextWait = some wait) :
    self.entered = wait ∧ self.left = wait := by
  cases self with
  | reported phase => cases phase <;> simp_all [nextWait, entered, left, due]
  | _ => simp_all [nextWait, entered, left]

/-- The wait after the warmup was reported is the second. -/
theorem nextWait_warmup {self : Stage} (next : self.nextWait = some 1) :
    self = .reported .warmup := by
  cases self with
  | reported phase => cases phase <;> simp_all [nextWait]
  | _ => simp_all [nextWait]

/-- The wait after the start was set is the fifth. -/
theorem nextWait_started {self : Stage} (next : self.nextWait = some 4) : self = .started := by
  cases self with
  | reported phase => cases phase <;> simp_all [nextWait]
  | _ => simp_all [nextWait]

end Stage

/-- A peer's task: its media with the loop's two counters, the packets of the present
turn that are not sent yet, and everything that was sent. -/
structure PeerState where
  stage : Stage
  stopped : Bool
  media : PeerMedia
  audioOrdinal : UInt32
  videoFrame : UInt32
  pending : List Sent
  sent : List Sent
  origin : Option Nat
  ledger : PacketLedger

/-- A step of a peer that leaves what is shared alone. -/
inductive Move where
  | leave
  | pace
  | send
  | turn
  | settle
  | load
  | listen
  | wake
  | observe (payload : Payload)
  | receive
  | quiesce
  | stop

namespace PeerState

/-- A task that is about to wait for the first time. -/
def spawned (task : PeerTask) : PeerState where
  stage := .joining
  stopped := false
  media := task.media
  audioOrdinal := 0
  videoFrame := 0
  pending := []
  sent := []
  origin := none
  ledger := .new task.expected

/-- The task goes on at another stage. -/
def goTo (self : PeerState) (stage : Stage) : PeerState := { self with stage := stage }

/-- What follows a wait. The leaders of the first and of the sixth report, and the
leader of the fifth notifies. -/
def leaveWait (rtp : RtpConstants) (now : Nat) (self : PeerState) (leader : Bool) :
    Nat → Option PeerState
  | 0 => some (self.goTo (if leader then .requesting .warmup else .reported .warmup))
  | 1 =>
    some { self with
      stage := .warming
      pending := (sendWarmup rtp self.media).1
      media := (sendWarmup rtp self.media).2 }
  | 2 =>
    some { self with
      stage := .restarted
      media := resetTimelines self.media
      origin := none }
  | 3 => some (self.goTo .starting)
  | 4 => some (self.goTo (if leader then .notifying else .checking))
  | 5 => some (self.goTo (if leader then .requesting .drain else .reported .drain))
  | 6 => some (self.goTo (.quiescing (now + quiescenceTimeout)))
  | _ => none

/-- The acknowledgement was seen: the measured loop begins. -/
def beginMeasured (self : PeerState) : PeerState :=
  { self with stage := .measuring, pending := [], audioOrdinal := 0, videoFrame := 0 }

/-- A turn of the measured loop, or its end. -/
def nextMeasured (rtp : RtpConstants) (self : PeerState) : Option PeerState :=
  match nextTurn self.media self.audioOrdinal self.videoFrame with
  | none => self.origin.map (fun startedAt =>
      self.goTo (.receiving (startedAt + self.media.targetDuration + packetTimeout)))
  | some .audio =>
    match self.media.audio with
    | none => some { self with stopped := true }
    | some source =>
      some { self with
        pending := [.audio (source.nextPacket rtp .measured self.audioOrdinal).1]
        media := { self.media with
          audio := some (source.nextPacket rtp .measured self.audioOrdinal).2 }
        audioOrdinal := saturatingIncrement self.audioOrdinal }
  | some .video =>
    match self.media.video with
    | none => some { self with stopped := true }
    | some source =>
      some { self with
        pending := (source.nextFrame rtp .measured self.videoFrame).1.map .video
        media := { self.media with
          video := some (source.nextFrame rtp .measured self.videoFrame).2 }
        videoFrame := saturatingIncrement self.videoFrame }

/-- What follows the packets of a turn. -/
def nextPackets (rtp : RtpConstants) (now : Nat) (self : PeerState) : Option PeerState :=
  match self.stage with
  | .warming => some (self.goTo (.settling (now + routeSettleTime)))
  | .measuring => self.nextMeasured rtp
  | _ => none

/-- A step of a running peer that leaves what is shared alone. -/
def move {Peer : Type} [DecidableEq Peer] (rtp : RtpConstants) (now : Nat)
    (sync : ScenarioSync Peer) (peer : Peer) (self : PeerState) : Move → Option PeerState
  | .leave =>
    match self.stage with
    | .waiting wait generation =>
      if generation < sync.barrier.generation then
        self.leaveWait rtp now (sync.barrier.Elects generation peer) wait
      else none
    | _ => none
  | .pace =>
    -- the first packet of an unpaced peer is due at once
    match self.origin, self.pending with
    | none, packet :: _ =>
      some { self with
        origin := some (if packet.emittedAt ≤ now then now - packet.emittedAt else now) }
    | _, _ => none
  | .send =>
    match self.origin, self.pending with
    | some origin, packet :: pending =>
      if self.stage.sends = true ∧ origin + packet.emittedAt ≤ now then
        some { self with pending := pending, sent := self.sent ++ [packet] }
      else none
    | _, _ => none
  | .turn =>
    match self.pending with
    | [] => self.nextPackets rtp now
    | _ => none
  | .settle =>
    match self.stage with
    | .settling deadline => if deadline ≤ now then some (self.goTo .settled) else none
    | _ => none
  | .load =>
    match self.stage with
    | .checking =>
      some (if sync.measuredAcknowledged then self.beginMeasured else self.goTo .creating)
    | .rechecking heard =>
      some (if sync.measuredAcknowledged then self.beginMeasured else self.goTo (.listening heard))
    | _ => none
  | .listen =>
    match self.stage with
    | .creating => some (self.goTo (.rechecking sync.measuredReleased.waves))
    | _ => none
  | .wake =>
    match self.stage with
    | .listening heard =>
      if heard < sync.measuredReleased.waves then some (self.goTo .checking) else none
    | _ => none
  | .observe payload =>
    if self.stage.observes then some { self with ledger := self.ledger.observe payload } else none
  | .receive =>
    match self.stage with
    | .receiving deadline =>
      if self.ledger.isComplete ∨ deadline ≤ now then some (self.goTo .received) else none
    | _ => none
  | .quiesce =>
    match self.stage with
    | .quiescing deadline => if deadline ≤ now then some (self.goTo .finished) else none
    | _ => none
  | .stop => some { self with stopped := true }

end PeerState

end SfuLoad.Phases
