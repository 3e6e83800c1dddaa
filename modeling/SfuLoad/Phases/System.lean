import SfuLoad.Phases.Peer
import SfuLoad.Telemetry.Marks

/-!
# The tasks of a run

All that takes part in the phases of a run: in the worker the main task, the peers,
the task that reports the measured phase and the one reporter they share; in the
controller the loop that captures phases and the telemetry sampler; and the two
pipes between the processes. One action is one step of one of them, in any order,
on one monotonic clock. Every task may fail or be dropped wherever it waits.
-/

namespace SfuLoad.Phases

open Identity Kit.Barriers Kit.Runs Media Model Rooms

/-- The main task of the worker reports the setup, lets the rooms run, and stops. -/
inductive MainStage where
  | reporting
  | running
  | stopped
deriving DecidableEq

/-- Where the task is that reports the measured phase. -/
inductive MeasuredStage where
  | unready
  | ready
  | sleeping (startedAt : Nat)
  | requesting
  | reporting
  | storing
  | releasing
  | finished
  | stopped
deriving DecidableEq

/-- A report that was handed to a blocking thread, by who waits for it. It outlives a
client that is dropped. -/
inductive Report (Peer : Type) where
  | main
  | peer (peer : Peer) (phase : ScenarioPhase)
  | measured
deriving DecidableEq

/-- The phase that is reported. -/
def Report.phase {Peer : Type} : Report Peer → ScenarioPhase
  | main => .setup
  | peer _ reached => reached
  | measured => .measured

/-- Who holds the reporter's lock, and whether the event is written. -/
structure Exchange (Peer : Type) where
  report : Report Peer
  written : Bool
deriving DecidableEq

/-- Where the controller's loop is. -/
inductive CaptureStage where
  | reading
  | advanced (phase : ScenarioPhase)
  | marking (phase : ScenarioPhase)
  | acknowledging (phase : ScenarioPhase)
  | ended
deriving DecidableEq

/-- The controller's loop: where it is, and which phases it has captured. -/
structure Capture where
  stage : CaptureStage
  phases : PhaseSequence
deriving DecidableEq

/-- The phases the loop has read and the sampler has not answered. -/
def CaptureStage.unanswered : CaptureStage → List ScenarioPhase
  | advanced phase | marking phase => [phase]
  | _ => []

/-- The phases the sampler has answered. -/
def CaptureStage.answered : CaptureStage → List ScenarioPhase
  | acknowledging phase => [phase]
  | _ => []

/-- The sampler's answer to a mark goes to the loop that waits for it. A phase is
marked at most once, so the phase tells which mark is meant. -/
def CaptureStage.completed (self : CaptureStage) (command : Option Telemetry.SamplerCommand)
    (failed : Bool) : CaptureStage :=
  match command with
  | some (.phase phase _) =>
    if self = marking phase then (if failed then ended else acknowledging phase) else self
  | _ => self

/-- An answer opens nothing. -/
theorem CaptureStage.mem_completed_unanswered {self : CaptureStage}
    {command : Option Telemetry.SamplerCommand} {failed : Bool} {phase : ScenarioPhase}
    (member : phase ∈ (self.completed command failed).unanswered) : phase ∈ self.unanswered := by
  unfold completed at member
  split at member
  · split_ifs at member
    · cases member
    · cases member
    · exact member
  · exact member

/-- Only a mark that did not fail is answered. -/
theorem CaptureStage.mem_completed_answered {self : CaptureStage}
    {command : Option Telemetry.SamplerCommand} {failed : Bool} {phase : ScenarioPhase}
    (member : phase ∈ (self.completed command failed).answered) :
    phase ∈ self.answered ∨
      failed = false ∧ ∃ elapsedMs, command = some (.phase phase elapsedMs) := by
  unfold completed at member
  split at member
  · split_ifs at member with waits fails
    · cases member
    · obtain rfl := List.mem_singleton.mp member
      exact .inr ⟨by simpa using fails, _, rfl⟩
    · exact .inl member
  · exact .inl member

/-- Everything that takes part in the phases of a run. -/
structure State (Peer : Type) where
  main : MainStage
  peers : Peer → PeerState
  sync : ScenarioSync Peer
  measured : MeasuredStage
  reports : List (Report Peer)
  exchange : Option (Exchange Peer)
  events : List ScenarioPhase
  acknowledgements : List ScenarioPhase
  capture : Capture
  telemetry : Telemetry.System

/-- What a peer does next, where its task may do it. -/
inductive PeerAction where
  | arrive
  | request
  | start
  | notify
  | move (move : Move)

/-- What the task that reports the measured phase does next. -/
inductive MeasuredAction where
  | ready
  | read
  | wake
  | request
  | store
  | release
  | stop

/-- What the reporter does next: it takes a report from those that wait, writes the event,
reads the reply, or fails. -/
inductive ReporterAction where
  | lock (position : Nat)
  | write
  | reply
  | fail

/-- What the controller's loop does next. -/
inductive CaptureAction where
  | read
  | mark
  | send
  | acknowledge
  | stop

/-- One step of one task. -/
inductive Action (Peer : Type) where
  | peer (peer : Peer) (action : PeerAction)
  | release (leader : Peer)
  | measured (action : MeasuredAction)
  | reporter (action : ReporterAction)
  | capture (action : CaptureAction)
  | sample (action : Telemetry.Action)

namespace State

/-- The main task has asked for the setup phase, and the sampler is starting. -/
def initial {Peer : Type} (tasks : Peer → PeerTask) (telemetry : Telemetry.System) :
    State Peer where
  main := .reporting
  peers := fun peer => .spawned (tasks peer)
  sync := .new
  measured := .unready
  reports := [.main]
  exchange := none
  events := []
  acknowledgements := []
  capture := ⟨.reading, .default⟩
  telemetry := telemetry

/-- The phases the sampler has persisted. -/
def persisted {Peer : Type} (self : State Peer) : List ScenarioPhase := self.telemetry.persisted

variable {Peer : Type} [DecidableEq Peer]

/-- Replaces the state of one peer. -/
def setPeer (self : State Peer) (peer : Peer) (state : PeerState) : State Peer :=
  { self with peers := Function.update self.peers peer state }

/-- A step of one peer. The tasks exist once the main task has the setup phase
acknowledged, and a stopped one takes no more steps. -/
def peerStep (rtp : RtpConstants) (self : State Peer) (peer : Peer) :
    PeerAction → Option (State Peer)
  | .arrive => do
    let wait ← (self.peers peer).stage.nextWait
    if self.main = .running ∧ (self.peers peer).stopped = false then
      let barrier := self.sync.barrier
      some { self.setPeer peer ((self.peers peer).goTo (.waiting wait barrier.generation)) with
        sync := { self.sync with barrier := barrier.arrive peer } }
    else none
  | .request =>
    match (self.peers peer).stage with
    | .requesting phase =>
      if (self.peers peer).stopped = false then
        some { self.setPeer peer ((self.peers peer).goTo (.reporting phase)) with
          reports := self.reports ++ [.peer peer phase] }
      else none
    | _ => none
  | .start =>
    if (self.peers peer).stage = .starting ∧ (self.peers peer).stopped = false then
      -- the first to come sets the instant, the others find it
      let startedAt := self.sync.measuredAt.getD (self.telemetry.now + measureStartLead)
      some { self.setPeer peer
          { self.peers peer with stage := .started, origin := some startedAt } with
        sync := { self.sync with measuredAt := some startedAt } }
    else none
  | .notify =>
    if (self.peers peer).stage = .notifying ∧ (self.peers peer).stopped = false then
      some { self.setPeer peer ((self.peers peer).goTo .checking) with
        sync := { self.sync with measuredReady := self.sync.measuredReady.notifyOne } }
    else none
  | .move move =>
    if (self.peers peer).stopped = false then
      ((self.peers peer).move rtp self.telemetry.now self.sync peer move).map (self.setPeer peer)
    else none

/-- A step of the task that reports the measured phase. -/
def measuredStep (self : State Peer) : MeasuredAction → Option (State Peer)
  | .ready =>
    if self.measured = .unready ∧ self.sync.measuredReady.permit then
      some { self with
        measured := .ready
        sync := { self.sync with
          measuredReady := { self.sync.measuredReady with permit := false } } }
    else none
  | .read =>
    if self.measured = .ready then
      some { self with
        measured := (self.sync.measuredAt.map MeasuredStage.sleeping).getD .stopped }
    else none
  | .wake =>
    match self.measured with
    | .sleeping startedAt =>
      if startedAt ≤ self.telemetry.now then some { self with measured := .requesting } else none
    | _ => none
  | .request =>
    if self.measured = .requesting then
      some { self with
        measured := .reporting
        reports := self.reports ++ [.measured] }
    else none
  | .store =>
    if self.measured = .storing then
      some { self with
        measured := .releasing
        sync := { self.sync with measuredAcknowledged := true } }
    else none
  | .release =>
    if self.measured = .releasing then
      some { self with
        measured := .finished
        sync := { self.sync with measuredReleased := self.sync.measuredReleased.notifyWaiters } }
    else none
  | .stop => some { self with measured := .stopped }

/-- The answer of a report goes to the client that waits for it, if it still does. -/
def answer (self : State Peer) (report : Report Peer) (acknowledged : Bool) : State Peer :=
  match report with
  | .main =>
    if self.main = .reporting then
      { self with main := if acknowledged then .running else .stopped }
    else self
  | .peer peer phase =>
    if (self.peers peer).stage = .reporting phase ∧ (self.peers peer).stopped = false then
      self.setPeer peer
        (if acknowledged then (self.peers peer).goTo (.reported phase)
          else { self.peers peer with stopped := true })
    else self
  | .measured =>
    if self.measured = .reporting then
      { self with measured := if acknowledged then .storing else .stopped }
    else self

/-- A step of the reporter: whoever has the lock writes its event and reads one
acknowledgement, which has to be its own phase's. -/
def reporterStep (self : State Peer) : ReporterAction → Option (State Peer)
  | .lock position =>
    match self.exchange, self.reports[position]? with
    | none, some report =>
      some { self with
        exchange := some ⟨report, false⟩
        reports := self.reports.eraseIdx position }
    | _, _ => none
  | .write =>
    match self.exchange with
    | some ⟨report, false⟩ =>
      some { self with
        exchange := some ⟨report, true⟩
        events := self.events ++ [report.phase] }
    | _ => none
  | .reply =>
    match self.exchange, self.acknowledgements with
    | some ⟨report, true⟩, phase :: acknowledgements =>
      some ({ self with exchange := none, acknowledgements := acknowledgements }.answer report
        (phase = report.phase))
    | _, _ => none
  | .fail =>
    match self.exchange with
    | some ⟨report, _⟩ => some ({ self with exchange := none }.answer report false)
    | none => none

/-- A step of the controller's loop, which begins once the sampler has started. -/
def captureStep (self : State Peer) : CaptureAction → Option (State Peer)
  | .read =>
    match self.capture.stage, self.events with
    | .reading, phase :: events =>
      if self.telemetry.marker = .absent then none
      else
        match self.capture.phases.advance phase with
        | .ok phases => some { self with events := events, capture := ⟨.advanced phase, phases⟩ }
        | .error _ => some { self with events := events, capture := ⟨.ended, self.capture.phases⟩ }
    | _, _ => none
  | .mark =>
    match self.capture.stage with
    | .advanced phase =>
      (self.telemetry.step (.mark phase)).map (fun telemetry =>
        { self with
          telemetry := telemetry
          capture := { self.capture with stage := .marking phase } })
    | _ => none
  | .send =>
    match self.capture.stage with
    | .marking _ =>
      (self.telemetry.step .send).map (fun telemetry => { self with telemetry := telemetry })
    | _ => none
  | .acknowledge =>
    match self.capture.stage with
    | .acknowledging phase =>
      some { self with
        acknowledgements := self.acknowledgements ++ [phase]
        capture := { self.capture with stage := .reading } }
    | _ => none
  | .stop => some { self with capture := { self.capture with stage := .ended } }

/-- A step of the sampler, of the clock, or of the controller when its loop is over. -/
def sampleStep (self : State Peer) : Telemetry.Action → Option (State Peer)
  | .mark _ => none
  | .send => none
  | .finish =>
    if self.capture.stage = .ended then
      (self.telemetry.step .finish).map (fun telemetry => { self with telemetry := telemetry })
    else none
  | .receive io =>
    (self.telemetry.step (.receive io)).map (fun telemetry =>
      { self with
        telemetry := telemetry
        capture := { self.capture with
          stage := self.capture.stage.completed self.telemetry.queue.head?
            telemetry.stage.isReturned } })
  | action =>
    (self.telemetry.step action).map (fun telemetry => { self with telemetry := telemetry })

variable [Fintype Peer]

/-- A step of the whole system, where it is enabled. -/
def step (rtp : RtpConstants) (self : State Peer) : Action Peer → Option (State Peer)
  | .peer peer action => self.peerStep rtp peer action
  | .release leader =>
    (self.sync.barrier.release leader).map (fun barrier =>
      { self with sync := { self.sync with barrier := barrier } })
  | .measured action => self.measuredStep action
  | .reporter action => self.reporterStep action
  | .capture action => self.captureStep action
  | .sample action => self.sampleStep action

end State

end SfuLoad.Phases
