import SfuLoad.Controller.Processes
import SfuLoad.Kit.Fallible
import SfuLoad.Kit.Runs
import SfuLoad.Model.Result

/-!
# The lifecycle of one load run

The controller starts the server, up to three times, then profiles it where asked,
starts the RTC worker with its telemetry, waits for whichever of five things happens
first, stops what still runs and makes one result of what its parts answered. Every
await of the source is a stage. Processes exit, signals arrive and deadlines pass
whenever they please; what the system calls answer is left open.
-/

namespace SfuLoad.Controller

open Kit.Fallible Kit.Outcomes Kit.Runs Kit.Saturating Model

/-- How often the server is started at most. -/
def startupAttempts : Nat := 3

/-- The seconds that one round of the setup may take. -/
def setupRoundTimeout : UInt64 := 20

/-- The seconds that a worker may take besides setup and media. -/
def rtcWorkerOverhead : UInt64 := 40

/-- What a run is asked for. Paths are left out. -/
structure RunConfig where
  serverCpus : Option String
  rtcCpus : Option String
  profileServer : Bool
  spec : ScenarioSpec

/-- A CPU set is a list of numbers and ranges. It is checked by its characters only. -/
def validateCpuSet : Option String → Except Fault Unit
  | none => .ok ()
  | some cpuSet => do
    if cpuSet.isEmpty then throw (.msg "CPU set cannot be empty")
    if cpuSet.toList.all (fun byte => byte.isDigit || [',', '-'].contains byte) then .ok ()
    else throw (.msg "CPU set must contain CPU numbers, commas and ranges")

/-- The seconds a worker may take: a setup round for each publication and one more, the
media, and the overhead. -/
def rtcWorkerDeadline (spec : ScenarioSpec) : UInt64 :=
  let setupRounds := saturatingAdd (saturatingAdd
    spec.audioPublishersPerRoom.toUInt64 spec.videoPublishersPerRoom.toUInt64) 1
  let setupSeconds := saturatingMul setupRounds setupRoundTimeout
  saturatingAdd (saturatingAdd setupSeconds
    spec.durationSeconds.toUInt64) rtcWorkerOverhead

/-- What a signal is reported as, or the failure of its stream. -/
def signalError (message : String) : Except Fault Unit → Fault
  | .ok () => .msg message
  | .error error => error

/-- What the wait for the worker ended with. -/
inductive RtcWaitOutcome where
  | completed
  | serverExited (status : ExitStatus)
  | phaseFailed
deriving DecidableEq

/-- What the work ended with, once the phase stream has been looked at. -/
inductive RtcWorkerCompletion where
  | completed
  | serverExited (status : ExitStatus)
deriving DecidableEq

/-- The worker's own outcome with that of its phase stream. An exited server is the
outcome, whatever the stream answered. -/
def combineRtcAndPhases : Except Fault RtcWaitOutcome → Except Fault Unit →
    Except Fault RtcWorkerCompletion
  | .ok (.serverExited status), _ => .ok (.serverExited status)
  | .ok .completed, .ok () => .ok .completed
  | .ok .completed, .error error => .error error
  | .ok .phaseFailed, .error error => .error error
  | .error error, .ok () => .error error
  | .ok .phaseFailed, .ok () => .error (.msg "RTC phase stream failed without an error")
  | .error runError, .error phaseError =>
    .error (.also "RTC work failed: " ". phase stream also failed: " runError phaseError)

/-- The completion with what telemetry answered, an exited server before all. -/
def combineRtcAndTelemetry : Except Fault RtcWorkerCompletion → Except Fault Unit →
    Except Fault RtcWorkerCompletion
  | .ok (.serverExited status), _ => .ok (.serverExited status)
  | .ok .completed, .ok () => .ok .completed
  | .error error, .ok () => .error error
  | .ok .completed, .error error => .error error
  | .error runError, .error telemetryError =>
    .error (.also "RTC work failed: " ". telemetry shutdown also failed: " runError
      telemetryError)

/-- Why a starting server is inspected. -/
inductive StartupCause where
  | interrupted (error : Fault)
  | failed (error : Fault)

/-- The context of an inspection that fails. -/
def StartupCause.inspection : StartupCause → String
  | .interrupted _ => "failed to inspect o-sfu after a shutdown signal"
  | .failed _ => "failed to inspect o-sfu after startup failure"

/-- What the result of stopping the server is combined with. -/
inductive Purpose where
  | startup (error : Fault)
  | run (result : Except Fault ScenarioResult)

/-- Where `stop_server` is. -/
inductive StopStep where
  | inspect
  | signal
  | wait
  | kill

/-- Why the worker is stopped. -/
inductive HaltCause where
  | serverExited (status : ExitStatus)
  | deadline
  | interrupted (error : Fault)
  | phases

/-- What the wait for the worker answers once the worker is stopped, or not. -/
def HaltCause.outcome (spec : ScenarioSpec) (stopped : Except Fault Unit) :
    HaltCause → Except Fault RtcWaitOutcome
  | .serverExited status => stopped.map (fun _ => .serverExited status)
  | .deadline => stopped >>= fun _ =>
    .error (.msg s!"RTC worker exceeded its {rtcWorkerDeadline spec} second deadline")
  | .interrupted error =>
    withContext "failed to stop the RTC worker after a shutdown signal" stopped >>= fun _ =>
      .error error
  | .phases =>
    (withContext "failed to stop the RTC worker after a phase stream failure" stopped).map
      (fun _ => .phaseFailed)

/-- Where the controller is. It waits at every stage but the last. -/
inductive Stage where
  /-- The configuration is checked, stale files go, the scenario is written. -/
  | preparing
  /-- A server is about to be started in this attempt. -/
  | spawning (attempt : Nat)
  /-- The client for readiness requests is built. -/
  | building (attempt : Nat)
  /-- The server is asked whether it is ready. -/
  | awaiting (attempt : Nat)
  /-- A start went wrong: did the server exit by itself? -/
  | inspecting (attempt : Nat) (cause : StartupCause)
  /-- `stop_server`, at one of its steps. -/
  | stopping (purpose : Purpose) (step : StopStep)
  /-- The profiler is started on the server. -/
  | profiling
  /-- The worker is about to be started. -/
  | launching
  /-- Telemetry is about to be started. -/
  | sampling
  /-- The wait for the first of the five things. -/
  | working
  /-- `stop_rtc_worker`: a worker that is still there is killed. -/
  | halting (cause : HaltCause) (kill : Bool)
  /-- The phase stream is given time to end. -/
  | collecting (completion : Except Fault RtcWaitOutcome)
  /-- The sampler takes its last sample. -/
  | finishing (completion : Except Fault RtcWorkerCompletion)
  /-- The worker's result is read. -/
  | reading
  /-- The profiler is finished. -/
  | closing (runResult : Except Fault ScenarioResult) (serverExited : Bool)
  /-- The run is over. -/
  | returned (result : Except Fault ScenarioResult)

/-- What the parts of a run have answered so far, under the source's names for it. -/
structure Answers where
  completion : Option (Except Fault RtcWaitOutcome)
  phaseResult : Option (Except Fault Unit)
  telemetryResult : Option (Except Fault Unit)
  profileResult : Option (Except Fault Unit)
  shutdownResult : Option (Except Fault Unit)

/-- No part has answered. -/
def Answers.none : Answers := ⟨.none, .none, .none, .none, .none⟩

/-- The run with its processes and with what its parts have answered. The servers of
failed attempts are kept apart from the current one. -/
structure State where
  stage : Stage
  formers : List Child
  server : Option Child
  rtc : Option Child
  profiler : Bool
  phaseTask : Option (Except Fault Unit)
  answers : Answers

/-- What the controller does next, with what the calls answer, and what happens to it. -/
inductive Action where
  /-- The server exits, at any time. -/
  | serverExits (status : ExitStatus)
  /-- The worker exits, at any time. -/
  | rtcExits (status : ExitStatus)
  /-- The task that captures the phases ends, at any time. -/
  | phasesEnd (result : Except Fault Unit)
  | prepare (io : Except Fault Unit)
  | spawnServer (io : Except Fault UInt32)
  | buildClient (io : Except Fault Unit)
  /-- A readiness request is sent, after a look at whether the server has exited. -/
  | poll (io : Except Fault Unit) (answered : Bool)
  /-- A deadline passes. -/
  | elapse
  /-- A signal to shut down arrives, or the stream of signals fails. -/
  | signal (received : Except Fault Unit)
  /-- A child is asked for its status. -/
  | inspect (io : Except Fault Unit)
  | terminate (io : Except Fault Bool)
  | waitServer (io : Except Fault Unit)
  | waitRtc (io : Except Fault Unit)
  /-- The phase stream ends with an error while the worker runs. -/
  | phaseError
  | kill (io : Except Fault Unit)
  | startProfiler (io : Except Fault Unit)
  | launch (io : Except Fault UInt32)
  | startTelemetry (io : Except Fault Unit)
  | collectPhases
  | finishTelemetry (io : Except Fault Unit)
  | readResult (io : Except Fault ScenarioResult)
  | finishProfiler (io : Except Fault Unit)

namespace State

/-- Nothing has been done. -/
def initial : State where
  stage := .preparing
  formers := []
  server := none
  rtc := none
  profiler := false
  phaseTask := none
  answers := .none

/-- The run returns and drops the handles it still has. -/
def leave (self : State) (result : Except Fault ScenarioResult) : State :=
  { self with
    stage := .returned result
    server := self.server.map Child.dropped
    rtc := self.rtc.map Child.dropped }

/-- A run that is left has returned. -/
@[simp] theorem leave_stage (self : State) (result : Except Fault ScenarioResult) :
    (self.leave result).stage = .returned result := rfl

/-- `run_rtc_worker` is left, and with it the handle on the worker. -/
def leaveRtc (self : State) (stage : Stage) : State :=
  { self with stage := stage, rtc := self.rtc.map Child.dropped }

/-- Leaving the worker leads to the stage asked for. -/
@[simp] theorem leaveRtc_stage (self : State) (stage : Stage) :
    (self.leaveRtc stage).stage = stage := rfl

/-- `stop_server` has answered. -/
def stopped (self : State) (purpose : Purpose) (result : Except Fault Unit) : State :=
  { self with answers := { self.answers with shutdownResult := some result } }.leave
    (match purpose with
      | .startup error => .error (combineStartupAndShutdown error result)
      | .run runResult => combineRunAndShutdown runResult result)

/-- The wait for the worker has answered. -/
def collect (self : State) (completion : Except Fault RtcWaitOutcome) : State :=
  { self with
    stage := .collecting completion
    answers := { self.answers with completion := some completion } }

/-- After the wait the phases are collected. -/
@[simp] theorem collect_stage (self : State) (completion : Except Fault RtcWaitOutcome) :
    (self.collect completion).stage = .collecting completion := rfl

/-- `stop_rtc_worker` has answered. -/
def halted (config : RunConfig) (self : State) (cause : HaltCause) (result : Except Fault Unit) :
    State :=
  self.collect (cause.outcome config.spec result)

/-- The phase stream has answered, or is given up. -/
def combinePhases (self : State) (completion : Except Fault RtcWaitOutcome)
    (result : Except Fault Unit) : State :=
  { self with
    stage := .finishing (combineRtcAndPhases completion result)
    answers := { self.answers with phaseResult := some result } }

/-- Telemetry has answered, and the worker's part is over. -/
def leaveWork (self : State) (completion : Except Fault RtcWorkerCompletion)
    (result : Except Fault Unit) : State :=
  { self with answers := { self.answers with telemetryResult := some result } }.leaveRtc
    (match combineRtcAndTelemetry completion result with
      | .error error => .closing (.error error) false
      | .ok .completed => .reading
      | .ok (.serverExited status) =>
        .closing (.error (.msg s!"o-sfu exited during RTC work with {status.shown}")) true)

/-- The result has been read or not. One that was has to stand the checks. -/
def close (config : RunConfig) (self : State) (io : Except Fault ScenarioResult) : State :=
  { self with
    stage := .closing (do
      let result ← io
      (result.validate config.spec).mapError Fault.msg
      .ok result) false }

/-- The profiler has answered where there is one. The server is stopped, unless it has
exited. -/
def settle (self : State) (runResult : Except Fault ScenarioResult) (serverExited : Bool)
    (io : Except Fault Unit) : State :=
  let profileResult := if self.profiler then io else .ok ()
  let combined := combineRunAndProfile runResult profileResult
  let settled := { self with
    answers := { self.answers with profileResult := some profileResult } }
  if serverExited then settled.leave (combineRunAndShutdown combined (.ok ()))
  else { settled with stage := .stopping (.run combined) .inspect }

/-- The server exits, where one runs. -/
def serverExits (self : State) (status : ExitStatus) : Option State := do
  let server ← self.server
  let ended ← server.exit status
  some { self with server := some ended }

/-- The worker exits, where one runs. -/
def rtcExits (self : State) (status : ExitStatus) : Option State := do
  let rtc ← self.rtc
  let ended ← rtc.exit status
  some { self with rtc := some ended }

/-- The phase task exists from the wait on, and ends once. -/
def phasesEnd (self : State) (result : Except Fault Unit) : Option State :=
  match self.stage, self.phaseTask with
  | .working, none => some { self with phaseTask := some result }
  | .halting _ _, none => some { self with phaseTask := some result }
  | .collecting _, none => some { self with phaseTask := some result }
  | _, _ => none

/-- The checks and file steps before the first server. -/
def prepare (config : RunConfig) (self : State) (io : Except Fault Unit) : Option State :=
  match self.stage with
  | .preparing =>
    match (do validateCpuSet config.serverCpus; validateCpuSet config.rtcCpus; io) with
    | .error error => some (self.leave (.error error))
    | .ok () => some { self with stage := .spawning 1 }
  | _ => none

/-- `spawn_server`: the new child replaces none, as the former was collected. -/
def spawnServer (self : State) (io : Except Fault UInt32) : Option State :=
  match self.stage with
  | .spawning attempt =>
    match io with
    | .error error => some (self.leave (.error error))
    | .ok pid => some { self with stage := .building attempt, server := some (.spawn pid) }
  | _ => none

/-- A client that cannot be built fails the start like an unready server. -/
def buildClient (self : State) (io : Except Fault Unit) : Option State :=
  match self.stage with
  | .building attempt =>
    match withContext "failed to build the readiness HTTP client" io with
    | .error error => some { self with stage := .inspecting attempt (.failed error) }
    | .ok () => some { self with stage := .awaiting attempt }
  | _ => none

/-- One pass of the readiness loop: the server is inspected, then asked. -/
def poll (config : RunConfig) (self : State) (io : Except Fault Unit) (answered : Bool) :
    Option State :=
  match self.stage, self.server with
  | .awaiting attempt, some server =>
    match withContext "failed to inspect the o-sfu process" io, server.tryWait with
    | .error error, _ => some { self with stage := .inspecting attempt (.failed error) }
    | .ok (), some status =>
      some { self with
        stage := .inspecting attempt
          (.failed (.msg s!"o-sfu exited before readiness with {status.shown}"))
        server := some server.reap }
    | .ok (), none =>
      if answered then
        some { self with stage := if config.profileServer then .profiling else .launching }
      else some self
  | _, _ => none

/-- The deadline of what is being waited for passes. -/
def elapse (self : State) : Option State :=
  match self.stage with
  | .awaiting attempt =>
    some { self with stage := .inspecting attempt (.failed (.msg "o-sfu did not become ready")) }
  | .working => some { self with stage := .halting .deadline false }
  | .collecting completion =>
    some (self.combinePhases completion
      (.error (.msg "RTC phase stream exceeded its shutdown deadline")))
  | .stopping purpose .wait => some { self with stage := .stopping purpose .kill }
  | _ => none

/-- A shutdown signal arrives, or its stream fails. -/
def signal (self : State) (received : Except Fault Unit) : Option State :=
  match self.stage with
  | .building attempt => some { self with
      stage := .inspecting attempt
        (.interrupted (signalError "load run interrupted during o-sfu startup" received)) }
  | .awaiting attempt => some { self with
      stage := .inspecting attempt
        (.interrupted (signalError "load run interrupted during o-sfu startup" received)) }
  | .working => some { self with
      stage := .halting
        (.interrupted (signalError "load run interrupted during RTC work" received)) false }
  | _ => none

/-- What follows once a starting server that was interrupted or has failed is inspected.
One that has exited is replaced, one that has not is stopped. -/
def afterStartup (self : State) (attempt : Nat) (server : Child) : StartupCause → State
  | .interrupted error =>
    if server.tryWait.isSome then
      self.leave (.error (combineStartupAndShutdown error (.ok ())))
    else { self with stage := .stopping (.startup error) .inspect }
  | .failed error =>
    if server.tryWait.isSome then
      if attempt < startupAttempts then
        { self with
          stage := .spawning (attempt + 1)
          formers := self.formers ++ [server]
          server := none }
      else
        self.leave (.error (error.context
          s!"o-sfu failed all {startupAttempts} startup attempts"))
    else { self with stage := .stopping (.startup error) .inspect }

/-- `try_wait` on the server or the worker, wherever the controller is about to stop it. -/
def inspect (config : RunConfig) (self : State) (io : Except Fault Unit) : Option State :=
  match self.stage, self.server, self.rtc with
  | .inspecting attempt cause, some server, _ =>
    match withContext cause.inspection io with
    | .error error => some (self.leave (.error error))
    | .ok () =>
      some ({ self with server := some server.reap }.afterStartup attempt server.reap cause)
  | .stopping purpose .inspect, some server, _ =>
    match withContext "failed to inspect the o-sfu process" io, server.tryWait with
    | .error error, _ => some (self.stopped purpose (.error error))
    | .ok (), some _ =>
      some ({ self with server := some server.reap }.stopped purpose
        (.error (.msg "o-sfu exited before shutdown")))
    | .ok (), none => some { self with stage := .stopping purpose .signal }
  | .halting cause false, _, some rtc =>
    match withContext "failed to inspect the RTC worker" io, rtc.tryWait with
    | .error error, _ => some (self.halted config cause (.error error))
    | .ok (), some _ => some ({ self with rtc := some rtc.reap }.halted config cause (.ok ()))
    | .ok (), none => some { self with stage := .halting cause true }
  | _, _, _ => none

/-- `kill -TERM` is run on the process id that the handle gives out. -/
def terminate (self : State) (io : Except Fault Bool) : Option State :=
  match self.stage, self.server with
  | .stopping purpose .signal, some server =>
    match server.id with
    | none => some (self.stopped purpose (.error (.msg "o-sfu process has no process id")))
    | some _ =>
      match withContext "failed to signal the o-sfu process" io with
      | .error error => some (self.stopped purpose (.error error))
      | .ok false =>
        some (self.stopped purpose (.error (.msg "failed to send SIGTERM to o-sfu")))
      | .ok true =>
        some { self with stage := .stopping purpose .wait, server := some server.terminate }
  | _, _ => none

/-- The wait for the server answers: while the worker runs, or while the server shuts down. -/
def waitServer (self : State) (io : Except Fault Unit) : Option State :=
  match self.stage, self.server with
  | .working, some server =>
    match withContext "failed to wait for o-sfu during RTC work" io with
    | .error error => some (self.collect (.error error))
    | .ok () => server.tryWait.map (fun status =>
        { self with stage := .halting (.serverExited status) false, server := some server.reap })
  | .stopping purpose .wait, some server =>
    match withContext "failed to wait for o-sfu shutdown" io with
    | .error error => some (self.stopped purpose (.error error))
    | .ok () => server.tryWait.map (fun status =>
        { self with server := some server.reap }.stopped purpose
          (if status.success then .ok ()
            else .error (.msg s!"o-sfu shutdown exited with {status.shown}")))
  | _, _ => none

/-- The wait for the worker answers. -/
def waitRtc (self : State) (io : Except Fault Unit) : Option State :=
  match self.stage, self.rtc with
  | .working, some rtc =>
    match withContext "failed to wait for the RTC worker" io with
    | .error error => some (self.collect (.error error))
    | .ok () => rtc.tryWait.map (fun status =>
        { self with rtc := some rtc.reap }.collect
          (if status.success then .ok .completed
            else .error (.msg s!"RTC worker exited with {status.shown}")))
  | _, _ => none

/-- The phase task tells that it has failed. -/
def phaseError (self : State) : Option State :=
  match self.stage, self.phaseTask with
  | .working, some (.error _) => some { self with stage := .halting .phases false }
  | _, _ => none

/-- The worker that is to stop, or the server that did not shut down in time, is killed. -/
def kill (config : RunConfig) (self : State) (io : Except Fault Unit) : Option State :=
  match self.stage, self.server, self.rtc with
  | .stopping purpose .kill, some server, _ =>
    match withContext "failed to force-stop o-sfu" (io >>= fun _ => server.kill) with
    | .error error => some (self.stopped purpose (.error error))
    | .ok gone =>
      some ({ self with server := some gone }.stopped purpose
        (.error (.msg "o-sfu exceeded its shutdown deadline")))
  | .halting cause true, _, some rtc =>
    match withContext "failed to stop the RTC worker" (io >>= fun _ => rtc.kill) with
    | .error error => some (self.halted config cause (.error error))
    | .ok gone => some ({ self with rtc := some gone }.halted config cause (.ok ()))
  | _, _, _ => none

/-- The profiler attaches to the server's process. -/
def startProfiler (self : State) (io : Except Fault Unit) : Option State :=
  match self.stage, self.server with
  | .profiling, some server =>
    match server.id with
    | none => some (self.leave (.error (.msg "o-sfu process has no process id")))
    | some _ =>
      match withContext "failed to start o-sfu profiling" io with
      | .error error => some { self with stage := .stopping (.run (.error error)) .inspect }
      | .ok () => some { self with stage := .launching, profiler := true }
  | _, _ => none

/-- The logs are created and the worker is spawned. -/
def launch (self : State) (io : Except Fault UInt32) : Option State :=
  match self.stage with
  | .launching =>
    match io with
    | .error error => some { self with stage := .closing (.error error) false }
    | .ok pid => some { self with stage := .sampling, rtc := some (.spawn pid) }
  | _ => none

/-- Telemetry samples both processes, so both ids are read. -/
def startTelemetry (self : State) (io : Except Fault Unit) : Option State :=
  match self.stage, self.server, self.rtc with
  | .sampling, some server, some rtc =>
    match (do
      let _ ← (server.id.elim (.error (.msg "o-sfu process has no process id")) .ok :
        Except Fault UInt32)
      let _ ← (rtc.id.elim (.error (.msg "RTC worker has no process id")) .ok :
        Except Fault UInt32)
      withContext "failed to start telemetry sampling" io) with
    | .error error => some (self.leaveRtc (.closing (.error error) false))
    | .ok () => some { self with stage := .working }
  | _, _, _ => none

/-- The phase task has ended in time. -/
def collectPhases (self : State) : Option State :=
  match self.stage, self.phaseTask with
  | .collecting completion, some result => some (self.combinePhases completion result)
  | _, _ => none

/-- The sampler has finished, and with it the work. -/
def finishTelemetry (self : State) (io : Except Fault Unit) : Option State :=
  match self.stage with
  | .finishing completion => some (self.leaveWork completion io)
  | _ => none

/-- The result has been read, or could not be. -/
def readResult (config : RunConfig) (self : State) (io : Except Fault ScenarioResult) :
    Option State :=
  match self.stage with
  | .reading => some (self.close config io)
  | _ => none

/-- The profiler has finished. -/
def finishProfiler (self : State) (io : Except Fault Unit) : Option State :=
  match self.stage with
  | .closing runResult serverExited => some (self.settle runResult serverExited io)
  | _ => none

/-- One step of the controller or of what it waits for. -/
def step (config : RunConfig) (self : State) : Action → Option State
  | .serverExits status => self.serverExits status
  | .rtcExits status => self.rtcExits status
  | .phasesEnd result => self.phasesEnd result
  | .prepare io => self.prepare config io
  | .spawnServer io => self.spawnServer io
  | .buildClient io => self.buildClient io
  | .poll io answered => self.poll config io answered
  | .elapse => self.elapse
  | .signal received => self.signal received
  | .inspect io => self.inspect config io
  | .terminate io => self.terminate io
  | .waitServer io => self.waitServer io
  | .waitRtc io => self.waitRtc io
  | .phaseError => self.phaseError
  | .kill io => self.kill config io
  | .startProfiler io => self.startProfiler io
  | .launch io => self.launch io
  | .startTelemetry io => self.startTelemetry io
  | .collectPhases => self.collectPhases
  | .finishTelemetry io => self.finishTelemetry io
  | .readResult io => self.readResult config io
  | .finishProfiler io => self.finishProfiler io

end State

end SfuLoad.Controller
