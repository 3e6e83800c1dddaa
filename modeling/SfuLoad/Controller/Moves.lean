import SfuLoad.Controller.Lifecycle

/-!
# The moves of a run

Every step of the lifecycle is one of these moves, or a readiness request that the server
does not answer yet. Results about runs are proved move by move; no later proof looks
into the step function.
-/

namespace SfuLoad.Controller

open Kit.Fallible Kit.Outcomes Kit.Runs Model

/-- The stages from which the run fails with nothing but an error to report. -/
def Stage.isEarly : Stage → Bool
  | .preparing => true
  | .spawning _ => true
  | .inspecting _ _ => true
  | .profiling => true
  | _ => false

/-- The stages at which a starting server can fail or be interrupted. -/
def Stage.awaits (attempt : Nat) (stage : Stage) : Prop :=
  stage = .building attempt ∨ stage = .awaiting attempt

/-- A readiness request that the server does not answer. -/
def Action.isUnanswered : Action → Bool
  | .poll _ answered => !answered
  | _ => false

/-- What a state can become in one step. -/
inductive Moves (config : RunConfig) (state : State) : State → Prop where
  | serverExits {server ended : Child} {status : ExitStatus}
      (present : state.server = some server) (exited : server.exit status = some ended) :
      Moves config state { state with server := some ended }
  | rtcExits {rtc ended : Child} {status : ExitStatus}
      (present : state.rtc = some rtc) (exited : rtc.exit status = some ended) :
      Moves config state { state with rtc := some ended }
  | phasesEnd (result : Except Fault Unit) (running : state.phaseTask = none) :
      Moves config state { state with phaseTask := some result }
  /-- Before there is a server to stop, a failure ends the run. -/
  | fails (server : Option Child) (error : Fault) (early : state.stage.isEarly = true) :
      Moves config state ({ state with server := server }.leave (.error error))
  | prepared (stage : state.stage = .preparing) :
      Moves config state { state with stage := .spawning 1 }
  | spawned (attempt : Nat) (pid : UInt32) (stage : state.stage = .spawning attempt) :
      Moves config state
        { state with stage := .building attempt, server := some (.spawn pid) }
  | built (attempt : Nat) (stage : state.stage = .building attempt) :
      Moves config state { state with stage := .awaiting attempt }
  /-- Starting a server failed or was interrupted while it may still run. -/
  | troubled (attempt : Nat) (cause : StartupCause) (stage : state.stage.awaits attempt) :
      Moves config state { state with stage := .inspecting attempt cause }
  /-- The server exited before it was ready. Its status is collected. -/
  | exitedEarly (attempt : Nat) (error : Fault) {server : Child} {status : ExitStatus}
      (stage : state.stage = .awaiting attempt) (present : state.server = some server)
      (exited : server.tryWait = some status) :
      Moves config state { state with
        stage := .inspecting attempt (.failed error)
        server := some server.reap }
  /-- The server answered. -/
  | ready (attempt : Nat) (stage : state.stage = .awaiting attempt) :
      Moves config state
        { state with stage := if config.profileServer then .profiling else .launching }
  /-- The server runs and is not ready: it is stopped, and the run fails. -/
  | gaveUp (attempt : Nat) (cause : StartupCause) (error : Fault) {server : Child}
      (stage : state.stage = .inspecting attempt cause) (present : state.server = some server)
      (running : server.tryWait = none) :
      Moves config state { state with stage := .stopping (.startup error) .inspect }
  /-- The server exited by itself and attempts are left. -/
  | retried (attempt : Nat) (cause : StartupCause) {server : Child} {status : ExitStatus}
      (stage : state.stage = .inspecting attempt cause) (present : state.server = some server)
      (exited : server.tryWait = some status) (left : attempt < startupAttempts) :
      Moves config state { state with
        stage := .spawning (attempt + 1)
        formers := state.formers ++ [server.reap]
        server := none }
  /-- Without its profiler the run stops the server. -/
  | profilerFailed (error : Fault) (stage : state.stage = .profiling) :
      Moves config state { state with stage := .stopping (.run (.error error)) .inspect }
  | profiled (stage : state.stage = .profiling) :
      Moves config state { state with stage := .launching, profiler := true }
  /-- The worker could not be started. -/
  | unlaunched (error : Fault) (stage : state.stage = .launching) :
      Moves config state { state with stage := .closing (.error error) false }
  | launched (pid : UInt32) (stage : state.stage = .launching) :
      Moves config state { state with stage := .sampling, rtc := some (.spawn pid) }
  /-- Telemetry could not be started: the worker is dropped with its handle. -/
  | unsampled (error : Fault) (stage : state.stage = .sampling) :
      Moves config state (state.leaveRtc (.closing (.error error) false))
  | sampled (stage : state.stage = .sampling) : Moves config state { state with stage := .working }
  /-- Waiting for a child failed. -/
  | waitFailed (error : Fault) (stage : state.stage = .working) :
      Moves config state (state.collect (.error error))
  /-- The deadline, a signal or the phase stream ends the wait, and the worker is stopped. -/
  | troubledWork (cause : HaltCause) (stage : state.stage = .working)
      (other : ∀ status, cause ≠ .serverExited status) :
      Moves config state { state with stage := .halting cause false }
  /-- The server exited during the work. -/
  | serverLost {server : Child} {status : ExitStatus} (stage : state.stage = .working)
      (present : state.server = some server) (exited : server.tryWait = some status) :
      Moves config state { state with
        stage := .halting (.serverExited status) false
        server := some server.reap }
  /-- The worker exited by itself. -/
  | worked {rtc : Child} {status : ExitStatus} (stage : state.stage = .working)
      (present : state.rtc = some rtc) (exited : rtc.tryWait = some status) :
      Moves config state ({ state with rtc := some rtc.reap }.collect
        (if status.success then .ok .completed
          else .error (.msg s!"RTC worker exited with {status.shown}")))
  /-- The worker is still there and will be killed. -/
  | rtcStays (cause : HaltCause) {rtc : Child} (stage : state.stage = .halting cause false)
      (present : state.rtc = some rtc) (running : rtc.tryWait = none) :
      Moves config state { state with stage := .halting cause true }
  /-- The worker has been stopped, or stopping it failed. -/
  | halted (cause : HaltCause) (kill : Bool) (rtc : Child) (result : Except Fault Unit)
      (stage : state.stage = .halting cause kill) :
      Moves config state ({ state with rtc := some rtc }.halted config cause result)
  | phasesCollected (completion : Except Fault RtcWaitOutcome) (result : Except Fault Unit)
      (stage : state.stage = .collecting completion) :
      Moves config state (state.combinePhases completion result)
  | telemetryFinished (completion : Except Fault RtcWorkerCompletion) (io : Except Fault Unit)
      (stage : state.stage = .finishing completion) :
      Moves config state (state.leaveWork completion io)
  | read (io : Except Fault ScenarioResult) (stage : state.stage = .reading) :
      Moves config state (state.close config io)
  | profileFinished (runResult : Except Fault ScenarioResult) (serverExited : Bool)
      (io : Except Fault Unit) (stage : state.stage = .closing runResult serverExited) :
      Moves config state (state.settle runResult serverExited io)
  /-- The server still runs and will be asked to terminate. -/
  | inspected (purpose : Purpose) {server : Child}
      (stage : state.stage = .stopping purpose .inspect) (present : state.server = some server)
      (running : server.tryWait = none) :
      Moves config state { state with stage := .stopping purpose .signal }
  /-- The server has been asked to terminate. -/
  | terminated (purpose : Purpose) {server : Child} {pid : UInt32}
      (stage : state.stage = .stopping purpose .signal) (present : state.server = some server)
      (known : server.id = some pid) :
      Moves config state
        { state with stage := .stopping purpose .wait, server := some server.terminate }
  /-- The server did not exit in time and will be killed. -/
  | overdue (purpose : Purpose) (stage : state.stage = .stopping purpose .wait) :
      Moves config state { state with stage := .stopping purpose .kill }
  /-- Stopping the server failed, or the server did not end well. -/
  | stopFailed (purpose : Purpose) (stopStep : StopStep) (server : Child) (error : Fault)
      (stage : state.stage = .stopping purpose stopStep) :
      Moves config state ({ state with server := some server }.stopped purpose (.error error))
  /-- The server exited with success after it was asked to. -/
  | stopped (purpose : Purpose) {server : Child} {status : ExitStatus}
      (stage : state.stage = .stopping purpose .wait) (present : state.server = some server)
      (exited : server.tryWait = some status) (succeeded : status.success = true) :
      Moves config state ({ state with server := some server.reap }.stopped purpose (.ok ()))

namespace State

variable {config : RunConfig} {state next : State}

/-- An exit of the server is the move of that name. -/
theorem moves_of_serverExits {status : ExitStatus}
    (stepped : state.serverExits status = some next) : Moves config state next := by
  obtain ⟨server, present, stepped⟩ := Option.bind_eq_some_iff.mp stepped
  obtain ⟨ended, exited, stepped⟩ := Option.bind_eq_some_iff.mp stepped
  obtain rfl := Option.some.inj stepped
  exact .serverExits present exited

/-- So is an exit of the worker. -/
theorem moves_of_rtcExits {status : ExitStatus}
    (stepped : state.rtcExits status = some next) : Moves config state next := by
  obtain ⟨rtc, present, stepped⟩ := Option.bind_eq_some_iff.mp stepped
  obtain ⟨ended, exited, stepped⟩ := Option.bind_eq_some_iff.mp stepped
  obtain rfl := Option.some.inj stepped
  exact .rtcExits present exited

/-- The end of the phase task leaves its result. -/
theorem moves_of_phasesEnd {result : Except Fault Unit}
    (stepped : state.phasesEnd result = some next) : Moves config state next := by
  unfold phasesEnd at stepped
  split at stepped
  case h_1 running | h_2 running | h_3 running =>
    obtain rfl := Option.some.inj stepped
    exact .phasesEnd result running
  case h_4 => cases stepped

/-- Preparing leads to the first attempt or ends the run. -/
theorem moves_of_prepare {io : Except Fault Unit}
    (stepped : state.prepare config io = some next) : Moves config state next := by
  unfold prepare at stepped
  split at stepped
  case h_1 stage =>
    split at stepped
    case h_1 error _ =>
      obtain rfl := Option.some.inj stepped
      exact .fails state.server error (by rw [stage]; rfl)
    case h_2 =>
      obtain rfl := Option.some.inj stepped
      exact .prepared stage
  case h_2 => cases stepped

/-- Starting the server leads to its client or ends the run. -/
theorem moves_of_spawnServer {io : Except Fault UInt32}
    (stepped : state.spawnServer io = some next) : Moves config state next := by
  unfold spawnServer at stepped
  split at stepped
  case h_1 attempt stage =>
    split at stepped
    case h_1 error =>
      obtain rfl := Option.some.inj stepped
      exact .fails state.server error (by rw [stage]; rfl)
    case h_2 pid =>
      obtain rfl := Option.some.inj stepped
      exact .spawned attempt pid stage
  case h_2 => cases stepped

/-- A client that cannot be built is trouble with the start. -/
theorem moves_of_buildClient {io : Except Fault Unit}
    (stepped : state.buildClient io = some next) : Moves config state next := by
  unfold buildClient at stepped
  split at stepped
  case h_1 attempt stage =>
    split at stepped
    case h_1 error _ =>
      obtain rfl := Option.some.inj stepped
      exact .troubled attempt (.failed error) (.inl stage)
    case h_2 =>
      obtain rfl := Option.some.inj stepped
      exact .built attempt stage
  case h_2 => cases stepped

/-- A request that the server does not answer yet leaves everything as it is. -/
theorem moves_of_poll {io : Except Fault Unit} {answered : Bool}
    (stepped : state.poll config io answered = some next) :
    Moves config state next ∨ next = state ∧ answered = false := by
  unfold poll at stepped
  split at stepped
  case h_1 attempt server stage present =>
    split at stepped
    case h_1 error _ =>
      obtain rfl := Option.some.inj stepped
      exact .inl (.troubled attempt (.failed error) (.inr stage))
    case h_2 status _ exited =>
      obtain rfl := Option.some.inj stepped
      exact .inl (.exitedEarly attempt _ stage present exited)
    case h_3 =>
      cases answered with
      | true =>
        obtain rfl := Option.some.inj stepped
        exact .inl (.ready attempt stage)
      | false =>
        obtain rfl := Option.some.inj stepped
        exact .inr ⟨rfl, rfl⟩
  case h_2 => cases stepped

/-- What a passing deadline does depends on what is waited for: a start is in trouble, the
work is stopped, or the server is killed. -/
theorem moves_of_elapse (stepped : state.elapse = some next) : Moves config state next := by
  unfold elapse at stepped
  split at stepped
  case h_1 attempt stage =>
    obtain rfl := Option.some.inj stepped
    exact .troubled attempt _ (.inr stage)
  case h_2 stage =>
    obtain rfl := Option.some.inj stepped
    exact .troubledWork .deadline stage (by simp)
  case h_3 completion stage =>
    obtain rfl := Option.some.inj stepped
    exact .phasesCollected completion _ stage
  case h_4 purpose stage =>
    obtain rfl := Option.some.inj stepped
    exact .overdue purpose stage
  case h_5 => cases stepped

/-- A signal interrupts a start or the work and is not heard elsewhere. -/
theorem moves_of_signal {received : Except Fault Unit}
    (stepped : state.signal received = some next) : Moves config state next := by
  unfold signal at stepped
  split at stepped
  case h_1 attempt stage =>
    obtain rfl := Option.some.inj stepped
    exact .troubled attempt _ (.inl stage)
  case h_2 attempt stage =>
    obtain rfl := Option.some.inj stepped
    exact .troubled attempt _ (.inr stage)
  case h_3 stage =>
    obtain rfl := Option.some.inj stepped
    exact .troubledWork _ stage (by simp)
  case h_4 => cases stepped

/-- An inspected starting server has exited, and is replaced or not, or is stopped. -/
theorem moves_of_afterStartup {attempt : Nat} {cause : StartupCause} {server : Child}
    (stage : state.stage = .inspecting attempt cause) (present : state.server = some server) :
    Moves config state
      ({ state with server := some server.reap }.afterStartup attempt server.reap cause) := by
  have early : state.stage.isEarly = true := by rw [stage]; rfl
  cases exited : server.tryWait with
  | none =>
    have same : ({ state with server := some server.reap } : State) = state := by
      rw [Child.reap_of_running exited, ← present]
    rw [same]
    cases cause with
    | interrupted error =>
      simpa [afterStartup, Child.reap_tryWait, exited] using
        Moves.gaveUp attempt (.interrupted error) error stage present exited
    | failed error =>
      simpa [afterStartup, Child.reap_tryWait, exited] using
        Moves.gaveUp attempt (.failed error) error stage present exited
  | some status =>
    cases cause with
    | interrupted error =>
      simp only [afterStartup, Child.reap_tryWait, exited, Option.isSome_some, if_true]
      exact .fails (some server.reap) _ early
    | failed error =>
      simp only [afterStartup, Child.reap_tryWait, exited, Option.isSome_some, if_true]
      split
      case isTrue left => exact .retried attempt (.failed error) stage present exited left
      case isFalse => exact .fails (some server.reap) _ early

/-- What a child's status decides at each stage that asks for it. -/
theorem moves_of_inspect {io : Except Fault Unit}
    (stepped : state.inspect config io = some next) : Moves config state next := by
  unfold inspect at stepped
  split at stepped
  case h_1 attempt cause server _ stage present =>
    split at stepped
    case h_1 error _ =>
      obtain rfl := Option.some.inj stepped
      exact .fails state.server error (by rw [stage]; rfl)
    case h_2 =>
      obtain rfl := Option.some.inj stepped
      exact moves_of_afterStartup stage present
  case h_2 _ purpose server stage present =>
    split at stepped
    case h_1 error _ =>
      obtain rfl := Option.some.inj stepped
      have kept : ({ state with server := some server } : State) = state := by
        rw [← present]
      exact kept ▸ .stopFailed purpose .inspect server error stage
    case h_2 =>
      obtain rfl := Option.some.inj stepped
      exact .stopFailed purpose .inspect server.reap _ stage
    case h_3 _ running =>
      obtain rfl := Option.some.inj stepped
      exact .inspected purpose stage present running
  case h_3 _ cause rtc stage present =>
    split at stepped
    case h_1 error _ =>
      obtain rfl := Option.some.inj stepped
      have kept : ({ state with rtc := some rtc } : State) = state := by
        rw [← present]
      exact kept ▸ .halted cause false rtc (.error error) stage
    case h_2 =>
      obtain rfl := Option.some.inj stepped
      exact .halted cause false rtc.reap (.ok ()) stage
    case h_3 _ running =>
      obtain rfl := Option.some.inj stepped
      exact .rtcStays cause stage present running
  case h_4 => cases stepped

/-- A termination request goes to a server whose id is known, or fails. -/
theorem moves_of_terminate {io : Except Fault Bool}
    (stepped : state.terminate io = some next) : Moves config state next := by
  unfold terminate at stepped
  split at stepped
  case h_1 purpose server stage present =>
    have kept : ({ state with server := some server } : State) = state := by
      rw [← present]
    have failed (error : Fault) : Moves config state (state.stopped purpose (.error error)) :=
      kept ▸ .stopFailed purpose .signal server error stage
    split at stepped
    case h_1 =>
      obtain rfl := Option.some.inj stepped
      exact failed _
    case h_2 pid known =>
      split at stepped
      case h_1 error _ =>
        obtain rfl := Option.some.inj stepped
        exact failed error
      case h_2 =>
        obtain rfl := Option.some.inj stepped
        exact failed _
      case h_3 =>
        obtain rfl := Option.some.inj stepped
        exact .terminated purpose stage present known
  case h_2 => cases stepped

/-- The server that was asked to terminate has exited, well or not. -/
theorem moves_of_waitServer {io : Except Fault Unit}
    (stepped : state.waitServer io = some next) : Moves config state next := by
  unfold waitServer at stepped
  split at stepped
  case h_1 server stage present =>
    split at stepped
    case h_1 error _ =>
      obtain rfl := Option.some.inj stepped
      exact .waitFailed error stage
    case h_2 =>
      obtain ⟨status, exited, rfl⟩ := Option.map_eq_some_iff.mp stepped
      exact .serverLost stage present exited
  case h_2 purpose server stage present =>
    split at stepped
    case h_1 error _ =>
      obtain rfl := Option.some.inj stepped
      have kept : ({ state with server := some server } : State) = state := by
        rw [← present]
      exact kept ▸ .stopFailed purpose .wait server error stage
    case h_2 =>
      obtain ⟨status, exited, rfl⟩ := Option.map_eq_some_iff.mp stepped
      split
      case isTrue succeeded => exact .stopped purpose stage present exited succeeded
      case isFalse => exact .stopFailed purpose .wait server.reap _ stage
  case h_3 => cases stepped

/-- The worker has exited, or waiting for it failed. -/
theorem moves_of_waitRtc {io : Except Fault Unit}
    (stepped : state.waitRtc io = some next) : Moves config state next := by
  unfold waitRtc at stepped
  split at stepped
  case h_1 rtc stage present =>
    split at stepped
    case h_1 error _ =>
      obtain rfl := Option.some.inj stepped
      exact .waitFailed error stage
    case h_2 =>
      obtain ⟨status, exited, rfl⟩ := Option.map_eq_some_iff.mp stepped
      exact .worked stage present exited
  case h_2 => cases stepped

/-- A failed phase stream stops the work. -/
theorem moves_of_phaseError (stepped : state.phaseError = some next) :
    Moves config state next := by
  unfold phaseError at stepped
  split at stepped
  case h_1 stage _ =>
    obtain rfl := Option.some.inj stepped
    exact .troubledWork .phases stage (by simp)
  case h_2 => cases stepped

/-- A killed process has been collected as well, or killing it failed. -/
theorem moves_of_kill {io : Except Fault Unit}
    (stepped : state.kill config io = some next) : Moves config state next := by
  unfold kill at stepped
  split at stepped
  case h_1 _ purpose server stage present =>
    split at stepped
    case h_1 error _ =>
      obtain rfl := Option.some.inj stepped
      have kept : ({ state with server := some server } : State) = state := by
        rw [← present]
      exact kept ▸ .stopFailed purpose .kill server error stage
    case h_2 gone _ =>
      obtain rfl := Option.some.inj stepped
      exact .stopFailed purpose .kill gone _ stage
  case h_2 _ cause rtc stage present =>
    split at stepped
    case h_1 error _ =>
      obtain rfl := Option.some.inj stepped
      have kept : ({ state with rtc := some rtc } : State) = state := by
        rw [← present]
      exact kept ▸ .halted cause true rtc (.error error) stage
    case h_2 gone _ =>
      obtain rfl := Option.some.inj stepped
      exact .halted cause true gone (.ok ()) stage
  case h_3 => cases stepped

/-- The profiler runs, or the run stops its server. -/
theorem moves_of_startProfiler {io : Except Fault Unit}
    (stepped : state.startProfiler io = some next) : Moves config state next := by
  unfold startProfiler at stepped
  split at stepped
  case h_1 server stage present =>
    split at stepped
    case h_1 =>
      obtain rfl := Option.some.inj stepped
      exact .fails state.server _ (by rw [stage]; rfl)
    case h_2 =>
      split at stepped
      case h_1 error _ =>
        obtain rfl := Option.some.inj stepped
        exact .profilerFailed error stage
      case h_2 =>
        obtain rfl := Option.some.inj stepped
        exact .profiled stage
  case h_2 => cases stepped

/-- The worker runs, or the run closes. -/
theorem moves_of_launch {io : Except Fault UInt32}
    (stepped : state.launch io = some next) : Moves config state next := by
  unfold launch at stepped
  split at stepped
  case h_1 stage =>
    split at stepped
    case h_1 error =>
      obtain rfl := Option.some.inj stepped
      exact .unlaunched error stage
    case h_2 pid =>
      obtain rfl := Option.some.inj stepped
      exact .launched pid stage
  case h_2 => cases stepped

/-- Telemetry runs, or the run closes without the worker. -/
theorem moves_of_startTelemetry {io : Except Fault Unit}
    (stepped : state.startTelemetry io = some next) : Moves config state next := by
  unfold startTelemetry at stepped
  split at stepped
  case h_1 stage _ _ =>
    split at stepped
    case h_1 error _ =>
      obtain rfl := Option.some.inj stepped
      exact .unsampled error stage
    case h_2 =>
      obtain rfl := Option.some.inj stepped
      exact .sampled stage
  case h_2 => cases stepped

/-- What the phase task has answered is combined, or that it has not ended. -/
theorem moves_of_collectPhases (stepped : state.collectPhases = some next) :
    Moves config state next := by
  unfold collectPhases at stepped
  split at stepped
  case h_1 completion result stage _ =>
    obtain rfl := Option.some.inj stepped
    exact .phasesCollected completion result stage
  case h_2 => cases stepped

/-- The sampler's answer is combined. -/
theorem moves_of_finishTelemetry {io : Except Fault Unit}
    (stepped : state.finishTelemetry io = some next) : Moves config state next := by
  unfold finishTelemetry at stepped
  split at stepped
  case h_1 completion stage =>
    obtain rfl := Option.some.inj stepped
    exact .telemetryFinished completion io stage
  case h_2 => cases stepped

/-- The result is validated and the run closes. -/
theorem moves_of_readResult {io : Except Fault ScenarioResult}
    (stepped : state.readResult config io = some next) : Moves config state next := by
  unfold readResult at stepped
  split at stepped
  case h_1 stage =>
    obtain rfl := Option.some.inj stepped
    exact .read io stage
  case h_2 => cases stepped

/-- The profiler's answer is combined, and the server is stopped. -/
theorem moves_of_finishProfiler {io : Except Fault Unit}
    (stepped : state.finishProfiler io = some next) : Moves config state next := by
  unfold finishProfiler at stepped
  split at stepped
  case h_1 runResult serverExited stage =>
    obtain rfl := Option.some.inj stepped
    exact .profileFinished runResult serverExited io stage
  case h_2 => cases stepped

/-- Every step is one of the moves, but for a request without an answer. -/
theorem moves_of_step {action : Action} (stepped : state.step config action = some next) :
    Moves config state next ∨ next = state ∧ action.isUnanswered = true := by
  cases action with
  | serverExits status => exact .inl (moves_of_serverExits stepped)
  | rtcExits status => exact .inl (moves_of_rtcExits stepped)
  | phasesEnd result => exact .inl (moves_of_phasesEnd stepped)
  | prepare io => exact .inl (moves_of_prepare stepped)
  | spawnServer io => exact .inl (moves_of_spawnServer stepped)
  | buildClient io => exact .inl (moves_of_buildClient stepped)
  | poll io answered =>
    refine (moves_of_poll stepped).imp_right ?_
    rintro ⟨same, rfl⟩
    exact ⟨same, rfl⟩
  | elapse => exact .inl (moves_of_elapse stepped)
  | signal received => exact .inl (moves_of_signal stepped)
  | inspect io => exact .inl (moves_of_inspect stepped)
  | terminate io => exact .inl (moves_of_terminate stepped)
  | waitServer io => exact .inl (moves_of_waitServer stepped)
  | waitRtc io => exact .inl (moves_of_waitRtc stepped)
  | phaseError => exact .inl (moves_of_phaseError stepped)
  | kill io => exact .inl (moves_of_kill stepped)
  | startProfiler io => exact .inl (moves_of_startProfiler stepped)
  | launch io => exact .inl (moves_of_launch stepped)
  | startTelemetry io => exact .inl (moves_of_startTelemetry stepped)
  | collectPhases => exact .inl (moves_of_collectPhases stepped)
  | finishTelemetry io => exact .inl (moves_of_finishTelemetry stepped)
  | readResult io => exact .inl (moves_of_readResult stepped)
  | finishProfiler io => exact .inl (moves_of_finishProfiler stepped)

end State

end SfuLoad.Controller
