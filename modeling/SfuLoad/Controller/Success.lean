import SfuLoad.Controller.Progress
import SfuLoad.Controller.Reporting

/-!
# What a successful run is worth

A run that returns a result has seen both its processes end well: the worker by itself,
the server after it was asked to. A server that ends on its own before that, at any
moment after it was ready, leaves no way to a result.
-/

namespace SfuLoad.Controller

open Kit.Fallible Kit.Outcomes Kit.Runs Model

/-- The process has exited with success, and its handle knows. -/
def Child.Finished (child : Child) : Prop :=
  ∃ status, child.process = .reaped status ∧ status.success = true

namespace Child

/-- A process that has finished has been collected. -/
theorem Finished.isReaped {child : Child} (finished : child.Finished) : child.isReaped = true := by
  obtain ⟨status, reaped, -⟩ := finished
  simp [Child.isReaped, Child.id, reaped]

/-- A child that exited with success and is collected has finished. -/
theorem reap_finished {child : Child} {status : ExitStatus} (exited : child.tryWait = some status)
    (succeeded : status.success = true) :
    child.reap.Finished ∧ child.reap.terminated = child.terminated := by
  obtain ⟨pid, process, terminated, killed⟩ := child
  cases process with
  | running => cases exited
  | exited other =>
    obtain rfl := Option.some.inj exited
    exact ⟨⟨other, rfl, succeeded⟩, rfl⟩
  | reaped other =>
    obtain rfl := Option.some.inj exited
    exact ⟨⟨other, rfl, succeeded⟩, rfl⟩

/-- A process that has finished does not exit again. -/
theorem exit_of_finished {child ended : Child} {status : ExitStatus} (finished : child.Finished)
    (exited : child.exit status = some ended) : False := by
  obtain ⟨-, unreaped, -⟩ := exit_unreaped exited
  rw [finished.isReaped] at unreaped
  cases unreaped

end Child

/-- A worker whose work is completed has ended well, a server that is waited for was asked
to end, and where there is a result the server has ended well too. -/
structure Clean (state : State) : Prop where
  rtc : state.answers.completion = some (.ok .completed) →
    ∃ rtc, state.rtc = some rtc ∧ rtc.Finished
  asked : ∀ purpose, state.stage = .stopping purpose .wait →
    ∃ server, state.server = some server ∧ server.terminated = true
  server : ∀ value, state.stage = .returned (.ok value) →
    ∃ server, state.server = some server ∧ server.Finished ∧ server.terminated = true

/-- Nothing has been claimed yet. -/
theorem clean_initial : Clean .initial where
  rtc completed := by cases completed
  asked purpose stage := by cases stage
  server value returned := by cases returned

namespace Clean

variable {config : RunConfig} {state next : State}

/-- A step that touches neither the worker nor the answers, and neither waits for the
server nor returns a result. -/
theorem moved (clean : Clean state) (rtc : next.rtc = state.rtc)
    (answers : next.answers.completion = state.answers.completion)
    (stage : ∀ purpose, next.stage ≠ .stopping purpose .wait)
    (unreturned : ∀ value, next.stage ≠ .returned (.ok value)) : Clean next where
  rtc completed := by
    rw [rtc]
    exact clean.rtc (answers ▸ completed)
  asked purpose waits := absurd waits (stage purpose)
  server value returned := absurd returned (unreturned value)

/-- A finished worker stays as it is when its handle is dropped. -/
theorem dropped (clean : Clean state) (completed : state.answers.completion = some (.ok .completed)) :
    ∃ rtc, state.rtc.map Child.dropped = some rtc ∧ rtc.Finished := by
  obtain ⟨rtc, present, finished⟩ := clean.rtc completed
  refine ⟨rtc, ?_, finished⟩
  rw [present, Option.map_some, Child.dropped_of_reaped finished.isReaped]

/-- A run that returns an error has only the worker to account for. -/
theorem leave {error : Fault} {before : State} (clean : Clean before)
    (rtc : state.rtc = before.rtc)
    (answers : state.answers.completion = before.answers.completion) :
    Clean (state.leave (.error error)) where
  rtc completed := by
    have before_completed : before.answers.completion = some (.ok .completed) := by
      rw [← answers]
      exact completed
    have kept := clean.dropped before_completed
    rw [← rtc] at kept
    exact kept
  asked purpose waits := by cases waits
  server value returned := by cases returned

/-- The wait for the worker answers with something else than a completed work. -/
theorem collect {completion : Except Fault RtcWaitOutcome} (other : completion ≠ .ok .completed) :
    Clean (state.collect completion) where
  rtc completed := absurd (Option.some.inj completed) other
  asked purpose waits := by cases waits
  server value returned := by cases returned

/-- A worker that had to be stopped has not completed. -/
theorem outcome_ne_completed (spec : ScenarioSpec) (cause : HaltCause)
    (result : Except Fault Unit) : cause.outcome spec result ≠ .ok .completed := by
  intro completed
  cases cause <;> cases result <;> cases completed

/-- Before the work begins no work is completed. -/
theorem early (untold : next.answers = .none) (stage : ∀ purpose, next.stage ≠ .stopping purpose .wait)
    (unreturned : ∀ value, next.stage ≠ .returned (.ok value)) : Clean next where
  rtc completed := by
    rw [untold] at completed
    cases completed
  asked purpose waits := absurd waits (stage purpose)
  server value returned := absurd returned (unreturned value)

/-- A shutdown that failed leaves an error. -/
theorem stopFailed (clean : Clean state) (purpose : Purpose) (server : Child) (error : Fault) :
    Clean ({ state with server := some server }.stopped purpose (.error error)) := by
  cases purpose with
  | startup startupError => exact clean.leave rfl rfl
  | run result =>
    cases result with
    | ok value => exact clean.leave rfl rfl
    | error runError => exact clean.leave rfl rfl

/-- What telemetry answers claims nothing new about the processes. -/
theorem leaveWork (clean : Clean state) (completion : Except Fault RtcWorkerCompletion)
    (io : Except Fault Unit) : Clean (state.leaveWork completion io) := by
  have kept := clean.dropped
  unfold State.leaveWork State.leaveRtc
  split
  all_goals
    exact ⟨kept, (fun purpose waits => by cases waits), (fun value returned => by cases returned)⟩

/-- The last combination before the server is stopped claims nothing new either. -/
theorem settle (clean : Clean state) {runResult : Except Fault ScenarioResult}
    {serverExited : Bool} (lost : serverExited = true → ∃ error, runResult = .error error)
    (io : Except Fault Unit) : Clean (state.settle runResult serverExited io) := by
  cases serverExited with
  | false =>
    exact clean.moved rfl rfl (fun purpose waits => by cases waits)
      (fun value returned => by cases returned)
  | true =>
    obtain ⟨error, rfl⟩ := lost rfl
    unfold State.settle
    cases (if state.profiler then io else .ok ()) with
    | ok done => exact clean.leave rfl rfl
    | error profileError => exact clean.leave rfl rfl

/-- Every move keeps it. -/
theorem keeps (moves : Moves config state next) (told : state.stage.Told config state.answers)
    (clean : Clean state) : Clean next := by
  cases moves with
  | serverExits present exited =>
    obtain ⟨-, -, -, -, -, terminated, -⟩ := Child.exit_unreaped exited
    refine ⟨clean.rtc, fun purpose waits => ?_, fun value returned => ?_⟩
    · obtain ⟨server, found, asked⟩ := clean.asked purpose waits
      obtain rfl := Option.some.inj (present.symm.trans found)
      exact ⟨_, rfl, terminated.trans asked⟩
    · obtain ⟨server, found, finished, -⟩ := clean.server value returned
      obtain rfl := Option.some.inj (present.symm.trans found)
      exact (Child.exit_of_finished finished exited).elim
  | rtcExits present exited =>
    refine ⟨fun completed => ?_, clean.asked, clean.server⟩
    obtain ⟨rtc, found, finished⟩ := clean.rtc completed
    obtain rfl := Option.some.inj (present.symm.trans found)
    exact (Child.exit_of_finished finished exited).elim
  | phasesEnd result running => exact ⟨clean.rtc, clean.asked, clean.server⟩
  | fails server error early => exact clean.leave rfl rfl
  | prepared stage => exact clean.moved rfl rfl (by simp) (by simp)
  | spawned attempt pid stage => exact clean.moved rfl rfl (by simp) (by simp)
  | built attempt stage => exact clean.moved rfl rfl (by simp) (by simp)
  | troubled attempt cause stage => exact clean.moved rfl rfl (by simp) (by simp)
  | exitedEarly attempt error stage present exited => exact clean.moved rfl rfl (by simp) (by simp)
  | ready attempt stage =>
    cases profiled : config.profileServer with
    | true => exact clean.moved rfl rfl (by simp) (by simp)
    | false => exact clean.moved rfl rfl (by simp) (by simp)
  | gaveUp attempt cause error stage present running => exact clean.moved rfl rfl (by simp) (by simp)
  | retried attempt cause stage present exited left => exact clean.moved rfl rfl (by simp) (by simp)
  | profilerFailed error stage => exact clean.moved rfl rfl (by simp) (by simp)
  | profiled stage => exact clean.moved rfl rfl (by simp) (by simp)
  | unlaunched error stage => exact clean.moved rfl rfl (by simp) (by simp)
  | launched pid stage =>
    rw [stage] at told
    exact early told (by simp) (by simp)
  | unsampled error stage =>
    rw [stage] at told
    exact early told (by simp) (by simp)
  | sampled stage => exact clean.moved rfl rfl (by simp) (by simp)
  | waitFailed error stage => exact collect (by simp)
  | troubledWork cause stage other => exact clean.moved rfl rfl (by simp) (by simp)
  | serverLost stage present exited => exact clean.moved rfl rfl (by simp) (by simp)
  | worked stage present exited =>
    split
    case isTrue succeeded =>
      exact ⟨fun _ => ⟨_, rfl, (Child.reap_finished exited succeeded).1⟩,
        (fun purpose waits => by cases waits), (fun value returned => by cases returned)⟩
    case isFalse => exact collect (by simp)
  | rtcStays cause stage present running => exact clean.moved rfl rfl (by simp) (by simp)
  | halted cause kill rtc result stage => exact collect (outcome_ne_completed _ cause result)
  | phasesCollected completion result stage =>
    exact clean.moved rfl rfl (by simp [State.combinePhases]) (by simp [State.combinePhases])
  | telemetryFinished completion io stage => exact clean.leaveWork completion io
  | read io stage => exact clean.moved rfl rfl (by simp [State.close]) (by simp [State.close])
  | profileFinished runResult serverExited io stage =>
    rw [stage] at told
    exact clean.settle told.2.2.2 io
  | inspected purpose stage present running => exact clean.moved rfl rfl (by simp) (by simp)
  | terminated purpose stage present known =>
    exact ⟨clean.rtc, fun _ _ => ⟨_, rfl, rfl⟩, fun value returned => by cases returned⟩
  | overdue purpose stage => exact clean.moved rfl rfl (by simp) (by simp)
  | stopFailed purpose stopStep server error stage => exact clean.stopFailed purpose server error
  | stopped purpose stage present exited succeeded =>
    obtain ⟨server, found, asked⟩ := clean.asked purpose stage
    obtain rfl := Option.some.inj (present.symm.trans found)
    obtain ⟨finished, terminated⟩ := Child.reap_finished exited succeeded
    refine ⟨clean.dropped, (fun _ waits => by cases waits), fun value returned => ?_⟩
    exact ⟨_, congrArg some (Child.dropped_of_reaped finished.isReaped), finished,
      terminated.trans asked⟩

end Clean

/-- The stages between a server that is ready and one that is known to run when it is to
be stopped. -/
def Stage.serves : Stage → Bool
  | .profiling => true
  | .launching => true
  | .sampling => true
  | .working => true
  | .halting _ _ => true
  | .collecting _ => true
  | .finishing _ => true
  | .reading => true
  | .closing _ _ => true
  | .stopping _ .inspect => true
  | _ => false

/-- The server has ended before it was to be stopped, or that has led to an error. -/
def Lost (state : State) : Prop :=
  (state.stage.serves = true ∧ ∃ server, state.server = some server ∧ server.isRunning = false) ∨
    ∃ error, state.stage = .returned (.error error)

namespace Lost

variable {config : RunConfig} {state next : State}

/-- At no other stage is a server lost. -/
theorem elsewhere (lost : Lost state) {stage : Stage} (at_stage : state.stage = stage)
    (other : stage.serves = false) (unreturned : ∀ result, stage ≠ .returned result) : False := by
  rcases lost with ⟨serves, -⟩ | ⟨error, returned⟩
  · rw [at_stage, other] at serves
    cases serves
  · exact unreturned _ (at_stage.symm.trans returned)

/-- A server that is only starting cannot have been lost yet. -/
theorem awaits (lost : Lost state) {attempt : Nat} (stage : state.stage.awaits attempt) : False := by
  rcases stage with building | awaiting
  · exact lost.elsewhere building rfl (by simp)
  · exact lost.elsewhere awaiting rfl (by simp)

/-- The lost server stays lost while the run goes on with it. -/
theorem goes_on (lost : Lost state) {stage : Stage} (at_stage : state.stage = stage)
    (unreturned : ∀ result, stage ≠ .returned result) (serves : next.stage.serves = true)
    (server : next.server = state.server) : Lost next := by
  rcases lost with ⟨-, gone⟩ | ⟨error, returned⟩
  · exact .inl ⟨serves, server ▸ gone⟩
  · exact (unreturned _ (at_stage.symm.trans returned)).elim

/-- A stopped server whose end was no success leaves an error. -/
theorem stopFailed (purpose : Purpose) (error : Fault) :
    Lost (state.stopped purpose (.error error)) := by
  cases purpose with
  | startup startupError => exact .inr ⟨_, rfl⟩
  | run result =>
    cases result with
    | ok value => exact .inr ⟨_, rfl⟩
    | error runError => exact .inr ⟨_, rfl⟩

/-- A lost server stays lost when the work is left. -/
theorem leaveWork (lost : Lost state) {completion : Except Fault RtcWorkerCompletion}
    (stage : state.stage = .finishing completion) (io : Except Fault Unit) :
    Lost (state.leaveWork completion io) := by
  unfold State.leaveWork State.leaveRtc
  split
  all_goals exact lost.goes_on stage (by simp) rfl rfl

/-- And when the profiler has finished: the run has already failed or the server is looked
at. -/
theorem settle (lost : Lost state) {runResult : Except Fault ScenarioResult} {serverExited : Bool}
    (stage : state.stage = .closing runResult serverExited)
    (failed : serverExited = true → ∃ error, runResult = .error error) (io : Except Fault Unit) :
    Lost (state.settle runResult serverExited io) := by
  cases serverExited with
  | false => exact lost.goes_on stage (by simp) rfl rfl
  | true =>
    obtain ⟨error, rfl⟩ := failed rfl
    unfold State.settle
    cases (if state.profiler then io else .ok ()) with
    | ok done => exact .inr ⟨_, rfl⟩
    | error profileError => exact .inr ⟨_, rfl⟩

/-- No move brings a lost server back, and none makes a result without it. -/
theorem keeps (moves : Moves config state next) (told : state.stage.Told config state.answers)
    (lost : Lost state) : Lost next := by
  cases moves with
  | serverExits present exited =>
    rcases lost with ⟨-, server, found, gone⟩ | returned
    · obtain rfl := Option.some.inj (present.symm.trans found)
      obtain ⟨running, -⟩ := Child.exit_unreaped exited
      rw [running] at gone
      cases gone
    · exact .inr returned
  | rtcExits present exited => exact lost
  | phasesEnd result running => exact lost
  | fails server error early => exact .inr ⟨error, rfl⟩
  | prepared stage => exact (lost.elsewhere stage rfl (by simp)).elim
  | spawned attempt pid stage => exact (lost.elsewhere stage rfl (by simp)).elim
  | built attempt stage => exact (lost.elsewhere stage rfl (by simp)).elim
  | troubled attempt cause stage => exact (lost.awaits stage).elim
  | exitedEarly attempt error stage present exited =>
    exact (lost.elsewhere stage rfl (by simp)).elim
  | ready attempt stage => exact (lost.elsewhere stage rfl (by simp)).elim
  | gaveUp attempt cause error stage present running =>
    exact (lost.elsewhere stage rfl (by simp)).elim
  | retried attempt cause stage present exited left =>
    exact (lost.elsewhere stage rfl (by simp)).elim
  | profilerFailed error stage => exact lost.goes_on stage (by simp) rfl rfl
  | profiled stage => exact lost.goes_on stage (by simp) rfl rfl
  | unlaunched error stage => exact lost.goes_on stage (by simp) rfl rfl
  | launched pid stage => exact lost.goes_on stage (by simp) rfl rfl
  | unsampled error stage => exact lost.goes_on stage (by simp) rfl rfl
  | sampled stage => exact lost.goes_on stage (by simp) rfl rfl
  | waitFailed error stage => exact lost.goes_on stage (by simp) rfl rfl
  | troubledWork cause stage other => exact lost.goes_on stage (by simp) rfl rfl
  | serverLost stage present exited =>
    rcases lost with ⟨-, server, found, gone⟩ | ⟨error, returned⟩
    · obtain rfl := Option.some.inj (present.symm.trans found)
      exact .inl ⟨rfl, _, rfl, (Child.reap_isRunning _).trans gone⟩
    · cases stage.symm.trans returned
  | worked stage present exited => exact lost.goes_on stage (by simp) rfl rfl
  | rtcStays cause stage present running => exact lost.goes_on stage (by simp) rfl rfl
  | halted cause kill rtc result stage => exact lost.goes_on stage (by simp) rfl rfl
  | phasesCollected completion result stage => exact lost.goes_on stage (by simp) rfl rfl
  | telemetryFinished completion io stage => exact lost.leaveWork stage io
  | read io stage => exact lost.goes_on stage (by simp) rfl rfl
  | profileFinished runResult serverExited io stage =>
    rw [stage] at told
    exact lost.settle stage told.2.2.2 io
  | inspected purpose stage present running =>
    rcases lost with ⟨-, server, found, gone⟩ | ⟨error, returned⟩
    · obtain rfl := Option.some.inj (present.symm.trans found)
      rw [Child.tryWait_eq_none_iff.mp running] at gone
      cases gone
    · cases stage.symm.trans returned
  | terminated purpose stage present known => exact (lost.elsewhere stage rfl (by simp)).elim
  | overdue purpose stage => exact (lost.elsewhere stage rfl (by simp)).elim
  | stopFailed purpose stopStep server error stage => exact stopFailed purpose error
  | stopped purpose stage present exited succeeded =>
    exact (lost.elsewhere stage rfl (by simp)).elim

end Lost

/-- What a run keeps: the answers of its stages, and how its processes have ended. -/
structure Accountable (config : RunConfig) (state : State) : Prop where
  told : state.stage.Told config state.answers
  clean : Clean state

/-- What a run keeps from the moment it has lost its server. -/
structure Doomed (config : RunConfig) (state : State) : Prop where
  told : state.stage.Told config state.answers
  lost : Lost state

section Runs

variable {config : RunConfig} {actions : List Action} {state : State}

/-- Both invariants hold in every state of a run. -/
theorem Accountable.of_run (ran : run (State.step config) .initial actions = some state) :
    Accountable config state := by
  refine run_keeps ?_ ran (⟨rfl, clean_initial⟩ : Accountable config State.initial)
  intro before action after stepped accountable
  rcases State.moves_of_step stepped with moves | ⟨rfl, -⟩
  · exact ⟨State.told_of_moves moves accountable.told,
      accountable.clean.keeps moves accountable.told⟩
  · exact accountable

/-- Once the server is lost it stays lost to the end. -/
theorem Doomed.of_run {final : State} (doomed : Doomed config state)
    (ran : run (State.step config) state actions = some final) : Doomed config final := by
  refine run_keeps ?_ ran doomed
  intro before action after stepped doomed
  rcases State.moves_of_step stepped with moves | ⟨rfl, -⟩
  · exact ⟨State.told_of_moves moves doomed.told, doomed.lost.keeps moves doomed.told⟩
  · exact doomed

end Runs

section

variable {config : RunConfig} {actions : List Action} {state : State}

end

/-- One packet from one sender to one receiver. -/
def smokeRunResult : ScenarioResult where
  schemaVersion := resultSchemaVersion
  profile := ScenarioSpec.profile (.smoke 1 1)
  oSfuRevision := none
  scenario := .smoke 1 1
  serverPolicy := ServerPolicy.forScenario (.smoke 1 1)
  plan := ⟨1, 1, 1, 80, 1, 80⟩
  offeredPackets := 1
  offeredPayloadBytes := 80
  deliveredPackets := 1
  deliveredPayloadBytes := 80
  correctness := .zero
  elapsedMs := 1
  maxSendLagMs := 0

/-- The second server serves the run to its end. -/
def smokeActions : List Action := restart ++ [
  .startProfiler (.ok ()), .launch (.ok 43), .startTelemetry (.ok ()), .phasesEnd (.ok ()),
  .rtcExits ⟨true, "exit status: 0"⟩, .waitRtc (.ok ()), .collectPhases,
  .finishTelemetry (.ok ()), .readResult (.ok smokeRunResult), .finishProfiler (.ok ()),
  .inspect (.ok ()), .terminate (.ok true), .serverExits ⟨true, "exit status: 0"⟩,
  .waitServer (.ok ())]

/-- The result is the one the scenario plans. -/
theorem smokeRunResult_valid : smokeRunResult.validate (.smoke 1 1) = .ok () := by
  have valid : (ScenarioSpec.smoke 1 1).validate = .ok () := rfl
  have planned : (ScenarioSpec.smoke 1 1).plan = .ok ⟨1, 1, 1, 80, 1, 80⟩ := rfl
  have faultless : CorrectnessSummary.zero.discrepancyCount = 0 := rfl
  simp [smokeRunResult, ScenarioResult.validate, valid, planned, faultless, bind_eq_ok]

/-- The actions are a run, and it returns the result. -/
theorem smoke_ran : ∃ state, run (State.step smokeConfig) .initial smokeActions = some state ∧
    state.stage = .returned (.ok smokeRunResult) := by
  have closed : (do
      let result ← (.ok smokeRunResult : Except Fault ScenarioResult)
      (result.validate smokeConfig.spec).mapError Fault.msg
      .ok result) = .ok smokeRunResult := by
    show ((smokeRunResult.validate (.smoke 1 1)).mapError Fault.msg >>= fun _ => _) = _
    rw [smokeRunResult_valid]
    rfl
  have settled := congrArg (fun result => Stage.returned
    (combineRunAndShutdown (combineRunAndProfile result (.ok () : Except Fault Unit))
      (.ok () : Except Fault Unit))) closed
  exact ⟨_, rfl, settled⟩

section

variable {config : RunConfig} {actions : List Action} {state : State}

end

/-- The worker exits with a failure, its phase stream never ends, and the server cannot be
signalled. -/
def failingActions : List Action := restart ++ [
  .startProfiler (.ok ()), .launch (.ok 43), .startTelemetry (.ok ()),
  .rtcExits ⟨false, "exit status: 1"⟩, .waitRtc (.ok ()), .elapse, .finishTelemetry (.ok ()),
  .finishProfiler (.ok ()), .inspect (.ok ()), .terminate (.ok false)]

section

variable {config : RunConfig} {actions : List Action} {state : State}

/-- A server that has ended at any moment between readiness and shutdown costs the result,
whatever happens later. -/
theorem server_loss_fails {later : List Action} {final : State}
    {result : Except Fault ScenarioResult}
    (ran : run (State.step config) .initial actions = some state)
    (serving : state.stage.serves = true)
    (gone : ∃ server, state.server = some server ∧ server.isRunning = false)
    (went_on : run (State.step config) state later = some final)
    (returned : final.stage = .returned result) : ∃ error, result = .error error := by
  obtain ⟨told, -⟩ := Accountable.of_run ran
  obtain ⟨-, lost⟩ := Doomed.of_run ⟨told, .inl ⟨serving, gone⟩⟩ went_on
  rcases lost with ⟨serves, -⟩ | ⟨error, failed⟩
  · rw [returned] at serves
    cases serves
  · exact ⟨error, Stage.returned.inj (returned.symm.trans failed)⟩

end

/-- The server exits as soon as it is ready. -/
def serverLost : List Action := restart ++ [.serverExits ⟨true, "exit status: 0"⟩]

/-- The profiler does not start, and the server is found exited. -/
def afterLoss : List Action :=
  [.startProfiler (.error (.msg "perf is missing")), .inspect (.ok ())]

/-- A server that exits before its profiler is up costs the run. -/
theorem server_loss_fails_profiling : ∃ state final result,
    run (State.step smokeConfig) .initial serverLost = some state ∧
      run (State.step smokeConfig) state afterLoss = some final ∧
      final.stage = .returned result ∧ ∃ error, result = .error error := by
  refine ⟨_, _, _, rfl, rfl, rfl, ?_⟩
  exact server_loss_fails (rfl : run (State.step smokeConfig) .initial serverLost = some _) rfl
    ⟨_, rfl, rfl⟩ (rfl : run (State.step smokeConfig) _ afterLoss = some _) rfl

end SfuLoad.Controller
