import SfuLoad.Controller.Supervision

/-!
# What a returned run tells of its parts

The result of a run is combined from what the worker, its phase stream, telemetry, the
profiler and the shutdown answered. Along a run the result so far reports every part
that has answered, and it is a success only where each of them was one. A server that
exits during the work stands for the phase stream and telemetry, whose answers are then
not looked at.
-/

namespace SfuLoad.Controller

open Kit.Fallible Kit.Outcomes Kit.Runs Model

/-- Where a part has answered, the result reports what it answered. -/
def Tells {α β : Type} (result : Except Fault α) (part : Option (Except Fault β)) : Prop :=
  ∀ answer, part = some answer → Reports Fault.Shows result answer

/-- The worker's wait ended because the server did. -/
def Answers.serverExited (answers : Answers) : Prop :=
  ∃ status, answers.completion = some (.ok (.serverExited status))

/-- The work was completed, and what accompanies it too. -/
structure Answers.Worked (answers : Answers) : Prop where
  completion : answers.completion = some (.ok .completed)
  phases : answers.phaseResult = some (.ok ())
  telemetry : answers.telemetryResult = some (.ok ())

/-- What is reported where the server exited during the work. -/
def serverLoss (status : ExitStatus) : Except Fault Unit :=
  .error (.msg s!"o-sfu exited during RTC work with {status.shown}")

/-- The result reports the parts of the work, and is a success only if they all are. -/
structure Accounts {α : Type} (answers : Answers) (result : Except Fault α) : Prop where
  completion : Tells result answers.completion
  phases : answers.serverExited ∨ Tells result answers.phaseResult
  telemetry : answers.serverExited ∨ Tells result answers.telemetryResult
  exited : ∀ status, answers.completion = some (.ok (.serverExited status)) →
    Reports Fault.Shows result (serverLoss status)
  worked : ∀ value, result = .ok value → answers.Worked

/-- A result that reports another one accounts for all that this one accounts for. -/
theorem Accounts.reported {α β : Type} {answers : Answers} {inner : Except Fault α}
    {outer : Except Fault β} (accounts : Accounts answers inner)
    (reports : Reports Fault.Shows outer inner) : Accounts answers outer where
  completion answer told :=
    Reports.trans (Fault.keeps_also "" "") reports (accounts.completion answer told)
  phases := accounts.phases.imp_right fun tells answer told =>
    Reports.trans (Fault.keeps_also "" "") reports (tells answer told)
  telemetry := accounts.telemetry.imp_right fun tells answer told =>
    Reports.trans (Fault.keeps_also "" "") reports (tells answer told)
  exited status lost := Reports.trans (Fault.keeps_also "" "") reports (accounts.exited status lost)
  worked value succeeded := by
    obtain ⟨other, innerSucceeded⟩ := reports.ok succeeded
    exact accounts.worked other innerSucceeded

/-- Where nothing has answered, an error accounts for everything. -/
theorem accounts_none {α : Type} {answers : Answers} (completion : answers.completion = none)
    (phases : answers.phaseResult = none) (telemetry : answers.telemetryResult = none)
    (error : Fault) : Accounts answers (.error error : Except Fault α) where
  completion answer told := by
    rw [completion] at told
    cases told
  phases := .inr fun answer told => by
    rw [phases] at told
    cases told
  telemetry := .inr fun answer told => by
    rw [telemetry] at told
    cases told
  exited status lost := by
    rw [completion] at lost
    cases lost
  worked value succeeded := by cases succeeded

/-- The outcome of the wait is reported by the completion, and so is the phase stream. -/
theorem combineRtcAndPhases_tells (completion : Except Fault RtcWaitOutcome)
    (phases : Except Fault Unit) :
    Reports Fault.Shows (combineRtcAndPhases completion phases) completion ∧
      ((∃ status, completion = .ok (.serverExited status)) ∨
        Reports Fault.Shows (combineRtcAndPhases completion phases) phases) := by
  have keeps := Fault.keeps_also "" ""
  cases completion with
  | ok outcome =>
    refine ⟨Reports.of_ok _ _, ?_⟩
    cases outcome with
    | serverExited status => exact .inl ⟨status, rfl⟩
    | completed =>
      cases phases with
      | ok done => exact .inr (Reports.of_ok _ _)
      | error phaseError => exact .inr (Reports.of_error keeps phaseError)
    | phaseFailed =>
      cases phases with
      | ok done => exact .inr (Reports.of_ok _ _)
      | error phaseError => exact .inr (Reports.of_error keeps phaseError)
  | error runError =>
    cases phases with
    | ok done => exact ⟨Reports.of_error keeps runError, .inr (Reports.of_ok _ _)⟩
    | error phaseError =>
      constructor
      · intro failure failed
        obtain rfl := Except.error.inj failed
        exact ⟨_, rfl, (Fault.keeps_also _ _).left _ _⟩
      · right
        intro failure failed
        obtain rfl := Except.error.inj failed
        exact ⟨_, rfl, (Fault.keeps_also _ _).right _ _⟩

/-- The combination is completed only where both parts are. -/
theorem combineRtcAndPhases_completed {completion : Except Fault RtcWaitOutcome}
    {phases : Except Fault Unit} (done : combineRtcAndPhases completion phases = .ok .completed) :
    completion = .ok .completed ∧ phases = .ok () := by
  cases completion with
  | ok outcome => cases outcome <;> cases phases <;> simp_all [combineRtcAndPhases]
  | error runError => cases phases <;> simp [combineRtcAndPhases] at done

/-- It is a lost server only where the wait ended so. -/
theorem combineRtcAndPhases_serverExited {completion : Except Fault RtcWaitOutcome}
    {phases : Except Fault Unit} {status : ExitStatus}
    (exited : combineRtcAndPhases completion phases = .ok (.serverExited status)) :
    completion = .ok (.serverExited status) := by
  cases completion with
  | ok outcome => cases outcome <;> cases phases <;> simp_all [combineRtcAndPhases]
  | error runError => cases phases <;> simp [combineRtcAndPhases] at exited

/-- The combination shows what the work failed with, and what telemetry failed with unless
the server's exit stands for it. -/
theorem combineRtcAndTelemetry_tells (completion : Except Fault RtcWorkerCompletion)
    (telemetry : Except Fault Unit) :
    Reports Fault.Shows (combineRtcAndTelemetry completion telemetry) completion ∧
      ((∃ status, completion = .ok (.serverExited status)) ∨
        Reports Fault.Shows (combineRtcAndTelemetry completion telemetry) telemetry) := by
  have keeps := Fault.keeps_also "" ""
  cases completion with
  | ok outcome =>
    refine ⟨Reports.of_ok _ _, ?_⟩
    cases outcome with
    | serverExited status => exact .inl ⟨status, rfl⟩
    | completed =>
      cases telemetry with
      | ok done => exact .inr (Reports.of_ok _ _)
      | error telemetryError => exact .inr (Reports.of_error keeps telemetryError)
  | error runError =>
    cases telemetry with
    | ok done => exact ⟨Reports.of_error keeps runError, .inr (Reports.of_ok _ _)⟩
    | error telemetryError =>
      constructor
      · intro failure failed
        obtain rfl := Except.error.inj failed
        exact ⟨_, rfl, (Fault.keeps_also _ _).left _ _⟩
      · right
        intro failure failed
        obtain rfl := Except.error.inj failed
        exact ⟨_, rfl, (Fault.keeps_also _ _).right _ _⟩

/-- It is completed only where both parts are. -/
theorem combineRtcAndTelemetry_completed {completion : Except Fault RtcWorkerCompletion}
    {telemetry : Except Fault Unit}
    (done : combineRtcAndTelemetry completion telemetry = .ok .completed) :
    completion = .ok .completed ∧ telemetry = .ok () := by
  cases completion with
  | ok outcome => cases outcome <;> cases telemetry <;> simp_all [combineRtcAndTelemetry]
  | error runError => cases telemetry <;> simp [combineRtcAndTelemetry] at done

/-- It is a lost server only where the work ended so. -/
theorem combineRtcAndTelemetry_serverExited {completion : Except Fault RtcWorkerCompletion}
    {telemetry : Except Fault Unit} {status : ExitStatus}
    (exited : combineRtcAndTelemetry completion telemetry = .ok (.serverExited status)) :
    completion = .ok (.serverExited status) := by
  cases completion with
  | ok outcome => cases outcome <;> cases telemetry <;> simp_all [combineRtcAndTelemetry]
  | error runError => cases telemetry <;> simp [combineRtcAndTelemetry] at exited

/-- The work is over, and its result is checked. -/
structure Ran (config : RunConfig) (answers : Answers) (result : Except Fault ScenarioResult) :
    Prop where
  accounts : Accounts answers result
  valid : ∀ value, result = .ok value → value.validate config.spec = .ok ()

/-- The profiler has answered too, where the work was a success. -/
structure Profiled (config : RunConfig) (answers : Answers)
    (result : Except Fault ScenarioResult) : Prop extends Ran config answers result where
  profile : Tells result answers.profileResult
  profiled : ∀ value, result = .ok value → answers.profileResult = some (.ok ())

/-- So has the shutdown. -/
structure Shut (config : RunConfig) (answers : Answers) (result : Except Fault ScenarioResult) :
    Prop extends Profiled config answers result where
  shutdown : Tells result answers.shutdownResult
  shut : ∀ value, result = .ok value → answers.shutdownResult = some (.ok ())

/-- What the parts have answered by the time a stage is reached. -/
def Stage.Told (config : RunConfig) (answers : Answers) : Stage → Prop
  | .collecting completion => answers = { Answers.none with completion := some completion }
  | .finishing completion => ∃ outcome phases,
      answers = { Answers.none with completion := some outcome, phaseResult := some phases } ∧
        completion = combineRtcAndPhases outcome phases
  | .reading => answers.Worked ∧ answers.profileResult = none ∧ answers.shutdownResult = none
  | .closing runResult serverExited =>
    Ran config answers runResult ∧ answers.profileResult = none ∧
      answers.shutdownResult = none ∧ (serverExited = true → ∃ error, runResult = .error error)
  | .stopping (.startup _) _ => answers = .none
  | .stopping (.run runResult) _ =>
    Profiled config answers runResult ∧ answers.shutdownResult = none
  | .returned result => Shut config answers result
  | _ => answers = .none

/-- An error with no answer to report. -/
theorem shut_none {config : RunConfig} {answers : Answers} (untold : answers = .none)
    (error : Fault) : Shut config answers (.error error) where
  accounts := accounts_none (by rw [untold]; rfl) (by rw [untold]; rfl) (by rw [untold]; rfl) error
  valid value succeeded := by cases succeeded
  profile answer told := by
    rw [untold] at told
    cases told
  profiled value succeeded := by cases succeeded
  shutdown answer told := by
    rw [untold] at told
    cases told
  shut value succeeded := by cases succeeded

/-- What the shutdown answers is combined with what there is. -/
theorem Profiled.shut {config : RunConfig} {answers : Answers}
    {result : Except Fault ScenarioResult} (profiled : Profiled config answers result)
    (answer : Except Fault Unit) :
    Shut config { answers with shutdownResult := some answer }
      (combineRunAndShutdown result answer) := by
  have keeps := Fault.keeps_also "load run failed: " ". o-sfu shutdown also failed: "
  have reports : Reports Fault.Shows (combineRunAndShutdown result answer) result :=
    combine_reports_first keeps result answer
  have accounts := profiled.accounts.reported reports
  refine ⟨⟨⟨⟨accounts.completion, accounts.phases, accounts.telemetry, accounts.exited, ?_⟩, ?_⟩,
    ?_, ?_⟩, ?_, ?_⟩
  · intro value succeeded
    have worked := accounts.worked value succeeded
    exact ⟨worked.completion, worked.phases, worked.telemetry⟩
  · intro value succeeded
    exact profiled.valid value (combine_eq_ok.mp succeeded).1
  · intro told present
    exact Reports.trans keeps reports (profiled.profile told present)
  · intro value succeeded
    exact profiled.profiled value (combine_eq_ok.mp succeeded).1
  · intro told present
    obtain rfl := Option.some.inj present
    exact combine_reports_second keeps result answer
  · intro value succeeded
    obtain ⟨-, other, done⟩ := combine_eq_ok.mp succeeded
    exact congrArg some done

/-- What the profiler answers is combined with the result of the work. -/
theorem Ran.profiled {config : RunConfig} {answers : Answers}
    {result : Except Fault ScenarioResult} (ran : Ran config answers result)
    (answer : Except Fault Unit) :
    Profiled config { answers with profileResult := some answer }
      (combineRunAndProfile result answer) := by
  have keeps := Fault.keeps_also "RTC work failed: " ". profile shutdown also failed: "
  have accounts := ran.accounts.reported (combine_reports_first keeps result answer)
  refine ⟨⟨⟨accounts.completion, accounts.phases, accounts.telemetry, accounts.exited, ?_⟩, ?_⟩,
    ?_, ?_⟩
  · intro value succeeded
    have worked := accounts.worked value succeeded
    exact ⟨worked.completion, worked.phases, worked.telemetry⟩
  · intro value succeeded
    exact ran.valid value (combine_eq_ok.mp succeeded).1
  · intro told present
    obtain rfl := Option.some.inj present
    exact combine_reports_second keeps result answer
  · intro value succeeded
    obtain ⟨-, other, done⟩ := combine_eq_ok.mp succeeded
    exact congrArg some done

/-- An error in place of a result stands no check. -/
theorem Ran.of_error {config : RunConfig} {answers : Answers} {error : Fault}
    (accounts : Accounts answers (.error error : Except Fault ScenarioResult)) :
    Ran config answers (.error error) :=
  ⟨accounts, fun value succeeded => by cases succeeded⟩

namespace State

variable {config : RunConfig} {state next : State}

/-- Telemetry's answer completes what there is to tell of the work. -/
theorem told_leaveWork {outcome : Except Fault RtcWaitOutcome} {phases telemetry : Except Fault Unit}
    (answers : state.answers =
      { Answers.none with completion := some outcome, phaseResult := some phases }) :
    (state.leaveWork (combineRtcAndPhases outcome phases) telemetry).stage.Told config
      (state.leaveWork (combineRtcAndPhases outcome phases) telemetry).answers := by
  have keeps := Fault.keeps_also "" ""
  obtain ⟨ofOutcome, ofPhases⟩ := combineRtcAndPhases_tells outcome phases
  obtain ⟨ofCompletion, ofTelemetry⟩ :=
    combineRtcAndTelemetry_tells (combineRtcAndPhases outcome phases) telemetry
  unfold leaveWork leaveRtc
  rw [answers]
  cases combined : combineRtcAndTelemetry (combineRtcAndPhases outcome phases) telemetry with
  | error error =>
    rw [combined] at ofCompletion ofTelemetry
    refine ⟨.of_error ⟨?_, ?_, ?_, ?_, ?_⟩, rfl, rfl, fun exited => by cases exited⟩
    · intro answer told
      obtain rfl := Option.some.inj told
      exact Reports.trans keeps (Reports.of_error keeps error) (ofCompletion.trans keeps ofOutcome)
    · refine ofPhases.imp (fun exited => ?_) (fun reports answer told => ?_)
      · exact exited.imp fun status same => congrArg some same
      · obtain rfl := Option.some.inj told
        exact Reports.trans keeps (Reports.of_error keeps error) (ofCompletion.trans keeps reports)
    · refine ofTelemetry.imp (fun exited => ?_) (fun reports answer told => ?_)
      · exact exited.imp fun status same =>
          congrArg some (combineRtcAndPhases_serverExited same)
      · obtain rfl := Option.some.inj told
        exact Reports.trans keeps (Reports.of_error keeps error) reports
    · intro status exited
      obtain rfl := Option.some.inj exited
      cases combined
    · intro value succeeded
      cases succeeded
  | ok done =>
    cases done with
    | completed =>
      obtain ⟨completed, telemetryDone⟩ := combineRtcAndTelemetry_completed combined
      obtain ⟨outcomeDone, phasesDone⟩ := combineRtcAndPhases_completed completed
      exact ⟨⟨congrArg some outcomeDone, congrArg some phasesDone, congrArg some telemetryDone⟩,
        rfl, rfl⟩
    | serverExited status =>
      have exited := combineRtcAndPhases_serverExited (combineRtcAndTelemetry_serverExited combined)
      have lost : ∃ status, some outcome = some (.ok (.serverExited status)) :=
        ⟨status, congrArg some exited⟩
      refine ⟨.of_error ⟨?_, .inl lost, .inl lost, ?_, ?_⟩, rfl, rfl, fun _ => ⟨_, rfl⟩⟩
      · intro answer told
        obtain rfl := Option.some.inj told
        rw [exited]
        exact Reports.of_ok _ _
      · intro other same
        cases exited.symm.trans (Option.some.inj same)
        exact Reports.of_error keeps _
      · intro value succeeded
        cases succeeded

/-- A result that was read accounts for the work that was completed. -/
theorem told_close (io : Except Fault ScenarioResult) (worked : state.answers.Worked)
    (unprofiled : state.answers.profileResult = none)
    (running : state.answers.shutdownResult = none) :
    (state.close config io).stage.Told config (state.close config io).answers := by
  refine ⟨⟨⟨?_, .inr ?_, .inr ?_, ?_, fun _ _ => worked⟩, ?_⟩, unprofiled, running,
    fun exited => by cases exited⟩
  · intro answer told
    obtain rfl := Option.some.inj (worked.completion.symm.trans told)
    exact Reports.of_ok _ _
  · intro answer told
    obtain rfl := Option.some.inj (worked.phases.symm.trans told)
    exact Reports.of_ok _ _
  · intro answer told
    obtain rfl := Option.some.inj (worked.telemetry.symm.trans told)
    exact Reports.of_ok _ _
  · intro status exited
    cases worked.completion.symm.trans exited
  · intro value succeeded
    obtain ⟨result, read, succeeded⟩ := (bind_eq_ok _ _ _).mp succeeded
    obtain ⟨done, checked, succeeded⟩ := (bind_eq_ok _ _ _).mp succeeded
    obtain rfl := Except.ok.inj succeeded
    cases validated : result.validate config.spec with
    | ok valid => rfl
    | error message =>
      rw [validated] at checked
      cases checked

/-- The profiler's answer joins the result, which is an error where the server exited. -/
theorem told_settle {runResult : Except Fault ScenarioResult} {serverExited : Bool}
    (ran : Ran config state.answers runResult) (running : state.answers.shutdownResult = none)
    (lost : serverExited = true → ∃ error, runResult = .error error) (io : Except Fault Unit) :
    (state.settle runResult serverExited io).stage.Told config
      (state.settle runResult serverExited io).answers := by
  have profiled := ran.profiled (if state.profiler then io else .ok ())
  cases serverExited with
  | false => exact ⟨profiled, running⟩
  | true =>
    obtain ⟨error, failed⟩ := lost rfl
    obtain ⟨ranked, tells, done⟩ := profiled
    obtain ⟨shown, combined, -⟩ :=
      combine_reports_first (Fault.keeps_also "RTC work failed: "
        ". profile shutdown also failed: ") runResult (if state.profiler then io else .ok ())
        error failed
    have same : combineRunAndShutdown (combineRunAndProfile runResult
        (if state.profiler then io else .ok ())) (.ok () : Except Fault Unit) =
        combineRunAndProfile runResult (if state.profiler then io else .ok ()) :=
      combine_ok _ _ _
    show Shut config _ (combineRunAndShutdown _ _)
    rw [same]
    refine ⟨⟨ranked, tells, done⟩, ?_, ?_⟩
    · intro answer told
      cases running.symm.trans told
    · intro value succeeded
      cases (show _ = _ from combined).symm.trans succeeded

/-- The work has not come to answer anything. -/
theorem told_closing {answers : Answers} (untold : answers = .none) (error : Fault) :
    (Stage.closing (.error error) false).Told config answers := by
  obtain ⟨profiled, -, -⟩ : Shut config answers _ := shut_none untold error
  exact ⟨profiled.toRan, congrArg Answers.profileResult untold,
    congrArg Answers.shutdownResult untold, fun exited => by cases exited⟩

/-- After the wait the worker's answer is told, and nothing else has answered yet. -/
theorem told_collect (completion : Except Fault RtcWaitOutcome)
    (told : state.answers = .none) :
    (state.collect completion).stage.Told config (state.collect completion).answers := by
  have recorded := congrArg (fun answers : Answers =>
    { answers with completion := some completion }) told
  exact recorded

/-- What stopping the server answers is the last answer, after those of the work or alone. -/
theorem told_stopped {purpose : Purpose} {stopStep : StopStep} (answer : Except Fault Unit)
    (told : (Stage.stopping purpose stopStep).Told config state.answers) :
    (state.stopped purpose answer).stage.Told config (state.stopped purpose answer).answers := by
  cases purpose with
  | run result => exact told.1.shut answer
  | startup error =>
    have untold : state.answers = .none := told
    obtain ⟨profiled, -, -⟩ : Shut config state.answers _ :=
      shut_none untold (combineStartupAndShutdown error answer)
    have accounts := accounts_none (α := ScenarioResult) (congrArg Answers.completion untold)
      (congrArg Answers.phaseResult untold) (congrArg Answers.telemetryResult untold)
      (combineStartupAndShutdown error answer)
    refine ⟨⟨⟨⟨accounts.completion, accounts.phases, accounts.telemetry, accounts.exited, ?_⟩,
      profiled.valid⟩,      profiled.profile, profiled.profiled⟩, ?_, ?_⟩
    · intro value succeeded
      cases succeeded
    · intro told present
      obtain rfl := Option.some.inj present
      exact combineStartupAndShutdown_reports error answer
    · intro value succeeded
      cases succeeded

/-- Whatever is known at a stage where nothing has answered. -/
theorem told_early {stage : Stage} (early : stage.isEarly = true) {answers : Answers}
    (told : stage.Told config answers) : answers = .none := by
  cases stage <;> first | exact told | cases early

/-- Every move keeps what the stages tell. -/
theorem told_of_moves (moves : Moves config state next)
    (told : state.stage.Told config state.answers) : next.stage.Told config next.answers := by
  cases moves with
  | serverExits present exited => exact told
  | rtcExits present exited => exact told
  | phasesEnd result running => exact told
  | fails server error early => exact shut_none (told_early early told) error
  | prepared stage =>
    rw [stage] at told
    exact told
  | spawned attempt pid stage =>
    rw [stage] at told
    exact told
  | built attempt stage =>
    rw [stage] at told
    exact told
  | troubled attempt cause stage =>
    rcases stage with building | awaiting
    · rw [building] at told
      exact told
    · rw [awaiting] at told
      exact told
  | exitedEarly attempt error stage present exited =>
    rw [stage] at told
    exact told
  | ready attempt stage =>
    rw [stage] at told
    cases profiled : config.profileServer with
    | true => exact told
    | false => exact told
  | gaveUp attempt cause error stage present running =>
    rw [stage] at told
    exact told
  | retried attempt cause stage present exited left =>
    rw [stage] at told
    exact told
  | profilerFailed error stage =>
    rw [stage] at told
    obtain ⟨shut⟩ : Shut config state.answers _ := shut_none told error
    exact ⟨shut, congrArg Answers.shutdownResult told⟩
  | profiled stage =>
    rw [stage] at told
    exact told
  | unlaunched error stage =>
    rw [stage] at told
    exact told_closing told error
  | launched pid stage =>
    rw [stage] at told
    exact told
  | unsampled error stage =>
    rw [stage] at told
    exact told_closing told error
  | sampled stage =>
    rw [stage] at told
    exact told
  | waitFailed error stage =>
    rw [stage] at told
    exact told_collect _ told
  | troubledWork cause stage other =>
    rw [stage] at told
    exact told
  | serverLost stage present exited =>
    rw [stage] at told
    exact told
  | worked stage present exited =>
    rw [stage] at told
    exact told_collect _ told
  | rtcStays cause stage present running =>
    rw [stage] at told
    exact told
  | halted cause kill rtc result stage =>
    rw [stage] at told
    exact told_collect _ told
  | phasesCollected completion result stage =>
    rw [stage] at told
    have recorded := congrArg (fun answers : Answers =>
      { answers with phaseResult := some result }) told
    exact ⟨completion, result, recorded, rfl⟩
  | telemetryFinished completion io stage =>
    rw [stage] at told
    obtain ⟨outcome, phases, answers, rfl⟩ := told
    exact told_leaveWork answers
  | read io stage =>
    rw [stage] at told
    obtain ⟨worked, unprofiled, running⟩ := told
    exact told_close io worked unprofiled running
  | profileFinished runResult serverExited io stage =>
    rw [stage] at told
    obtain ⟨ran, -, running, lost⟩ := told
    exact told_settle ran running lost io
  | inspected purpose stage present running =>
    rw [stage] at told
    cases purpose with
    | startup error => exact told
    | run result => exact told
  | terminated purpose stage present known =>
    rw [stage] at told
    cases purpose with
    | startup error => exact told
    | run result => exact told
  | overdue purpose stage =>
    rw [stage] at told
    cases purpose with
    | startup error => exact told
    | run result => exact told
  | stopFailed purpose stopStep server error stage =>
    rw [stage] at told
    exact told_stopped _ told
  | stopped purpose stage present exited succeeded =>
    rw [stage] at told
    exact told_stopped _ told

end State

end SfuLoad.Controller
