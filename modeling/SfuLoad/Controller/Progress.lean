import SfuLoad.Controller.Supervision

/-!
# A run comes to its end

Every stage stands nearer to the end than the one before, and a process ends once, so a
rank falls with every step except a readiness request that the server does not answer
yet. Before the end there is always a step the controller can take by itself.
-/

namespace SfuLoad.Controller

open Kit.Fallible Kit.Outcomes Kit.Runs Model

namespace Stage

/-- How far a stage is from the end. -/
def rank : Stage → Nat
  | preparing => 28
  | spawning attempt => 4 * (startupAttempts - attempt) + 19
  | building attempt => 4 * (startupAttempts - attempt) + 18
  | awaiting attempt => 4 * (startupAttempts - attempt) + 17
  | inspecting attempt _ => 4 * (startupAttempts - attempt) + 16
  | profiling => 14
  | launching => 13
  | sampling => 12
  | working => 11
  | halting _ false => 10
  | halting _ true => 9
  | collecting _ => 8
  | finishing _ => 7
  | reading => 6
  | closing _ _ => 5
  | stopping _ .inspect => 4
  | stopping _ .signal => 3
  | stopping _ .wait => 2
  | stopping _ .kill => 1
  | returned _ => 0

end Stage

/-- One for a process that can still exit. -/
def running (child : Option Child) : Nat := if child.any Child.isRunning then 1 else 0

/-- A process counts once at most. -/
theorem running_le (child : Option Child) : running child ≤ 1 := by
  unfold running
  split <;> omega

/-- A process that exits counts no more. -/
theorem running_exit {child ended : Child} {status : ExitStatus}
    (exited : child.exit status = some ended) :
    running (some child) = 1 ∧ running (some ended) = 0 := by
  obtain ⟨runs, -, -, stopped, -⟩ := Child.exit_unreaped exited
  simp [running, runs, stopped]

namespace State

/-- Three for each stage that is left, and one for each event that can still come. -/
def rank (self : State) : Nat :=
  3 * self.stage.rank + running self.server + running self.rtc +
    (if self.phaseTask.isNone then 1 else 0)

variable {config : RunConfig} {state next : State}

/-- Whatever else changes, a step to an earlier rank of stage lowers the rank. -/
theorem rank_lt_of_stage (phases : next.phaseTask = state.phaseTask)
    (nearer : next.stage.rank + 1 ≤ state.stage.rank) : next.rank < state.rank := by
  have server := running_le next.server
  have rtc := running_le next.rtc
  unfold rank
  rw [phases]
  omega

/-- Returning is below every other stage. -/
theorem rank_leave_lt {before : State} {result : Except Fault ScenarioResult}
    (phases : before.phaseTask = state.phaseTask) (unfinished : 0 < state.stage.rank) :
    (before.leave result).rank < state.rank :=
  rank_lt_of_stage phases (Nat.succ_le_of_lt unfinished)

/-- The stages before the server is up are far from the end. -/
theorem rank_early {stage : Stage} (early : stage.isEarly = true) : 0 < stage.rank := by
  cases stage <;> simp [Stage.isEarly, Stage.rank] at early ⊢

/-- So is every step of stopping the server. -/
theorem rank_stopping (purpose : Purpose) (stopStep : StopStep) :
    0 < (Stage.stopping purpose stopStep).rank := by
  cases stopStep <;> simp [Stage.rank]

/-- Every move lowers the rank. -/
theorem rank_lt_of_moves (moves : Moves config state next) : next.rank < state.rank := by
  cases moves with
  | serverExits present exited =>
    obtain ⟨before, after⟩ := running_exit exited
    simp only [rank, present, before, after]
    omega
  | rtcExits present exited =>
    obtain ⟨before, after⟩ := running_exit exited
    simp only [rank, present, before, after]
    omega
  | phasesEnd result awaited =>
    simp [rank, awaited]
  | fails server error early => exact rank_leave_lt rfl (rank_early early)
  | prepared stage =>
    exact rank_lt_of_stage rfl (by rw [stage]; simp [Stage.rank, startupAttempts])
  | spawned attempt pid stage =>
    exact rank_lt_of_stage rfl (by rw [stage]; simp [Stage.rank])
  | built attempt stage => exact rank_lt_of_stage rfl (by rw [stage]; simp [Stage.rank])
  | troubled attempt cause stage =>
    refine rank_lt_of_stage rfl ?_
    rcases stage with building | awaiting
    · rw [building]; simp [Stage.rank]
    · rw [awaiting]; simp [Stage.rank]
  | exitedEarly attempt error stage present exited =>
    exact rank_lt_of_stage rfl (by rw [stage]; simp [Stage.rank])
  | ready attempt stage =>
    refine rank_lt_of_stage rfl ?_
    rw [stage]
    cases config.profileServer <;> simp only [Stage.rank, if_true, Bool.false_eq_true, if_false] <;>
      omega
  | gaveUp attempt cause error stage present runs =>
    exact rank_lt_of_stage rfl (by rw [stage]; simp only [Stage.rank]; omega)
  | retried attempt cause stage present exited left =>
    exact rank_lt_of_stage rfl (by rw [stage]; simp only [Stage.rank]; omega)
  | profilerFailed error stage => exact rank_lt_of_stage rfl (by rw [stage]; simp [Stage.rank])
  | profiled stage => exact rank_lt_of_stage rfl (by rw [stage]; simp [Stage.rank])
  | unlaunched error stage => exact rank_lt_of_stage rfl (by rw [stage]; simp [Stage.rank])
  | launched pid stage => exact rank_lt_of_stage rfl (by rw [stage]; simp [Stage.rank])
  | unsampled error stage => exact rank_lt_of_stage rfl (by rw [stage]; simp [Stage.rank])
  | sampled stage => exact rank_lt_of_stage rfl (by rw [stage]; simp [Stage.rank])
  | waitFailed error stage => exact rank_lt_of_stage rfl (by rw [stage]; simp [Stage.rank])
  | troubledWork cause stage other => exact rank_lt_of_stage rfl (by rw [stage]; simp [Stage.rank])
  | serverLost stage present exited => exact rank_lt_of_stage rfl (by rw [stage]; simp [Stage.rank])
  | worked stage present exited => exact rank_lt_of_stage rfl (by rw [stage]; simp [Stage.rank])
  | rtcStays cause stage present runs => exact rank_lt_of_stage rfl (by rw [stage]; simp [Stage.rank])
  | halted cause kill rtc result stage =>
    refine rank_lt_of_stage rfl ?_
    rw [stage]
    cases kill <;> simp [State.halted, Stage.rank]
  | phasesCollected completion result stage =>
    exact rank_lt_of_stage rfl (by rw [stage]; simp [combinePhases, Stage.rank])
  | telemetryFinished completion io stage =>
    refine rank_lt_of_stage rfl ?_
    rw [stage]
    unfold leaveWork
    rw [leaveRtc_stage]
    split <;> simp [Stage.rank]
  | read io stage => exact rank_lt_of_stage rfl (by rw [stage]; simp [close, Stage.rank])
  | profileFinished runResult serverExited io stage =>
    cases serverExited with
    | true => exact rank_leave_lt rfl (by rw [stage]; simp [Stage.rank])
    | false => exact rank_lt_of_stage rfl (by rw [stage]; simp [settle, Stage.rank])
  | inspected purpose stage present runs => exact rank_lt_of_stage rfl (by rw [stage]; simp [Stage.rank])
  | terminated purpose stage present known =>
    exact rank_lt_of_stage rfl (by rw [stage]; simp [Stage.rank])
  | overdue purpose stage => exact rank_lt_of_stage rfl (by rw [stage]; simp [Stage.rank])
  | stopFailed purpose stopStep server error stage =>
    exact rank_leave_lt rfl (by rw [stage]; exact rank_stopping purpose stopStep)
  | stopped purpose stage present exited succeeded =>
    exact rank_leave_lt rfl (by rw [stage]; exact rank_stopping purpose .wait)

/-- A step is a request without an answer, or the rank falls. -/
theorem rank_lt_of_step {action : Action} (stepped : state.step config action = some next)
    (counted : action.isUnanswered = false) : next.rank < state.rank := by
  rcases moves_of_step stepped with moves | ⟨-, unanswered⟩
  · exact rank_lt_of_moves moves
  · rw [unanswered] at counted
    cases counted

/-- No step leads away from the end. -/
theorem rank_le_of_step {action : Action} (stepped : state.step config action = some next) :
    next.rank ≤ state.rank := by
  rcases moves_of_step stepped with moves | ⟨rfl, -⟩
  · exact Nat.le_of_lt (rank_lt_of_moves moves)
  · exact Nat.le_refl _

end State

/-- A step that the controller takes by itself: no exit of a process, no end of the phase
task, no signal and no request that stays without an answer. -/
def Action.isOwn : Action → Bool
  | .serverExits _ => false
  | .rtcExits _ => false
  | .phasesEnd _ => false
  | .signal _ => false
  | action => !action.isUnanswered

section

variable {config : RunConfig} {state : State}

/-- At every stage but the last the controller has a step of its own, whatever the
processes do. Where it waits for something that may not happen, a deadline passes. -/
theorem Sound.goes_on (sound : Sound state) (unfinished : ∀ result, state.stage ≠ .returned result) :
    ∃ action, action.isOwn = true ∧ (state.step config action).isSome = true := by
  cases stage : state.stage with
  | preparing =>
    refine ⟨.prepare (.ok ()), rfl, ?_⟩
    simp only [State.step, State.prepare, stage]
    split <;> rfl
  | spawning attempt =>
    exact ⟨.spawnServer (.ok 0), rfl, by simp [State.step, State.spawnServer, stage]⟩
  | building attempt =>
    exact ⟨.buildClient (.ok ()), rfl, by simp [State.step, State.buildClient, stage]⟩
  | awaiting attempt => exact ⟨.elapse, rfl, by simp [State.step, State.elapse, stage]⟩
  | inspecting attempt cause =>
    obtain ⟨server, present⟩ : Handle.known.Admits state.server := sound.serverAt stage rfl
    exact ⟨.inspect (.ok ()), rfl, by simp [State.step, State.inspect, stage, present]⟩
  | stopping purpose stopStep =>
    cases stopStep with
    | inspect =>
      obtain ⟨server, present⟩ : Handle.known.Admits state.server := sound.serverAt stage rfl
      refine ⟨.inspect (.ok ()), rfl, ?_⟩
      simp only [State.step, State.inspect, stage, present, withContext_ok]
      split <;> simp_all
    | signal =>
      obtain ⟨server, present, unreaped⟩ : Handle.held.Admits state.server :=
        sound.serverAt stage rfl
      refine ⟨.terminate (.ok true), rfl, ?_⟩
      simp [State.step, State.terminate, stage, present, Child.id_eq_some_of_unreaped unreaped]
    | wait => exact ⟨.elapse, rfl, by simp [State.step, State.elapse, stage]⟩
    | kill =>
      obtain ⟨server, present, unreaped⟩ : Handle.held.Admits state.server :=
        sound.serverAt stage rfl
      obtain ⟨gone, killed, -⟩ := Child.kill_of_unreaped unreaped
      refine ⟨.kill (.ok ()), rfl, ?_⟩
      simp [State.step, State.kill, stage, present, killed]
  | profiling =>
    obtain ⟨server, present, unreaped⟩ : Handle.held.Admits state.server := sound.serverAt stage rfl
    refine ⟨.startProfiler (.ok ()), rfl, ?_⟩
    simp [State.step, State.startProfiler, stage, present, Child.id_eq_some_of_unreaped unreaped]
  | launching => exact ⟨.launch (.ok 0), rfl, by simp [State.step, State.launch, stage]⟩
  | sampling =>
    obtain ⟨server, present⟩ : Handle.known.Admits state.server :=
      Handle.Admits.known (sound.serverAt stage rfl)
    obtain ⟨rtc, running⟩ : Handle.known.Admits state.rtc :=
      Handle.Admits.known (sound.rtcAt stage rfl)
    refine ⟨.startTelemetry (.ok ()), rfl, ?_⟩
    simp only [State.step, State.startTelemetry, stage, present, running]
    split <;> rfl
  | working => exact ⟨.elapse, rfl, by simp [State.step, State.elapse, stage]⟩
  | halting cause kill =>
    obtain ⟨rtc, present, unreaped⟩ : Handle.held.Admits state.rtc := sound.rtcAt stage rfl
    cases kill with
    | false =>
      refine ⟨.inspect (.ok ()), rfl, ?_⟩
      simp only [State.step, State.inspect, stage, present, withContext_ok]
      split <;> simp_all
    | true =>
      obtain ⟨gone, killed, -⟩ := Child.kill_of_unreaped unreaped
      refine ⟨.kill (.ok ()), rfl, ?_⟩
      simp [State.step, State.kill, stage, present, killed]
  | collecting completion => exact ⟨.elapse, rfl, by simp [State.step, State.elapse, stage]⟩
  | finishing completion =>
    exact ⟨.finishTelemetry (.ok ()), rfl, by simp [State.step, State.finishTelemetry, stage]⟩
  | reading =>
    exact ⟨.readResult (.error (.msg "")), rfl, by simp [State.step, State.readResult, stage]⟩
  | closing runResult serverExited =>
    exact ⟨.finishProfiler (.ok ()), rfl, by simp [State.step, State.finishProfiler, stage]⟩
  | returned result => exact absurd stage (unfinished result)

/-- The rank of the beginning, which bounds every run. -/
theorem rank_initial : State.initial.rank = 85 := by
  simp [State.rank, State.initial, Stage.rank, running]

end

end SfuLoad.Controller
