import SfuLoad.Controller.Moves

/-!
# What runs while the controller runs

At every stage the controller knows what its handles are worth: whether there is a
process, whether its status is still to be collected, or whether it is over. From this
follow the results about processes: a process id is read only while it is the child's,
servers never run side by side, and nothing is left running.
-/

namespace SfuLoad.Controller

open Kit.Fallible Kit.Outcomes Kit.Runs Model

/-- What a stage knows of a handle: there is none, there is one with its status still to
be collected, there is one, or no process runs behind it. -/
inductive Handle where
  | absent
  | held
  | known
  | ended

/-- What a handle of this kind may hold. -/
def Handle.Admits : Handle → Option Child → Prop
  | .absent, child => child = none
  | .held, child => ∃ process, child = some process ∧ process.isReaped = false
  | .known, child => ∃ process, child = some process
  | .ended, child => ∀ process, child = some process → process.isRunning = false

namespace Handle

/-- A process to collect is a process that is there. -/
theorem Admits.known {child : Option Child} (admitted : held.Admits child) :
    known.Admits child :=
  ⟨admitted.choose, admitted.choose_spec.1⟩

/-- Where there is no process, none runs. -/
theorem Admits.ended {child : Option Child} (admitted : absent.Admits child) :
    ended.Admits child := by
  intro process present
  rw [show child = none from admitted] at present
  cases present

/-- What has been dropped has ended. -/
theorem ended_dropped (child : Option Child) : ended.Admits (child.map Child.dropped) := by
  intro process present
  obtain ⟨before, -, rfl⟩ := Option.map_eq_some_iff.mp present
  exact before.dropped_isRunning

/-- A child's own exit changes nothing of what a stage knows. -/
theorem Admits.exit {handle : Handle} {child ended : Child} {status : ExitStatus}
    (admitted : handle.Admits (some child)) (exited : child.exit status = some ended) :
    handle.Admits (some ended) := by
  obtain ⟨running, -, unreaped, -⟩ := Child.exit_unreaped exited
  cases handle with
  | absent => cases admitted
  | held => exact ⟨ended, rfl, unreaped⟩
  | known => exact ⟨ended, rfl⟩
  | ended =>
    have stopped : child.isRunning = false := admitted child rfl
    rw [running] at stopped
    cases stopped

end Handle

namespace Stage

/-- What each stage knows of the server. -/
def server : Stage → Handle
  | preparing => .absent
  | spawning _ => .absent
  | building _ => .held
  | awaiting _ => .held
  | inspecting _ _ => .known
  | stopping _ .inspect => .known
  | stopping _ _ => .held
  | profiling => .held
  | launching => .held
  | sampling => .held
  | working => .held
  | halting _ _ => .known
  | collecting _ => .known
  | finishing _ => .known
  | reading => .known
  | closing _ _ => .known
  | returned _ => .ended

/-- What each stage knows of the worker. -/
def rtc : Stage → Handle
  | preparing => .absent
  | spawning _ => .absent
  | building _ => .absent
  | awaiting _ => .absent
  | inspecting _ _ => .absent
  | stopping _ _ => .ended
  | profiling => .absent
  | launching => .absent
  | sampling => .held
  | working => .held
  | halting _ _ => .held
  | collecting _ => .known
  | finishing _ => .known
  | reading => .ended
  | closing _ _ => .ended
  | returned _ => .ended

/-- The startup attempt that a stage belongs to, the first one while it is prepared. -/
def attempt : Stage → Option Nat
  | preparing => some 1
  | spawning attempt => some attempt
  | building attempt => some attempt
  | awaiting attempt => some attempt
  | inspecting attempt _ => some attempt
  | _ => none

end Stage

/-- The handles are what the stage knows of them, and the servers of failed attempts,
fewer than the attempts there are, have exited and been collected. -/
structure Sound (state : State) : Prop where
  server : state.stage.server.Admits state.server
  rtc : state.stage.rtc.Admits state.rtc
  formers : ∀ former ∈ state.formers, former.isReaped = true
  few : state.formers.length < startupAttempts
  attempt : ∀ attempt, state.stage.attempt = some attempt → attempt = state.formers.length + 1

/-- Before the first step there is no process. -/
theorem sound_initial : Sound .initial where
  server := rfl
  rtc := rfl
  formers := by simp [State.initial]
  few := by decide
  attempt := by
    intro attempt belongs
    exact (Option.some.inj belongs).symm

namespace Sound

variable {config : RunConfig} {state next : State}

/-- A step to a stage that has the same attempt, or none, needs only the two handles. -/
theorem moved (sound : Sound state) (formers : next.formers = state.formers)
    (server : next.stage.server.Admits next.server) (rtc : next.stage.rtc.Admits next.rtc)
    (attempt : ∀ attempt, next.stage.attempt = some attempt →
      state.stage.attempt = some attempt) : Sound next where
  server := server
  rtc := rtc
  formers := formers ▸ sound.formers
  few := formers ▸ sound.few
  attempt := by
    intro reached belongs
    rw [formers]
    exact sound.attempt reached (attempt reached belongs)

/-- A returned run has dropped its handles, whatever they were worth. -/
theorem leave {before : State} {result : Except Fault ScenarioResult} (sound : Sound before)
    (formers : state.formers = before.formers) : Sound (state.leave result) :=
  sound.moved formers (Handle.ended_dropped state.server) (Handle.ended_dropped state.rtc)
    (fun _ belongs => by cases belongs)

/-- The handles at a stage, by the stage's name. -/
theorem serverAt (sound : Sound state) {stage : Stage} {handle : Handle}
    (at_stage : state.stage = stage) (knows : stage.server = handle) :
    handle.Admits state.server :=
  knows ▸ at_stage ▸ sound.server

/-- What the worker's handle is worth at a stage. -/
theorem rtcAt (sound : Sound state) {stage : Stage} {handle : Handle}
    (at_stage : state.stage = stage) (knows : stage.rtc = handle) : handle.Admits state.rtc :=
  knows ▸ at_stage ▸ sound.rtc

/-- At a stage of an attempt, the attempts before it have left their servers behind. -/
theorem attemptAt (sound : Sound state) {stage : Stage} {attempt : Nat}
    (at_stage : state.stage = stage) (belongs : stage.attempt = some attempt) :
    attempt = state.formers.length + 1 :=
  sound.attempt attempt (at_stage ▸ belongs)

/-- A starting server waits, or is inspected. -/
theorem awaits (sound : Sound state) {attempt : Nat} (stage : state.stage.awaits attempt) :
    Handle.held.Admits state.server ∧ Handle.absent.Admits state.rtc ∧
      state.stage.attempt = some attempt := by
  cases stage with
  | inl building => exact ⟨sound.serverAt building rfl, sound.rtcAt building rfl, by rw [building]; rfl⟩
  | inr awaiting => exact ⟨sound.serverAt awaiting rfl, sound.rtcAt awaiting rfl, by rw [awaiting]; rfl⟩

/-- Once all work is done there is no attempt to account for. -/
theorem settle (sound : Sound state) {runResult : Except Fault ScenarioResult}
    {serverExited : Bool} (stage : state.stage = .closing runResult serverExited)
    (io : Except Fault Unit) : Sound (state.settle runResult serverExited io) := by
  have server : Handle.known.Admits state.server := sound.serverAt stage rfl
  have rtc : Handle.ended.Admits state.rtc := sound.rtcAt stage rfl
  cases serverExited with
  | true => exact sound.leave rfl
  | false => exact sound.moved rfl server rtc (fun _ belongs => by cases belongs)

/-- Leaving the work keeps the handles worth what the stage says. -/
theorem leaveWork (sound : Sound state) {completion : Except Fault RtcWorkerCompletion}
    (stage : state.stage = .finishing completion) (io : Except Fault Unit) :
    Sound (state.leaveWork completion io) := by
  have server : Handle.known.Admits state.server := sound.serverAt stage rfl
  unfold State.leaveWork State.leaveRtc
  split
  all_goals
    exact sound.moved rfl server (Handle.ended_dropped state.rtc)
      (fun _ belongs => by cases belongs)

/-- Every move keeps what the stages know. -/
theorem keeps (moves : Moves config state next) (sound : Sound state) : Sound next := by
  cases moves with
  | serverExits present exited =>
    have admitted := sound.server
    rw [present] at admitted
    exact sound.moved rfl (admitted.exit exited) sound.rtc fun _ => id
  | rtcExits present exited =>
    have admitted := sound.rtc
    rw [present] at admitted
    exact sound.moved rfl sound.server (admitted.exit exited) fun _ => id
  | phasesEnd result running => exact sound.moved rfl sound.server sound.rtc fun _ => id
  | fails server error early => exact sound.leave rfl
  | prepared stage =>
    exact sound.moved rfl (sound.serverAt stage rfl) (sound.rtcAt stage rfl)
      fun _ belongs => stage ▸ belongs
  | spawned attempt pid stage =>
    exact sound.moved rfl ⟨_, rfl, rfl⟩ (sound.rtcAt stage rfl) fun _ belongs => stage ▸ belongs
  | built attempt stage =>
    exact sound.moved rfl (sound.serverAt stage rfl) (sound.rtcAt stage rfl)
      fun _ belongs => stage ▸ belongs
  | troubled attempt cause stage =>
    obtain ⟨server, rtc, belongs⟩ := sound.awaits stage
    exact sound.moved rfl server.known rtc fun _ reached => reached ▸ belongs
  | exitedEarly attempt error stage present exited =>
    exact sound.moved rfl ⟨_, rfl⟩ (sound.rtcAt stage rfl) fun _ belongs => stage ▸ belongs
  | ready attempt stage =>
    have server := sound.serverAt stage rfl
    have rtc := sound.rtcAt stage rfl
    cases profiled : config.profileServer with
    | true => exact sound.moved rfl server rtc fun _ belongs => by cases belongs
    | false => exact sound.moved rfl server rtc fun _ belongs => by cases belongs
  | gaveUp attempt cause error stage present running =>
    exact sound.moved rfl (sound.serverAt stage rfl) (sound.rtcAt stage rfl).ended
      fun _ belongs => by cases belongs
  | retried attempt cause stage present exited left =>
    have counted : attempt = state.formers.length + 1 := sound.attemptAt stage rfl
    exact {
      server := rfl
      rtc := sound.rtcAt stage rfl
      formers := by
        intro former among
        rcases List.mem_append.mp among with earlier | last
        · exact sound.formers former earlier
        · rw [List.mem_singleton.mp last]
          exact Child.reap_isReaped exited
      few := by
        rw [List.length_append, List.length_singleton]
        omega
      attempt := by
        intro reached belongs
        obtain rfl := Option.some.inj belongs
        rw [List.length_append, List.length_singleton, counted] }
  | profilerFailed error stage =>
    exact sound.moved rfl (sound.serverAt stage rfl).known (sound.rtcAt stage rfl).ended
      fun _ belongs => by cases belongs
  | profiled stage =>
    exact sound.moved rfl (sound.serverAt stage rfl) (sound.rtcAt stage rfl)
      fun _ belongs => by cases belongs
  | unlaunched error stage =>
    exact sound.moved rfl (sound.serverAt stage rfl).known (sound.rtcAt stage rfl).ended
      fun _ belongs => by cases belongs
  | launched pid stage =>
    exact sound.moved rfl (sound.serverAt stage rfl) ⟨_, rfl, rfl⟩
      fun _ belongs => by cases belongs
  | unsampled error stage =>
    exact sound.moved rfl (sound.serverAt stage rfl).known (Handle.ended_dropped state.rtc)
      fun _ belongs => by cases belongs
  | sampled stage =>
    exact sound.moved rfl (sound.serverAt stage rfl) (sound.rtcAt stage rfl)
      fun _ belongs => by cases belongs
  | waitFailed error stage =>
    exact sound.moved rfl (sound.serverAt stage rfl).known (sound.rtcAt stage rfl).known
      fun _ belongs => by cases belongs
  | troubledWork cause stage other =>
    exact sound.moved rfl (sound.serverAt stage rfl).known (sound.rtcAt stage rfl)
      fun _ belongs => by cases belongs
  | serverLost stage present exited =>
    exact sound.moved rfl ⟨_, rfl⟩ (sound.rtcAt stage rfl) fun _ belongs => by cases belongs
  | worked stage present exited =>
    exact sound.moved rfl (sound.serverAt stage rfl).known ⟨_, rfl⟩
      fun _ belongs => by cases belongs
  | rtcStays cause stage present running =>
    exact sound.moved rfl (sound.serverAt stage rfl) (sound.rtcAt stage rfl)
      fun _ belongs => by cases belongs
  | halted cause kill rtc result stage =>
    exact sound.moved rfl (sound.serverAt stage rfl) ⟨_, rfl⟩ fun _ belongs => by cases belongs
  | phasesCollected completion result stage =>
    exact sound.moved rfl (sound.serverAt stage rfl) (sound.rtcAt stage rfl)
      fun _ belongs => by cases belongs
  | telemetryFinished completion io stage => exact sound.leaveWork stage io
  | read io stage =>
    exact sound.moved rfl (sound.serverAt stage rfl) (sound.rtcAt stage rfl)
      fun _ belongs => by cases belongs
  | profileFinished runResult serverExited io stage => exact sound.settle stage io
  | inspected purpose stage present running =>
    exact sound.moved rfl ⟨_, present, Child.isReaped_of_running running⟩ (sound.rtcAt stage rfl)
      fun _ belongs => by cases belongs
  | terminated purpose stage present known =>
    obtain ⟨server, found, unreaped⟩ := sound.serverAt stage rfl
    obtain rfl := Option.some.inj (present.symm.trans found)
    exact sound.moved rfl ⟨_, rfl, unreaped⟩ (sound.rtcAt stage rfl) fun _ belongs => by cases belongs
  | overdue purpose stage =>
    exact sound.moved rfl (sound.serverAt stage rfl) (sound.rtcAt stage rfl)
      fun _ belongs => by cases belongs
  | stopFailed purpose stopStep server error stage => exact sound.leave rfl
  | stopped purpose stage present exited succeeded => exact sound.leave rfl

/-- What the stages know holds along every run. -/
theorem of_run {actions : List Action}
    (ran : run (State.step config) .initial actions = some state) : Sound state := by
  refine run_keeps ?_ ran sound_initial
  intro before action after stepped sound
  rcases State.moves_of_step stepped with moves | ⟨rfl, -⟩
  · exact sound.keeps moves
  · exact sound

end Sound

/-- The servers the run has started, the current one last. -/
def State.servers (self : State) : List Child := self.formers ++ self.server.toList

/-- Every process the run has started. -/
def State.children (self : State) : List Child := self.servers ++ self.rtc.toList

/-- A child whose process id is still its own, and which can be killed. -/
def Owned (child : Option Child) : Prop :=
  ∃ process, child = some process ∧ process.id = some process.pid ∧
    ∃ gone, process.kill = .ok gone

/-- A process that is still to be collected is owned: its id is its own, and it can be
killed. -/
theorem owned_of_held {child : Option Child} (held : Handle.held.Admits child) : Owned child := by
  obtain ⟨process, present, unreaped⟩ := held
  obtain ⟨gone, killed, -⟩ := Child.kill_of_unreaped unreaped
  exact ⟨process, present, Child.id_eq_some_of_unreaped unreaped, gone, killed⟩

section

variable {config : RunConfig} {actions : List Action} {state : State}

end

/-- A profiled smoke of one packet. -/
def smokeConfig : RunConfig := ⟨none, some "2-5,7", true, .smoke 1 1⟩

/-- The first server exits before it is ready and is replaced. -/
def restart : List Action := [
  .prepare (.ok ()), .spawnServer (.ok 41), .buildClient (.ok ()), .poll (.ok ()) false,
  .serverExits ⟨false, "exit status: 1"⟩, .poll (.ok ()) false, .inspect (.ok ()),
  .spawnServer (.ok 42), .buildClient (.ok ()), .poll (.ok ()) true]

section

variable {config : RunConfig} {actions : List Action} {state : State}

/-- Wherever a process id is read or a process is killed, the process is still the
controller's own child: the termination request, the profiler and the sampler never
reach a process that has taken over the id. -/
theorem processes_owned (ran : run (State.step config) .initial actions = some state) :
    (∀ purpose, state.stage = .stopping purpose .signal → Owned state.server) ∧
    (∀ purpose, state.stage = .stopping purpose .kill → Owned state.server) ∧
    (state.stage = .profiling → Owned state.server) ∧
    (state.stage = .sampling → Owned state.server ∧ Owned state.rtc) ∧
    (∀ cause, state.stage = .halting cause true → Owned state.rtc) := by
  have sound := Sound.of_run ran
  refine ⟨?_, ?_, ?_, ?_, ?_⟩
  · intro purpose stage
    exact owned_of_held (sound.serverAt stage rfl)
  · intro purpose stage
    exact owned_of_held (sound.serverAt stage rfl)
  · intro stage
    exact owned_of_held (sound.serverAt stage rfl)
  · intro stage
    exact ⟨owned_of_held (sound.serverAt stage rfl), owned_of_held (sound.rtcAt stage rfl)⟩
  · intro cause stage
    exact owned_of_held (sound.rtcAt stage rfl)

end

/-- The second server is profiled under an id that is its own. -/
theorem processes_owned_restarted :
    ∃ state, run (State.step smokeConfig) .initial restart = some state ∧
      state.stage = .profiling ∧ Owned state.server :=
  ⟨_, rfl, rfl,
    (processes_owned (rfl : run (State.step smokeConfig) .initial restart = some _)).2.2.1 rfl⟩

end SfuLoad.Controller
