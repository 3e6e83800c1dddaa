import SfuLoad.Controller.Faults

/-!
# Child processes and the handles on them

A child runs until it exits, by itself or because it is killed. Its handle collects the
exit status once; from then on the process id is no longer the child's, and the handle
no longer gives it out. Dropping a handle kills a child that is still running, as every
command of the controller is spawned with `kill_on_drop`.
-/

namespace SfuLoad.Controller

open Kit.Outcomes Model

/-- Whether a status counts as success, and how it is displayed. -/
structure ExitStatus where
  success : Bool
  shown : String
deriving DecidableEq

/-- The status of a process that the controller killed. -/
def ExitStatus.killed : ExitStatus := ⟨false, "signal: 9 (SIGKILL)"⟩

/-- A process runs, has exited, or has exited with its status collected. -/
inductive Process where
  | running
  | exited (status : ExitStatus)
  | reaped (status : ExitStatus)
deriving DecidableEq

/-- A child with what its handle has done to it. -/
structure Child where
  pid : UInt32
  process : Process
  terminated : Bool
  killed : Bool
deriving DecidableEq

namespace Child

/-- A child that has just been started. -/
def spawn (pid : UInt32) : Child := ⟨pid, .running, false, false⟩

/-- The process id, as long as the status has not been collected. -/
def id (self : Child) : Option UInt32 :=
  match self.process with
  | .running => some self.pid
  | .exited _ => some self.pid
  | .reaped _ => none

/-- Collect the status of a child that has exited. -/
def reap (self : Child) : Child :=
  match self.process with
  | .running => self
  | .exited status => { self with process := .reaped status }
  | .reaped _ => self

/-- The status of a child that has exited. -/
def tryWait (self : Child) : Option ExitStatus :=
  match self.process with
  | .running => none
  | .exited status => some status
  | .reaped status => some status

/-- The child exits by itself. -/
def exit (self : Child) (status : ExitStatus) : Option Child :=
  match self.process with
  | .running => some { self with process := .exited status }
  | .exited _ => none
  | .reaped _ => none

/-- The termination request is sent. What the child makes of it is its own. -/
def terminate (self : Child) : Child := { self with terminated := true }

/-- Kill the child and wait for it. A handle that has the status refuses. -/
def kill (self : Child) : Except Fault Child :=
  match self.process with
  | .running => .ok { self with process := .reaped .killed, killed := true }
  | .exited status => .ok { self with process := .reaped status }
  | .reaped _ => .error (.msg "invalid argument: can't kill an exited process")

/-- What becomes of the child when its handle is dropped. -/
def dropped (self : Child) : Child :=
  match self.process with
  | .running => { self with process := .exited .killed, killed := true }
  | .exited _ => self
  | .reaped _ => self

/-- The process has not exited. -/
def isRunning (self : Child) : Bool := self.process = .running

/-- The process has been waited for. -/
def isReaped (self : Child) : Bool := self.id.isNone

/-- The status of a fresh child has not been collected. -/
@[simp] theorem isReaped_spawn (pid : UInt32) : (spawn pid).isReaped = false := rfl

/-- A fresh child runs. -/
@[simp] theorem isRunning_spawn (pid : UInt32) : (spawn pid).isRunning = true := rfl

/-- Until its status is collected a child has its process id. -/
theorem id_eq_some_of_unreaped {child : Child} (unreaped : child.isReaped = false) :
    child.id = some child.pid := by
  obtain ⟨pid, process, terminated, killed⟩ := child
  cases process with
  | running => rfl
  | exited status => rfl
  | reaped status => cases unreaped

/-- An exit is not collected by itself. -/
theorem exit_unreaped {child ended : Child} {status : ExitStatus}
    (exited : child.exit status = some ended) :
    child.isRunning = true ∧ child.isReaped = false ∧ ended.isReaped = false ∧
      ended.isRunning = false ∧ ended.tryWait = some status ∧
      ended.terminated = child.terminated ∧ ended.killed = child.killed := by
  obtain ⟨pid, process, terminated, killed⟩ := child
  cases process with
  | running =>
    obtain rfl := Option.some.inj exited
    exact ⟨rfl, rfl, rfl, rfl, rfl, rfl, rfl⟩
  | exited status => cases exited
  | reaped status => cases exited

/-- A child has no status exactly while it runs. -/
theorem tryWait_eq_none_iff {child : Child} :
    child.tryWait = none ↔ child.isRunning = true := by
  obtain ⟨pid, process, terminated, killed⟩ := child
  cases process <;> simp [tryWait, isRunning]

/-- What has run out is collected by the next inspection. -/
theorem reap_isReaped {child : Child} {status : ExitStatus}
    (ended : child.tryWait = some status) : child.reap.isReaped = true := by
  obtain ⟨pid, process, terminated, killed⟩ := child
  cases process with
  | running => cases ended
  | exited status => rfl
  | reaped status => rfl

/-- A collected status is given again. -/
theorem reap_tryWait (child : Child) : child.reap.tryWait = child.tryWait := by
  obtain ⟨pid, process, terminated, killed⟩ := child
  cases process <;> rfl

/-- Collecting a status ends no process. -/
theorem reap_isRunning (child : Child) : child.reap.isRunning = child.isRunning := by
  obtain ⟨pid, process, terminated, killed⟩ := child
  cases process <;> rfl

/-- Of a child that runs there is nothing to collect. -/
theorem reap_of_running {child : Child} (running : child.tryWait = none) : child.reap = child := by
  obtain ⟨pid, process, terminated, killed⟩ := child
  cases process with
  | running => rfl
  | exited status => cases running
  | reaped status => cases running

/-- A child that runs has not been collected. -/
theorem isReaped_of_running {child : Child} (running : child.tryWait = none) :
    child.isReaped = false := by
  obtain ⟨pid, process, terminated, killed⟩ := child
  cases process with
  | running => rfl
  | exited status => cases running
  | reaped status => cases running

/-- A child that was collected no longer runs. -/
theorem not_running_of_reaped {child : Child} (reaped : child.isReaped = true) :
    child.isRunning = false := by
  obtain ⟨pid, process, terminated, killed⟩ := child
  cases process with
  | running => cases reaped
  | exited status => rfl
  | reaped status => rfl

/-- A dropped handle leaves no process running. -/
@[simp] theorem dropped_isRunning (child : Child) : child.dropped.isRunning = false := by
  obtain ⟨pid, process, terminated, killed⟩ := child
  cases process <;> rfl

/-- Dropping a handle whose child was collected does nothing. -/
theorem dropped_of_reaped {child : Child} (reaped : child.isReaped = true) :
    child.dropped = child := by
  obtain ⟨pid, process, terminated, killed⟩ := child
  cases process with
  | running => cases reaped
  | exited status => cases reaped
  | reaped status => rfl

/-- A handle without the status can kill, and has the status afterwards. -/
theorem kill_of_unreaped {child : Child} (unreaped : child.isReaped = false) :
    ∃ gone, child.kill = .ok gone ∧ gone.isReaped = true ∧
      gone.terminated = child.terminated := by
  obtain ⟨pid, process, terminated, killed⟩ := child
  cases process with
  | running => exact ⟨_, rfl, rfl, rfl⟩
  | exited status => exact ⟨_, rfl, rfl, rfl⟩
  | reaped status => cases unreaped

end Child

end SfuLoad.Controller
