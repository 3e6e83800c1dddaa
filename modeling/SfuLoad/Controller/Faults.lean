import SfuLoad.Model.Fault

/-!
# What the controller reports when parts of a run fail

When two parts of a run fail, both are written into one message. The texts are the
source's.
-/

namespace SfuLoad.Controller

open Kit.Outcomes Model

section

variable {α : Type}

/-- The run's result with the profiler's: a success of both is the run's, and two failures
are one message. -/
def combineRunAndProfile : Except Fault α → Except Fault Unit → Except Fault α :=
  combine (Fault.also "RTC work failed: " ". profile shutdown also failed: ")

/-- The run's result with that of stopping the server, in the same way. -/
def combineRunAndShutdown : Except Fault α → Except Fault Unit → Except Fault α :=
  combine (Fault.also "load run failed: " ". o-sfu shutdown also failed: ")

/-- The failure of a startup whose server was stopped, or failed to stop. -/
def combineStartupAndShutdown (startupError : Fault) : Except Fault Unit → Fault
  | .ok () => startupError
  | .error shutdownError =>
    Fault.also "o-sfu startup failed: " ". shutdown also failed: " startupError shutdownError

/-- What is said of a failed start shows a failed shutdown. -/
theorem combineStartupAndShutdown_reports (startupError : Fault) (shutdown : Except Fault Unit) :
    Reports Fault.Shows
      (.error (combineStartupAndShutdown startupError shutdown) : Except Fault α) shutdown := by
  intro failure failed
  subst failed
  exact ⟨_, rfl, (Fault.keeps_also _ _).right _ _⟩

end

end SfuLoad.Controller
