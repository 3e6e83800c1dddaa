import SfuLoad.Kit.Fallible

/-!
# Scenario phases

A run goes through four global phases in one order. The sequence a recorder keeps
counts how many it has seen and accepts only the next one.
-/

namespace SfuLoad.Model

open Kit.Fallible

/-- The global phases of a run. -/
inductive ScenarioPhase where
  | setup
  | warmup
  | measured
  | drain
deriving DecidableEq

namespace ScenarioPhase

/-- The one order in which a run goes through them. -/
def ordered : List ScenarioPhase := [.setup, .warmup, .measured, .drain]

/-- How many phases there are. -/
def count : Nat := ordered.length

/-- The place of a phase in the order. -/
def ordinal : ScenarioPhase → Nat
  | .setup => 0
  | .warmup => 1
  | .measured => 2
  | .drain => 3

/-- The name of a phase, as messages and records write it. -/
def display : ScenarioPhase → String
  | .setup => "setup"
  | .warmup => "warmup"
  | .measured => "measured"
  | .drain => "drain"

/-- Messages show a phase by its name. -/
instance : ToString ScenarioPhase := ⟨display⟩

/-- A phase stands in the order at its ordinal. -/
theorem ordered_getElem?_eq_some (phase : ScenarioPhase) (position : Nat) :
    ordered[position]? = some phase ↔ position = phase.ordinal := by
  constructor
  · intro located
    match position with
    | 0 => cases located; rfl
    | 1 => cases located; rfl
    | 2 => cases located; rfl
    | 3 => cases located; rfl
    | more + 4 => simp [ordered] at located
  · rintro rfl
    cases phase <;> rfl

end ScenarioPhase

/-- The count is a byte in the source; it never passes four. -/
structure PhaseSequence where
  count : Nat
deriving DecidableEq

namespace PhaseSequence

/-- No phase has been seen. -/
def default : PhaseSequence := ⟨0⟩

/-- Accepts the next phase of the order and refuses every other one. -/
def advance (self : PhaseSequence) (phase : ScenarioPhase) : Except String PhaseSequence := do
  let expected ← context ScenarioPhase.ordered[self.count]?
    "scenario phase sequence is already complete"
  ensure (phase = expected) s!"expected {expected} phase, received {phase}"
  return ⟨self.count + 1⟩

/-- Passes only when every phase has been seen. -/
def finish (self : PhaseSequence) : Except String Unit :=
  ensure (self.count = ScenarioPhase.count) "scenario phase sequence is incomplete"

/-- Only the phase whose ordinal is the count advances a sequence. -/
theorem advance_eq_ok (self next : PhaseSequence) (phase : ScenarioPhase) :
    self.advance phase = .ok next ↔ self.count = phase.ordinal ∧ next = ⟨self.count + 1⟩ := by
  simp only [advance, bind_eq_ok, context_eq_ok, ensure_eq_ok]
  constructor
  · rintro ⟨expected, located, _, rfl, returned⟩
    exact ⟨(ScenarioPhase.ordered_getElem?_eq_some phase self.count).mp located,
      (Except.ok.inj returned).symm⟩
  · rintro ⟨counted, rfl⟩
    exact ⟨phase, (ScenarioPhase.ordered_getElem?_eq_some phase self.count).mpr counted, (), rfl,
      rfl⟩

end PhaseSequence

end SfuLoad.Model
