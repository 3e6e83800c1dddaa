import Mathlib.Data.List.Basic

/-!
# Programs that keep a state and may fail

A program answers and leaves a state, or fails and leaves one. A triple says what a program
does from the states that meet a requirement: where it answers, and where it fails. The
rules follow the way programs are put together.
-/

namespace Kit.Effects

universe u
variable {ε σ α β : Type u}

/-- The result of a call of another part, as a program. -/
def answer (io : Except ε α) : EStateM ε σ α :=
  match io with
  | .ok value => pure value
  | .error failure => throw failure

/-- From a required state the program ends as ensured, or it fails in a tolerated state. -/
def Triple (requires : σ → Prop) (program : EStateM ε σ α) (ensures : α → σ → Prop)
    (tolerates : σ → Prop) : Prop :=
  ∀ state, requires state →
    match program.run state with
    | .ok value next => ensures value next
    | .error _ next => tolerates next

variable {requires tolerates : σ → Prop} {ensures : α → σ → Prop} {program : EStateM ε σ α}

/-- What holds from every required state holds from one of them. -/
theorem Triple.from_state (triple : Triple requires program ensures tolerates) {state : σ}
    (holds : requires state) : Triple (Eq state) program ensures tolerates := by
  rintro _ rfl
  exact triple state holds

/-- A program that only answers ensures what the requirement gives for its answer. -/
theorem triple_pure (value : α) (met : ∀ state, requires state → ensures value state) :
    Triple requires (pure value : EStateM ε σ α) ensures tolerates := met

/-- A program that fails must leave a state that is tolerated. -/
theorem triple_throw (failure : ε) (met : ∀ state, requires state → tolerates state) :
    Triple requires (throw failure : EStateM ε σ α) ensures tolerates := met

/-- The rule of sequence: what the first program ensures of its answer is what the second
requires. Where the first fails, the second is not run. -/
theorem Triple.bind {between : α → σ → Prop} {next : α → EStateM ε σ β} {last : β → σ → Prop}
    (first : Triple requires program between tolerates)
    (second : ∀ value, Triple (between value) (next value) last tolerates) :
    Triple requires (program >>= next) last tolerates := by
  intro state holds
  have met := first state holds
  rw [EStateM.run_bind]
  split at met
  · next value middle ran =>
    rw [ran]
    exact second value middle met
  · next failure middle ran =>
    rw [ran]
    exact met

/-- A program that begins by reading the state goes on from the state it has read. -/
theorem triple_read {next : σ → EStateM ε σ α}
    (each : ∀ state, requires state → Triple (Eq state) (next state) ensures tolerates) :
    Triple requires (get >>= next) ensures tolerates :=
  fun state holds => each state holds state rfl

/-- A change of the state ensures what holds of the changed state. -/
theorem triple_modify {ensures : PUnit → σ → Prop} (change : σ → σ)
    (met : ∀ state, requires state → ensures ⟨⟩ (change state)) :
    Triple requires (modify change : EStateM ε σ PUnit) ensures tolerates := met

/-- An answer from outside continues the program or fails it, in the same state. -/
theorem triple_answer (io : Except ε α)
    (answered : ∀ value, io = .ok value → ∀ state, requires state → ensures value state)
    (failed : ∀ state, requires state → tolerates state) :
    Triple requires (answer io) ensures tolerates := by
  cases io with
  | ok value => exact triple_pure value (answered value rfl)
  | error failure => exact triple_throw failure failed

/-- What every turn of a loop keeps, the loop keeps. -/
theorem triple_forM {holds : σ → Prop} {items : List β} {each : β → EStateM ε σ PUnit}
    (turn : ∀ item ∈ items, Triple holds (each item) (fun _ => holds) tolerates) :
    Triple holds (items.forM each) (fun _ => holds) tolerates := by
  induction items with
  | nil => exact triple_pure PUnit.unit fun _ met => met
  | cons item items inductionHypothesis =>
    have rest := inductionHypothesis fun other member => turn other (List.mem_cons_of_mem _ member)
    rw [List.forM_eq_forM, List.forM_cons]
    exact (turn item List.mem_cons_self).bind fun _ => rest

end Kit.Effects
