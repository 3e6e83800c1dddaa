import Mathlib.Data.List.Basic
import Mathlib.Data.List.Count

/-!
# Runs of a system that steps on actions

A step answers the next state, or nothing where the action is not enabled. A run
is a list of actions each of which was enabled in turn. What every step keeps,
every run keeps.
-/

namespace Kit.Runs

variable {σ α : Type*}

/-- The state after a list of actions. -/
def run (step : σ → α → Option σ) (state : σ) (actions : List α) : Option σ :=
  actions.foldlM step state

/-- A run of one more action takes its first step and then runs the rest. -/
theorem run_cons_eq_some {step : σ → α → Option σ} {state final : σ} {action : α}
    {actions : List α} : run step state (action :: actions) = some final ↔
      ∃ next, step state action = some next ∧ run step next actions = some final := by
  simp [run, List.foldlM_cons, Option.bind_eq_some_iff]

/-- An invariant of every step is one of every run. -/
theorem run_keeps {step : σ → α → Option σ} {invariant : σ → Prop}
    (kept : ∀ state action next, step state action = some next → invariant state →
      invariant next) {state final : σ} {actions : List α}
    (ran : run step state actions = some final) (initial : invariant state) :
    invariant final := by
  induction actions generalizing state with
  | nil =>
    obtain rfl : state = final := Option.some.inj ran
    exact initial
  | cons action actions inductionHypothesis =>
    obtain ⟨next, stepped, rest⟩ := run_cons_eq_some.mp ran
    exact inductionHypothesis rest (kept state action next stepped initial)

/-- What the actions of a run keep, the run keeps. -/
theorem run_keeps_along {step : σ → α → Option σ} {invariant : σ → Prop} {actions : List α}
    (kept : ∀ action ∈ actions, ∀ state next, step state action = some next → invariant state →
      invariant next) {state final : σ}
    (ran : run step state actions = some final) (initial : invariant state) :
    invariant final := by
  induction actions generalizing state with
  | nil =>
    obtain rfl : state = final := Option.some.inj ran
    exact initial
  | cons action actions inductionHypothesis =>
    obtain ⟨next, stepped, rest⟩ := run_cons_eq_some.mp ran
    exact inductionHypothesis (fun other member => kept other (List.mem_cons_of_mem _ member)) rest
      (kept action List.mem_cons_self state next stepped initial)

/-- A run can be cut at any place, and two runs that meet are one. -/
theorem run_append_eq_some {step : σ → α → Option σ} {state final : σ} {before after : List α} :
    run step state (before ++ after) = some final ↔
      ∃ middle, run step state before = some middle ∧ run step middle after = some final := by
  simp [run, List.foldlM_append, Option.bind_eq_some_iff]

/-- When no step raises a rank and every counted step lowers it, a run has at most as
many counted steps as the rank it starts with. -/
theorem countP_add_rank_le {step : σ → α → Option σ} {rank : σ → Nat} {counted : α → Bool}
    (kept : ∀ state action next, step state action = some next → rank next ≤ rank state)
    (lowered : ∀ state action next, step state action = some next → counted action = true →
      rank next < rank state) {state final : σ} {actions : List α}
    (ran : run step state actions = some final) :
    actions.countP counted + rank final ≤ rank state := by
  induction actions generalizing state with
  | nil =>
    obtain rfl : state = final := Option.some.inj ran
    simp
  | cons action actions inductionHypothesis =>
    obtain ⟨next, stepped, rest⟩ := run_cons_eq_some.mp ran
    have later := inductionHypothesis rest
    have below := kept state action next stepped
    by_cases counts : counted action = true
    · have lower := lowered state action next stepped counts
      rw [List.countP_cons_of_pos counts]
      omega
    · rw [List.countP_cons_of_neg counts]
      omega

end Kit.Runs
