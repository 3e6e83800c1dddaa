import SfuLoad.Kit.Fallible

/-!
# Updates that may fail on the way

An update changes a state and may stop with a message. What it had changed before
it stopped stays changed, so that a failed sequence of updates leaves the state as
the last step that was made left it.
-/

namespace Kit.Updates

/-- A computation that changes a state, whether or not it comes to an end. -/
def Update (σ α : Type) : Type := σ → Except String α × σ

variable {σ τ α β : Type}

/-- Updates are put together by handing the state on. After a failure nothing is run, and the
state stays as it was left. -/
instance : Monad (Update σ) where
  pure value := fun state => (.ok value, state)
  bind first rest := fun state =>
    match first state with
    | (.ok value, next) => rest value next
    | (.error message, next) => (.error message, next)

/-- A result that does not depend on the state. -/
def lift (result : Except String α) : Update σ α := fun state => (result, state)

/-- An update of a part of the state. -/
def part (read : σ → τ) (write : σ → τ → σ) (update : Update τ α) : Update σ α := fun state =>
  let (result, next) := update (read state)
  (result, write state next)

/-- An update that is only made on a condition. -/
def when (condition : Bool) (update : Update σ Unit) : Update σ Unit :=
  if condition then update else pure ()

/-- A result that is a value changes nothing. -/
theorem lift_of_ok {result : Except String α} {value : α} (answered : result = .ok value)
    (state : σ) : lift result state = (.ok value, state) := by
  rw [lift, answered]

/-- A failed result changes nothing either. -/
theorem lift_of_error {result : Except String α} {message : String}
    (failed : result = .error message) (state : σ) :
    (lift result : Update σ α) state = (.error message, state) := by
  rw [lift, failed]

/-- After an update that was made, the rest runs on the state it left. -/
theorem bind_of_ok {first : Update σ α} {rest : α → Update σ β} {state next : σ} {value : α}
    (made : first state = (.ok value, next)) : (first >>= rest) state = rest value next := by
  simp only [bind, made]

/-- After an update that stopped, the rest is not run. -/
theorem bind_of_error {first : Update σ α} {rest : α → Update σ β} {state next : σ}
    {message : String} (stopped : first state = (.error message, next)) :
    (first >>= rest) state = (.error message, next) := by
  simp only [bind, stopped]

/-- An update of one part of a state leaves the whole with that part replaced. -/
theorem part_of_ok {read : σ → τ} {write : σ → τ → σ} {update : Update τ α} {state : σ} {next : τ}
    {value : α} (made : update (read state) = (.ok value, next)) :
    part read write update state = (.ok value, write state next) := by
  simp only [part, made]

/-- A conditional update of a part; writing back what was read changes nothing. -/
theorem when_part_of_ok {read : σ → τ} {write : σ → τ → σ} {update : Update τ Unit} {state : σ}
    {next : τ} {condition : Bool} (same : write state (read state) = state)
    (made : update (read state) = (.ok (), next)) :
    when condition (part read write update) state =
      (.ok (), write state (if condition then next else read state)) := by
  cases condition with
  | false => exact congrArg (Prod.mk (Except.ok ())) same.symm
  | true => exact part_of_ok made

end Kit.Updates
