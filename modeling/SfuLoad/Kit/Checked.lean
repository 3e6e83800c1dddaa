import Mathlib.Algebra.Ring.Nat
import SfuLoad.Kit.Fallible
import Mathlib.Data.Nat.Log

/-!
# Arithmetic on machine words

A word is a natural number below its type's size. What an operation does with a
result that is no word depends on how the program was built: one build stops
there, the other wraps around. Both stop at a zero divisor. A computation either
returns or says why not, and a sequence returns exactly when each step does.
-/

namespace Kit.Checked

open Kit.Fallible

/-- Why a computation does not return. -/
inductive Failure where
  | overflow
  | underflow
  | divisionByZero
  | logarithmOfZero
  /-- A function gave up with its own message. -/
  | refused (message : String)
  /-- A loop was cut off by the bound it was given. -/
  | unfinished
deriving DecidableEq

/-- A computation on machine words: a value, or the reason why the program stops. -/
abbrev Machine : Type → Type := Except Failure

/-- How the program was built. -/
inductive Mode where
  | checking
  | wrapping
deriving DecidableEq

/-- The size of a 32-bit word: the values are the numbers below it. -/
abbrev u32 : Nat := 2 ^ 32

/-- The size of a 64-bit word. -/
abbrev u64 : Nat := 2 ^ 64

/-- The size of a 128-bit word. -/
abbrev u128 : Nat := 2 ^ 128

/-- The size of a word that counts bytes and places, on a 64-bit machine. -/
abbrev usize : Nat := 2 ^ 64

/-- An exact result that may be too large for its type. -/
def settle (mode : Mode) (size exact : Nat) : Machine Nat :=
  if exact < size then .ok exact
  else match mode with
    | .checking => .error .overflow
    | .wrapping => .ok (exact % size)

/-- The sum of two words. -/
def add (mode : Mode) (size left right : Nat) : Machine Nat :=
  settle mode size (left + right)

/-- The product of two words. -/
def mul (mode : Mode) (size left right : Nat) : Machine Nat :=
  settle mode size (left * right)

/-- A power of a word. -/
def pow (mode : Mode) (size base exponent : Nat) : Machine Nat :=
  settle mode size (base ^ exponent)

/-- The difference of two words. Below zero one build stops and the other wraps around. -/
def sub (mode : Mode) (size left right : Nat) : Machine Nat :=
  if right ≤ left then .ok (left - right)
  else match mode with
    | .checking => .error .underflow
    | .wrapping => .ok (size + left - right)

/-- The quotient, rounded down. No build divides by zero. -/
def div (left right : Nat) : Machine Nat :=
  if right = 0 then .error .divisionByZero else .ok (left / right)

/-- The remainder of a division. -/
def rem (left right : Nat) : Machine Nat :=
  if right = 0 then .error .divisionByZero else .ok (left % right)

/-- The quotient, rounded up. -/
def divCeil (left right : Nat) : Machine Nat :=
  if right = 0 then .error .divisionByZero else .ok ((left + right - 1) / right)

/-- The number of digits behind the first. No build takes it of zero. -/
def ilog10 (value : Nat) : Machine Nat :=
  if value = 0 then .error .logarithmOfZero else .ok (Nat.log 10 value)

/-- Continue when the condition holds; otherwise give up with the message. -/
def require (condition : Prop) [Decidable condition] (message : String) : Machine Unit :=
  if condition then .ok () else .error (.refused message)

/-- The present value, or give up with the message. -/
def expect {α : Type} (value : Option α) (message : String) : Machine α :=
  match value with
  | some present => .ok present
  | none => .error (.refused message)

section Operations

variable {mode : Mode} {size left right : Nat}

/-- A result that is a word is returned in either build. -/
theorem settle_of_lt {exact : Nat} (fits : exact < size) : settle mode size exact = .ok exact :=
  if_pos fits

/-- A sum that is a word is the exact sum. -/
theorem add_of_lt (fits : left + right < size) : add mode size left right = .ok (left + right) :=
  settle_of_lt fits

/-- A product that is a word is the exact product. -/
theorem mul_of_lt (fits : left * right < size) : mul mode size left right = .ok (left * right) :=
  settle_of_lt fits

/-- A power that is a word is the exact power. -/
theorem pow_of_lt (fits : left ^ right < size) : pow mode size left right = .ok (left ^ right) :=
  settle_of_lt fits

/-- A difference that is not below zero is exact. -/
theorem sub_of_le (fits : right ≤ left) : sub mode size left right = .ok (left - right) :=
  if_pos fits

/-- A division by anything but zero returns. -/
theorem div_of_ne (present : right ≠ 0) : div left right = .ok (left / right) :=
  if_neg present

/-- So does the remainder. -/
theorem rem_of_ne (present : right ≠ 0) : rem left right = .ok (left % right) :=
  if_neg present

/-- So does the division that rounds up. -/
theorem divCeil_of_ne (present : right ≠ 0) :
    divCeil left right = .ok ((left + right - 1) / right) :=
  if_neg present

/-- The logarithm of anything but zero returns. -/
theorem ilog10_of_ne (present : left ≠ 0) : ilog10 left = .ok (Nat.log 10 left) :=
  if_neg present

/-- A condition that holds stops nothing. -/
theorem require_of {condition : Prop} [Decidable condition] (message : String)
    (holds : condition) : require condition message = .ok () :=
  if_pos holds

/-- Equivalent conditions stop the same runs, with the same message. -/
theorem require_congr {condition other : Prop} [Decidable condition] [Decidable other]
    (message : String) (same : condition ↔ other) :
    require condition message = require other message := by
  simp only [require, same]

/-- A checking build stops where a sum does not fit. -/
theorem add_checking_of_ge (outside : size ≤ left + right) :
    add .checking size left right = .error .overflow :=
  if_neg (Nat.not_lt.mpr outside)

/-- The product of two words fits twice their width. -/
theorem mul_words (leftFits : left < 2 ^ 64) (rightFits : right < 2 ^ 64) :
    mul mode u128 left right = .ok (left * right) := by
  apply mul_of_lt
  calc left * right < 2 ^ 64 * 2 ^ 64 := Nat.mul_lt_mul'' leftFits rightFits
    _ = 2 ^ 128 := (Nat.pow_add 2 64 64).symm

end Operations

section Completion

variable {α β : Type}

/-- The computation returns a value. -/
def Completes (computation : Machine α) : Prop :=
  ∃ value, computation = .ok value

/-- A requirement returns exactly when its condition holds. -/
theorem require_completes_iff (condition : Prop) [Decidable condition] (message : String) :
    Completes (require condition message) ↔ condition := by
  by_cases holds : condition <;> simp [Completes, require, holds]

/-- A value has been returned. -/
@[simp] theorem completes_ok (value : α) : Completes (.ok value) :=
  ⟨value, rfl⟩

/-- A pure computation returns. -/
@[simp] theorem completes_pure (value : α) : Completes (pure value) :=
  ⟨value, rfl⟩

/-- A computation that has stopped does not return. -/
@[simp] theorem not_completes_error (failure : Failure) :
    ¬Completes (.error failure : Machine α) := by
  rintro ⟨value, answered⟩
  cases answered

/-- A computation whose value is known returns. -/
theorem completes_of_eq {computation : Machine α} {value : α} (answered : computation = .ok value) :
    Completes computation :=
  ⟨value, answered⟩

/-- A sequence returns if its first step does and the rest does with its value. -/
theorem Completes.bind {first : Machine α} {rest : α → Machine β} (opened : Completes first)
    (onward : ∀ value, first = .ok value → Completes (rest value)) :
    Completes (first >>= rest) := by
  obtain ⟨value, answered⟩ := opened
  obtain ⟨result, finished⟩ := onward value answered
  exact ⟨result, (bind_eq_ok first rest result).mpr ⟨value, answered, finished⟩⟩

/-- A sequence that returns has returned in its first step. -/
theorem Completes.of_bind {first : Machine α} {rest : α → Machine β}
    (whole : Completes (first >>= rest)) : Completes first := by
  obtain ⟨result, finished⟩ := whole
  obtain ⟨value, answered, _⟩ := (bind_eq_ok first rest result).mp finished
  exact ⟨value, answered⟩

/-- A loop returns, pass by pass, if all its passes do. -/
theorem mapM_returns {step : α → Machine β} {items : List α}
    (each : ∀ item ∈ items, Completes (step item)) :
    ∃ results, items.mapM step = .ok results ∧
      List.Forall₂ (fun item result => step item = .ok result) items results :=
  mapM_of_each (fun item member =>
    (each item member).imp (fun _ answered => ⟨answered, answered⟩))

/-- A list is worked through when each of its items is. -/
theorem Completes.mapM {step : α → Machine β} {items : List α}
    (each : ∀ item ∈ items, Completes (step item)) : Completes (items.mapM step) :=
  (mapM_returns each).imp (fun _ answered => answered.1)

/-- Working through a list returns one result for each item. -/
theorem length_of_mapM {step : α → Machine β} {items : List α} {results : List β}
    (returned : items.mapM step = .ok results) : results.length = items.length :=
  (forall₂_of_mapM returned).length_eq.symm

/-- A loop that returns has returned in each of its passes. -/
theorem completes_of_mapM {step : α → Machine β} {items : List α}
    (whole : Completes (items.mapM step)) : ∀ item ∈ items, Completes (step item) := by
  intro item member
  obtain ⟨results, looped⟩ := whole
  obtain ⟨result, -, answered⟩ := exists_of_forall₂ (forall₂_of_mapM looped) member
  exact ⟨result, answered⟩

end Completion

end Kit.Checked
