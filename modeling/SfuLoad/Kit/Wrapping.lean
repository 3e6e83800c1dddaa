import Mathlib.Data.List.Pairwise
import Mathlib.Tactic.NormNum

/-!
# Counters that wrap

A counter of fixed width hands out consecutive values and starts over at zero
when it runs out. A run of it is increasing exactly as long as it does not wrap.
-/

namespace Kit.Wrapping

/-- The values handed out from a start, modulo the counter's range. -/
def wrapped (modulus start count : Nat) : List Nat :=
  (List.range count).map (fun index => (start + index) % modulus)

/-- A run of a counter has as many values as were drawn. -/
@[simp] theorem wrapped_length (modulus start count : Nat) :
    (wrapped modulus start count).length = count := by
  simp [wrapped]

/-- Nothing drawn, no value. -/
@[simp] theorem wrapped_zero (modulus start : Nat) : wrapped modulus start 0 = [] := rfl

/-- The first value is the counter; the others come from the counter one further on. -/
theorem wrapped_succ (modulus start count : Nat) :
    wrapped modulus start (count + 1) =
      start % modulus :: wrapped modulus ((start + 1) % modulus) count := by
  have shifted (index : Nat) :
      (start + (index + 1)) % modulus = ((start + 1) % modulus + index) % modulus := by
    rw [Nat.mod_add_mod]
    congr 1
    omega
  rw [wrapped, List.range_succ_eq_map, List.map_cons, List.map_map, Nat.add_zero, wrapped]
  exact congrArg _ (List.map_congr_left (fun index _ => shifted index))

/-- A run continues where the previous one left the counter. -/
theorem wrapped_append (modulus start first second : Nat) :
    wrapped modulus start first ++ wrapped modulus ((start + first) % modulus) second =
      wrapped modulus start (first + second) := by
  have continued (index : Nat) :
      ((start + first) % modulus + index) % modulus = (start + (first + index)) % modulus := by
    rw [Nat.mod_add_mod, Nat.add_assoc]
  simp only [wrapped, List.range_add, List.map_append, List.map_map, Function.comp_def, continued]

/-- Before it wraps, the counter counts up by one. -/
theorem wrapped_eq_range' {modulus start count : Nat} (inside : start + count ≤ modulus) :
    wrapped modulus start count = List.range' start count := by
  rw [wrapped, List.range'_eq_map_range]
  refine List.map_congr_left (fun index member => Nat.mod_eq_of_lt ?_)
  have below := List.mem_range.mp member
  omega

/-- A run increases exactly when it ends before the counter wraps. -/
theorem wrapped_increasing_iff {modulus start count : Nat} (inside : start < modulus) :
    (wrapped modulus start count).Pairwise (· < ·) ↔ start + count ≤ modulus := by
  constructor
  · intro increasing
    by_contra beyond
    -- the value after the largest one is zero
    have pair := List.pairwise_iff_getElem.mp increasing (modulus - start - 1) (modulus - start)
      (by rw [wrapped_length]; omega) (by rw [wrapped_length]; omega) (by omega)
    simp only [wrapped, List.getElem_map, List.getElem_range] at pair
    rw [show start + (modulus - start) = modulus by omega, Nat.mod_self] at pair
    exact Nat.not_lt_zero _ pair
  · intro fits
    rw [wrapped_eq_range' fits]
    exact List.pairwise_lt_range'

end Kit.Wrapping
