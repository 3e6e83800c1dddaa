import Mathlib.Algebra.BigOperators.Ring.List
import Mathlib.Algebra.Order.BigOperators.Group.List
import Mathlib.Algebra.Order.Ring.Nat
import Mathlib.Tactic.Ring

/-!
# Averages of floored rates

A floored weighted average lies between the values it averages. When an amount
grows over intervals and of each interval only its floored rate is kept, the
rates weighted by their intervals add up to the amount again, up to one unit for
each unit of weight; flooring their average loses at most one more.
-/

namespace Kit.Averages

section
variable {α : Type*} {items : List α}

/-- Parts add up to all wholes exactly when every part is its whole. -/
theorem sum_parts_iff {part whole : α → Nat} (within : ∀ item ∈ items, part item ≤ whole item) :
    (items.map part).sum = (items.map whole).sum ↔ ∀ item ∈ items, part item = whole item := by
  induction items with
  | nil => simp
  | cons item rest inductionHypothesis =>
    obtain ⟨first, later⟩ := List.forall_mem_cons.mp within
    have bound := List.sum_le_sum later
    have step := inductionHypothesis later
    simp only [List.map_cons, List.sum_cons, List.forall_mem_cons, ← step]
    omega

/-- A floored weighted average lies between the bounds of what it averages. -/
theorem average_between {product weight : α → Nat} {low high : Nat}
    (above : ∀ item ∈ items, low * weight item ≤ product item)
    (below : ∀ item ∈ items, product item ≤ high * weight item)
    (positive : 0 < (items.map weight).sum) :
    low ≤ (items.map product).sum / (items.map weight).sum ∧
      (items.map product).sum / (items.map weight).sum ≤ high := by
  constructor
  · rw [Nat.le_div_iff_mul_le positive, ← List.sum_map_mul_left]
    exact List.sum_le_sum above
  · refine Nat.div_le_of_le_mul ?_
    rw [Nat.mul_comm, ← List.sum_map_mul_left]
    exact List.sum_le_sum below

/-- A floored mean lies between two of the values. -/
theorem mean_between (value : α → Nat) (nonempty : items ≠ []) :
    (∃ item ∈ items, value item ≤ (items.map value).sum / items.length) ∧
      ∃ item ∈ items, (items.map value).sum / items.length ≤ value item := by
  have positive : 0 < items.length := List.length_pos_iff.mpr nonempty
  have constant (count : Nat) : (items.map (fun _ => count)).sum = items.length * count := by
    rw [List.map_const', List.sum_replicate, Nat.nsmul_eq_mul]
  constructor
  · by_contra none
    push Not at none
    have larger := List.sum_le_sum (fun item member => Nat.add_one_le_of_lt (none item member))
    have short := Nat.lt_mul_div_succ (items.map value).sum positive
    rw [constant] at larger
    omega
  · refine List.exists_le_of_sum_le nonempty (fun _ => _) value ?_
    rw [constant]
    exact Nat.mul_div_le _ _

end

/-- A weighted sum of floored rates stands for an amount, in units of a scale. -/
structure Floored (scale amount weighted weight : Nat) : Prop where
  below : scale * weighted ≤ amount
  above : amount ≤ scale * (weighted + weight)

variable {scale amount weighted weight : Nat}

/-- No interval, no amount: the sums start within their bounds. -/
theorem Floored.zero (scale : Nat) : Floored scale 0 0 0 :=
  ⟨Nat.le_of_eq (Nat.mul_zero scale), Nat.zero_le _⟩

/-- One more interval with its floored rate. -/
theorem Floored.add (floored : Floored scale amount weighted weight) {interval : Nat}
    (positive : 0 < scale * interval) (more : Nat) :
    Floored scale (amount + more) (weighted + more / (scale * interval) * interval)
      (weight + interval) := by
  have down := Nat.div_mul_le_self more (scale * interval)
  have up := @Nat.lt_div_mul_add more _ positive
  obtain ⟨below, above⟩ := floored
  constructor
  · calc scale * (weighted + more / (scale * interval) * interval)
        = scale * weighted + more / (scale * interval) * (scale * interval) := by ring
      _ ≤ amount + more := Nat.add_le_add below down
  · calc amount + more
        ≤ scale * (weighted + weight) +
            (more / (scale * interval) * (scale * interval) + scale * interval) :=
          Nat.add_le_add above up.le
      _ = scale * (weighted + more / (scale * interval) * interval + (weight + interval)) := by
          ring

/-- The floored average of the rates is at most the exact rate, and less than two
below it. -/
theorem Floored.average (floored : Floored scale amount weighted weight)
    (scaled : 0 < scale) (weighs : 0 < weight) :
    weighted / weight * (scale * weight) ≤ amount ∧
      amount < (weighted / weight + 2) * (scale * weight) := by
  have down := Nat.div_mul_le_self weighted weight
  have up := @Nat.lt_div_mul_add weighted _ weighs
  obtain ⟨below, above⟩ := floored
  constructor
  · calc weighted / weight * (scale * weight) = scale * (weighted / weight * weight) := by ring
      _ ≤ scale * weighted := Nat.mul_le_mul_left scale down
      _ ≤ amount := below
  · calc amount ≤ scale * (weighted + weight) := above
      _ < scale * (weighted / weight * weight + weight + weight) :=
          Nat.mul_lt_mul_of_pos_left (Nat.add_lt_add_right up weight) scaled
      _ = (weighted / weight + 2) * (scale * weight) := by ring

end Kit.Averages
