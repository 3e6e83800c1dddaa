import Mathlib.Data.List.Perm.Basic
import Mathlib.Algebra.BigOperators.Group.List.Basic
import Mathlib.Algebra.Ring.Nat

/-!
# Checked and saturating arithmetic on 64-bit counters

A saturating counter clamps at the largest word instead of wrapping, so the
order in which contributions arrive does not matter and a counter that has left
zero never returns to it. Checked operations answer exactly or not at all.

Every law is stated through the natural value of a word. The folds cover whole
lists of contributions: the clamped total is the clamp of the exact total.
-/

namespace Kit.Saturating

/-- The largest 64-bit word, as a natural number. -/
def limit : Nat := 2 ^ 64 - 1

/-- Clamp the exact sum at the largest word. -/
def saturatingAdd (left right : UInt64) : UInt64 :=
  UInt64.ofNat (min (left.toNat + right.toNat) limit)

/-- Clamp the exact product at the largest word. -/
def saturatingMul (left right : UInt64) : UInt64 :=
  UInt64.ofNat (min (left.toNat * right.toNat) limit)

/-- The exact sum, or nothing when it does not fit. -/
def checkedAdd (left right : UInt64) : Option UInt64 :=
  if left.toNat + right.toNat ≤ limit then some (UInt64.ofNat (left.toNat + right.toNat))
  else none

/-- The exact product, or nothing when it does not fit. -/
def checkedMul (left right : UInt64) : Option UInt64 :=
  if left.toNat * right.toNat ≤ limit then some (UInt64.ofNat (left.toNat * right.toNat))
  else none

/-- The exact difference, or nothing when it would be negative. -/
def checkedSub (left right : UInt64) : Option UInt64 :=
  if right ≤ left then some (left - right) else none

/-- Fold a list of contributions into one counter that starts at zero. -/
def total (values : List UInt64) : UInt64 := values.foldl saturatingAdd 0

/-- No word is beyond the largest. -/
theorem toNat_le_limit (value : UInt64) : value.toNat ≤ limit := by
  have bound : value.toNat < 2 ^ 64 := value.toNat_lt
  simp only [limit]
  omega

/-- A number within the limit is the value of its word. -/
theorem toNat_ofNat_of_fits {value : Nat} (fits : value ≤ limit) :
    (UInt64.ofNat value).toNat = value := by
  apply UInt64.toNat_ofNat_of_lt'
  simp only [limit, UInt64.size] at fits ⊢
  omega

/-- A sum that fits is exact. -/
theorem toNat_add_of_room {left right : UInt64} (room : left.toNat + right.toNat ≤ limit) :
    (left + right).toNat = left.toNat + right.toNat := by
  rw [UInt64.toNat_add, Nat.mod_eq_of_lt (by simp only [limit] at room; omega)]

/-- A clamped product is the clamp of the exact product. -/
@[simp] theorem saturatingMul_toNat (left right : UInt64) :
    (saturatingMul left right).toNat = min (left.toNat * right.toNat) limit :=
  toNat_ofNat_of_fits (Nat.min_le_right _ _)

/-- A clamped sum is the clamp of the exact sum. -/
@[simp] theorem saturatingAdd_toNat (left right : UInt64) :
    (saturatingAdd left right).toNat = min (left.toNat + right.toNat) limit :=
  toNat_ofNat_of_fits (Nat.min_le_right _ _)

/-- The order of two contributions does not matter. -/
theorem saturatingAdd_comm (left right : UInt64) :
    saturatingAdd left right = saturatingAdd right left := by
  apply UInt64.toNat_inj.mp
  rw [saturatingAdd_toNat, saturatingAdd_toNat, Nat.add_comm]

/-- Nor does their grouping. -/
theorem saturatingAdd_assoc (first second third : UInt64) :
    saturatingAdd (saturatingAdd first second) third =
      saturatingAdd first (saturatingAdd second third) := by
  apply UInt64.toNat_inj.mp
  simp only [saturatingAdd_toNat]
  omega

/-- Nothing added leaves a counter as it is. -/
@[simp] theorem saturatingAdd_zero (value : UInt64) : saturatingAdd value 0 = value := by
  apply UInt64.toNat_inj.mp
  have bound : value.toNat ≤ limit := toNat_le_limit value
  simp [bound]

/-- A counter that starts at zero has what was added. -/
@[simp] theorem zero_saturatingAdd (value : UInt64) : saturatingAdd 0 value = value := by
  rw [saturatingAdd_comm, saturatingAdd_zero]

/-- The larger of two counters. -/
theorem max_toNat (left right : UInt64) : (max left right).toNat = max left.toNat right.toNat := by
  change (if left ≤ right then right else left).toNat = _
  simp only [apply_ite UInt64.toNat, Nat.max_def, UInt64.le_iff_toNat_le]

/-- The smaller of two counters. -/
theorem min_toNat (left right : UInt64) : (min left right).toNat = min left.toNat right.toNat := by
  change (if left ≤ right then left else right).toNat = _
  simp only [apply_ite UInt64.toNat, Nat.min_def, UInt64.le_iff_toNat_le]

/-- The larger of two words is a maximum for their order, which the lemmas about maxima ask
for. -/
instance lawfulOrderMaxWord : Std.LawfulOrderMax UInt64 := by
  refine .of_max_le_iff (fun bound left right => ?_) (fun left right => ?_)
  · rw [UInt64.le_iff_toNat_le, UInt64.le_iff_toNat_le, UInt64.le_iff_toNat_le, max_toNat]
    exact Nat.max_le
  · change (if left ≤ right then right else left) = left ∨
      (if left ≤ right then right else left) = right
    split <;> simp

/-- The largest of some counters, or zero, is the least bound of all of them. -/
theorem largest_le_iff {values : List UInt64} {bound : UInt64} :
    values.max?.getD 0 ≤ bound ↔ ∀ value ∈ values, value ≤ bound := by
  cases found : values.max? with
  | none =>
    obtain rfl := List.max?_eq_none_iff.mp found
    simp
  | some largest =>
    obtain ⟨among, each⟩ := List.max?_eq_some_iff.mp found
    constructor
    · intro below value member
      exact UInt64.le_trans (each value member) below
    · intro all
      exact all largest among

/-- The larger of two words does not depend on their order. -/
theorem larger_comm (left right : UInt64) : max left right = max right left := by
  apply UInt64.toNat_inj.mp
  rw [max_toNat, max_toNat, Nat.max_comm]

/-- A word that is at least the other is the larger one. -/
theorem larger_of_le {left right : UInt64} (ordered : right ≤ left) : max left right = left := by
  apply UInt64.toNat_inj.mp
  rw [max_toNat, Nat.max_eq_left (UInt64.le_iff_toNat_le.mp ordered)]

/-- The largest of three words does not depend on the grouping. -/
theorem larger_assoc (first second third : UInt64) :
    max (max first second) third = max first (max second third) := by
  apply UInt64.toNat_inj.mp
  simp only [max_toNat, Nat.max_assoc]

/-- Zero is never the larger one. -/
theorem zero_larger (value : UInt64) : max 0 value = value := by
  apply UInt64.toNat_inj.mp
  rw [max_toNat, UInt64.toNat_zero, Nat.zero_max]

/-- A saturating counter is zero only when every contribution was. -/
@[simp] theorem saturatingAdd_eq_zero (left right : UInt64) :
    saturatingAdd left right = 0 ↔ left = 0 ∧ right = 0 := by
  simp only [← UInt64.toNat_inj, saturatingAdd_toNat, UInt64.toNat_zero, limit]
  omega

/-- Folding onto a started counter clamps the exact total of everything added. -/
theorem foldl_toNat (values : List UInt64) (start : UInt64) :
    (values.foldl saturatingAdd start).toNat =
      min (start.toNat + (values.map UInt64.toNat).sum) limit := by
  induction values generalizing start with
  | nil =>
    have bound : start.toNat ≤ limit := toNat_le_limit start
    simp [bound]
  | cons value rest inductionHypothesis =>
    simp only [List.foldl_cons, inductionHypothesis, saturatingAdd_toNat, List.map_cons,
      List.sum_cons]
    omega

/-- The folded counter is the clamp of the exact total. -/
theorem total_toNat (values : List UInt64) :
    (total values).toNat = min (values.map UInt64.toNat).sum limit := by
  simp [total, foldl_toNat]

/-- Contributions that were clamped before they were added give the same counter
as their exact values would. -/
theorem foldl_clamped_toNat (counts : List Nat) (start : UInt64) :
    ((counts.map (fun count => UInt64.ofNat (min count limit))).foldl saturatingAdd start).toNat =
      min (start.toNat + counts.sum) limit := by
  induction counts generalizing start with
  | nil =>
    have bound : start.toNat ≤ limit := toNat_le_limit start
    simp [bound]
  | cons count rest inductionHypothesis =>
    have clamped : (UInt64.ofNat (min count limit)).toNat = min count limit :=
      toNat_ofNat_of_fits (Nat.min_le_right _ _)
    simp only [List.map_cons, List.foldl_cons, inductionHypothesis, saturatingAdd_toNat, clamped,
      List.sum_cons]
    omega

/-- A sum that is answered is exact. -/
theorem checkedAdd_eq_some {left right sum : UInt64} (checked : checkedAdd left right = some sum) :
    sum.toNat = left.toNat + right.toNat := by
  simp only [checkedAdd] at checked
  split at checked
  · next inside =>
    obtain rfl := Option.some.inj checked
    exact toNat_ofNat_of_fits inside
  · simp at checked

/-- A sum that fits is answered. -/
theorem checkedAdd_of_room {left right : UInt64} (room : left.toNat + right.toNat ≤ limit) :
    checkedAdd left right = some (left + right) := by
  rw [checkedAdd, if_pos room, UInt64.ofNat_add, UInt64.ofNat_toNat, UInt64.ofNat_toNat]

/-- The exact sum is answered when some word is it. -/
theorem checkedAdd_of_exact {left right sum : UInt64}
    (exact_sum : sum.toNat = left.toNat + right.toNat) : checkedAdd left right = some sum := by
  have fits := toNat_le_limit sum
  rw [checkedAdd, if_pos (by omega), ← exact_sum, UInt64.ofNat_toNat]

/-- A product that is answered is exact. -/
theorem checkedMul_eq_some {left right product : UInt64}
    (checked : checkedMul left right = some product) :
    product.toNat = left.toNat * right.toNat := by
  simp only [checkedMul] at checked
  split at checked
  · next inside =>
    obtain rfl := Option.some.inj checked
    exact toNat_ofNat_of_fits inside
  · simp at checked

/-- A difference that is answered is exact, and was not below zero. -/
theorem checkedSub_eq_some {left right difference : UInt64}
    (checked : checkedSub left right = some difference) :
    right.toNat ≤ left.toNat ∧ difference.toNat = left.toNat - right.toNat := by
  simp only [checkedSub] at checked
  split at checked
  · next ordered =>
    obtain rfl := Option.some.inj checked
    exact ⟨UInt64.le_iff_toNat_le.mp ordered, UInt64.toNat_sub_of_le _ _ ordered⟩
  · simp at checked

/-- A product that fits is answered. -/
theorem checkedMul_of_fits (left right : UInt64) (fits : left.toNat * right.toNat ≤ limit) :
    ∃ product, checkedMul left right = some product ∧
      product.toNat = left.toNat * right.toNat := by
  have checked : checkedMul left right = some (UInt64.ofNat (left.toNat * right.toNat)) := by
    simp [checkedMul, fits]
  exact ⟨_, checked, checkedMul_eq_some checked⟩

/-- The exact product is answered when some word is it. -/
theorem checkedMul_of_exact {left right product : UInt64}
    (exact_product : product.toNat = left.toNat * right.toNat) :
    checkedMul left right = some product := by
  have fits := toNat_le_limit product
  rw [checkedMul, if_pos (by omega), ← exact_product, UInt64.ofNat_toNat]

end Kit.Saturating
