import Mathlib.Data.List.Basic

/-!
# Taking turns between two sequences

A merge takes the left head unless the right one is due before it. What one side
contributes is unchanged by the other: when a test tells the sides apart,
filtering by it gives each side back.
-/

namespace Kit.Merging

universe u
variable {α : Type u} {due : α → α → Bool} {keep : α → Bool}

/-- The left side's items come through in their own order. -/
theorem filter_left {left right : List α} (own : ∀ item ∈ left, keep item = true)
    (foreign : ∀ item ∈ right, keep item = false) :
    (left.merge right due).filter keep = left := by
  induction left generalizing right with
  | nil =>
    rw [List.nil_merge]
    exact List.filter_eq_nil_iff.mpr (fun item member => by simp [foreign item member])
  | cons first left leftHypothesis =>
    have rest := fun item member => own item (List.mem_cons_of_mem first member)
    induction right with
    | nil =>
      rw [List.merge_right]
      exact List.filter_eq_self.mpr own
    | cons other right rightHypothesis =>
      rw [List.cons_merge_cons]
      split
      · rw [List.filter_cons_of_pos (own first List.mem_cons_self), leftHypothesis rest foreign]
      · rw [List.filter_cons_of_neg (by simp [foreign other List.mem_cons_self])]
        exact rightHypothesis (fun item member => foreign item (List.mem_cons_of_mem other member))

/-- The right side's items come through in their own order. -/
theorem filter_right {left right : List α} (foreign : ∀ item ∈ left, keep item = false)
    (own : ∀ item ∈ right, keep item = true) :
    (left.merge right due).filter keep = right := by
  induction left generalizing right with
  | nil =>
    rw [List.nil_merge]
    exact List.filter_eq_self.mpr own
  | cons first left leftHypothesis =>
    have rest := fun item member => foreign item (List.mem_cons_of_mem first member)
    induction right with
    | nil =>
      rw [List.merge_right]
      exact List.filter_eq_nil_iff.mpr (fun item member => by simp [foreign item member])
    | cons other right rightHypothesis =>
      rw [List.cons_merge_cons]
      split
      · rw [List.filter_cons_of_neg (by simp [foreign first List.mem_cons_self]),
          leftHypothesis rest own]
      · rw [List.filter_cons_of_pos (own other List.mem_cons_self)]
        exact congrArg _
          (rightHypothesis (fun item member => own item (List.mem_cons_of_mem other member)))

end Kit.Merging
