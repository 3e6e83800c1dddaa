import Mathlib.Data.List.Basic

/-!
# First occurrence of a pattern in a bounded scan

A scan slides a window of the pattern's length over a list and answers the first
start at which the window is the pattern. The number of windows inspected is
bounded, so an occurrence past the bound is never found.
-/

namespace Kit.Windows

universe u
variable {α : Type u}

/-- Every contiguous run of `size` items, in order of its start. -/
def windows (size : Nat) (items : List α) : List (List α) :=
  (List.range (items.length + 1 - size)).map (fun start => (items.drop start).take size)

/-- The pattern occurs at the given start. -/
def Occurs (pattern items : List α) (start : Nat) : Prop :=
  (items.drop start).take pattern.length = pattern

/-- Whether the pattern stands at a place can be decided. -/
instance [DecidableEq α] (pattern items : List α) (start : Nat) :
    Decidable (Occurs pattern items start) :=
  inferInstanceAs (Decidable (_ = _))

/-- The first of the leading `bound` windows that equals the pattern. -/
def firstWindow [BEq α] (pattern : List α) (bound : Nat) (items : List α) : Option Nat :=
  ((windows pattern.length items).take bound).findIdx? (· == pattern)

/-- An occurrence ends inside the list. -/
theorem occurs_inside {pattern items : List α} {start : Nat} (nonempty : pattern ≠ [])
    (occurs : Occurs pattern items start) : start + pattern.length ≤ items.length := by
  have taken : ((items.drop start).take pattern.length).length = pattern.length := by rw [occurs]
  have positive : 0 < pattern.length := List.length_pos_iff.mpr nonempty
  rw [List.length_take, List.length_drop] at taken
  omega

/-- An occurrence agrees with the pattern at each of its positions. -/
theorem occurs_getElem? {pattern items : List α} {start : Nat}
    (occurs : Occurs pattern items start) (position : Nat) (inside : position < pattern.length) :
    items[start + position]? = pattern[position]? := by
  conv => rhs; rw [← occurs]
  rw [List.getElem?_take_of_lt inside, List.getElem?_drop]

/-- The scan answers the least start of an occurrence below its bound. -/
theorem firstWindow_eq_some_iff [BEq α] [LawfulBEq α] (pattern items : List α) (bound start : Nat)
    (nonempty : pattern ≠ []) :
    firstWindow pattern bound items = some start ↔
      start < bound ∧ Occurs pattern items start ∧
        ∀ earlier < start, ¬ Occurs pattern items earlier := by
  have positive : 0 < pattern.length := List.length_pos_iff.mpr nonempty
  rw [firstWindow, List.findIdx?_eq_some_iff_getElem]
  simp only [windows, List.length_take, List.length_map, List.length_range, List.getElem_take,
    List.getElem_map, List.getElem_range, beq_iff_eq]
  constructor
  · rintro ⟨inside, found, unfound⟩
    refine ⟨by omega, found, ?_⟩
    intro earlier before
    exact unfound earlier before
  · rintro ⟨bounded, found, unfound⟩
    have inside := occurs_inside nonempty found
    refine ⟨by omega, found, ?_⟩
    intro earlier before
    exact unfound earlier before

/-- A pattern placed right after a lead-in is found at the lead-in's end, when no
window that starts in the lead-in equals the pattern. Such a window lies inside
the lead-in and the pattern, so what follows them is irrelevant. -/
theorem firstWindow_after [BEq α] [LawfulBEq α] (lead pattern rest : List α) (bound : Nat)
    (nonempty : pattern ≠ []) (bounded : lead.length < bound)
    (unfound : ∀ earlier < lead.length, ¬ Occurs pattern (lead ++ pattern) earlier) :
    firstWindow pattern bound (lead ++ pattern ++ rest) = some lead.length := by
  refine (firstWindow_eq_some_iff pattern _ bound lead.length nonempty).mpr ⟨bounded, ?_, ?_⟩
  · simp [Occurs, List.append_assoc]
  · intro earlier before occurs
    refine unfound earlier before ?_
    have room : earlier ≤ (lead ++ pattern).length := by
      rw [List.length_append]
      omega
    have covered : pattern.length ≤ ((lead ++ pattern).drop earlier).length := by
      rw [List.length_drop, List.length_append]
      omega
    unfold Occurs at occurs ⊢
    rwa [List.drop_append_of_le_length room, List.take_append_of_le_length covered] at occurs

end Kit.Windows
