import Mathlib.Data.List.Basic

/-!
# The longest suffix that qualifies

A property that a list passes on to its tail holds of one longest suffix: the one that
no longer qualifies with the item before it, or the list itself. A bound on the length
of a joined list is such a property.
-/

namespace Kit.Suffixes

section Longest

variable {α : Type} {qualifies : List α → Prop} {whole kept : List α}

/-- A suffix that qualifies, and that every suffix that qualifies is a suffix of. -/
structure Longest (qualifies : List α → Prop) (whole kept : List α) : Prop where
  suffix : kept <:+ whole
  qualified : qualifies kept
  covers : ∀ other, other <:+ whole → qualifies other → other <:+ kept

/-- A list that qualifies has a tail that does. -/
def Inherited (qualifies : List α → Prop) : Prop :=
  ∀ item list, qualifies (item :: list) → qualifies list

/-- What a list passes on to its tail it passes on to every suffix. -/
theorem Inherited.suffix (inherited : Inherited qualifies) {list other : List α}
    (suffix : other <:+ list) (qualified : qualifies list) : qualifies other := by
  induction list with
  | nil => exact List.suffix_nil.mp suffix ▸ qualified
  | cons item list inductionHypothesis =>
    rcases List.suffix_cons_iff.mp suffix with rfl | shorter
    · exact qualified
    · exact inductionHypothesis shorter (inherited item list qualified)

/-- A list that qualifies is its own longest suffix. -/
theorem longest_of_qualified (qualified : qualifies whole) : Longest qualifies whole whole :=
  ⟨List.suffix_refl whole, qualified, fun _ suffix _ => suffix⟩

/-- Where the item before it is one too many, nothing longer qualifies. -/
theorem longest_of_blocked (inherited : Inherited qualifies) (qualified : qualifies kept)
    {item : α} (blocked : ¬qualifies (item :: kept)) (front : List α) :
    Longest qualifies (front ++ item :: kept) kept := by
  have behind : item :: kept <:+ front ++ item :: kept := List.suffix_append _ _
  refine ⟨(List.suffix_cons item kept).trans behind, qualified, fun other suffix fits => ?_⟩
  rcases List.suffix_or_suffix_of_suffix suffix behind with shorter | longer
  · rcases List.suffix_cons_iff.mp shorter with rfl | within
    · exact absurd fits blocked
    · exact within
  · exact absurd (inherited.suffix longer fits) blocked

/-- There is one longest suffix. -/
theorem Longest.unique (longest : Longest qualifies whole kept) {other : List α}
    (also : Longest qualifies whole other) : other = kept :=
  (longest.covers other also.suffix also.qualified).eq_of_length_le
    (also.covers kept longest.suffix longest.qualified).length_le

end Longest

section Joined

variable {α : Type} {separator : List α}

/-- The first of several parts costs its own length and one separator, the last part its
length alone. -/
theorem length_intercalate_cons (part : List α) (parts : List (List α)) :
    (separator.intercalate (part :: parts)).length = (separator.intercalate parts).length +
      (if parts = [] then 0 else separator.length) + part.length := by
  cases parts with
  | nil => simp
  | cons next rest =>
    rw [List.intercalate_cons_cons, List.length_append, List.length_append,
      if_neg (List.cons_ne_nil next rest)]
    omega

/-- A joined list within a budget has its tail within the budget as well. -/
theorem inherited_joined (budget : Nat) :
    Inherited (fun parts => (separator.intercalate parts).length ≤ budget) := by
  intro part parts within
  rw [length_intercalate_cons] at within
  omega

end Joined

end Kit.Suffixes
