import Mathlib.Data.List.Destutter
import Mathlib.Data.List.Nodup
import Mathlib.Data.List.Perm.Subperm

/-!
# Unstable sorts and adjacent duplicates

An unstable sort is any function that rearranges a list into the order of a
comparator; equal items may come in any order. Where the comparator separates the
items, all such sorts agree. Where it does not, a value can come back after
another one, and dropping adjacent duplicates leaves both copies.
-/

namespace Kit.Sorting

open Std
open scoped List

variable {α : Type*} {cmp : α → α → Ordering} {sort : List α → List α}

/-- A sort rearranges its input into the comparator's order. -/
structure Sorts (cmp : α → α → Ordering) (sort : List α → List α) : Prop where
  rearranges : ∀ items, (sort items).Perm items
  ordered : ∀ items, (sort items).Pairwise (fun earlier later => (cmp earlier later).isLE)

/-- A value comes back after another one only where the comparator confuses them. -/
theorem alike_of_return [OrientedCmp cmp] {items : List α} {item other : α}
    (ordered : items.Pairwise (fun earlier later => (cmp earlier later).isLE))
    (returned : [item, other, item] <+ items) : cmp item other = .eq := by
  have drawn := ordered.sublist returned
  simp only [List.pairwise_cons, List.mem_cons, List.not_mem_nil, or_false, forall_eq_or_imp,
    forall_eq] at drawn
  obtain ⟨⟨up, -⟩, down, -⟩ := drawn
  exact OrientedCmp.isLE_antisymm up down

/-- Rearranged lists in order are one list if the comparator tells their items apart. -/
theorem eq_of_ordered_perm [OrientedCmp cmp] {items items' : List α} (perm : items.Perm items')
    (ordered : items.Pairwise (fun earlier later => (cmp earlier later).isLE))
    (ordered' : items'.Pairwise (fun earlier later => (cmp earlier later).isLE))
    (separated : ∀ item ∈ items, ∀ other ∈ items, cmp item other = .eq → item = other) :
    items = items' := by
  refine perm.eq_of_pairwise ?_ ordered ordered'
  intro item other inItems inItems' up down
  exact separated item inItems other (perm.mem_iff.mpr inItems')
    (OrientedCmp.isLE_antisymm up down)

namespace Sorts

/-- A sort neither loses nor invents an item. -/
theorem mem_iff (sorts : Sorts cmp sort) {item : α} {items : List α} :
    item ∈ sort items ↔ item ∈ items :=
  (sorts.rearranges items).mem_iff

/-- An item that comes back behind another one compares as equal to it. -/
theorem confused_of_return [OrientedCmp cmp] (sorts : Sorts cmp sort) {items : List α}
    {item other : α} (returned : [item, other, item] <+ sort items) :
    cmp item other = .eq :=
  alike_of_return (sorts.ordered items) returned

end Sorts

/-- Merge sort is one of the sorts, and a stable one. -/
def stable (cmp : α → α → Ordering) (items : List α) : List α :=
  items.mergeSort (fun earlier later => (cmp earlier later).isLE)

/-- Of two items one comes first or they are equal, since the comparator is oriented. -/
theorem stable_total [OrientedCmp cmp] (item other : α) :
    ((cmp item other).isLE || (cmp other item).isLE) = true := by
  rw [@OrientedCmp.eq_swap _ cmp _ other item]
  cases cmp item other <;> rfl

/-- The stable sort is one of the sorts that are allowed. -/
theorem stable_sorts [TransCmp cmp] : Sorts cmp (stable cmp) where
  rearranges items := List.mergeSort_perm items _
  ordered items :=
    List.pairwise_mergeSort (fun _ _ _ => TransCmp.isLE_trans) stable_total items

/-- A merge sort keeps items that are all alike in their own order. -/
theorem filter_mergeSort {le : α → α → Bool} {keep : α → Bool}
    (trans : ∀ first second third, le first second → le second third → le first third)
    (total : ∀ first second, le first second || le second first)
    (alike : ∀ first second, keep first → keep second → le first second) (items : List α) :
    (items.mergeSort le).filter keep = items.filter keep := by
  have tied : (items.filter keep).Pairwise (fun first second => le first second) :=
    List.pairwise_of_forall_mem_list (fun first begun second continued =>
      alike first second (List.of_mem_filter begun) (List.of_mem_filter continued))
  have kept := (List.sublist_mergeSort trans total tied List.filter_sublist).filter keep
  simp only [List.filter_filter, Bool.and_self] at kept
  exact (kept.eq_of_length ((List.mergeSort_perm items le).filter keep).length_eq.symm).symm

/-- A list that is in order is left as it is by the stable sort. -/
theorem stable_of_ordered {items : List α}
    (inOrder : items.Pairwise (fun earlier later => (cmp earlier later).isLE)) :
    stable cmp items = items :=
  List.mergeSort_of_pairwise inOrder

/-- What is in order already and can be drawn from a list, some sort keeps as it is. -/
theorem exists_keeping [TransCmp cmp] [DecidableEq α] {kept items : List α}
    (inOrder : kept.Pairwise (fun earlier later => (cmp earlier later).isLE))
    (drawn : kept <+~ items) :
    ∃ sort, Sorts cmp sort ∧ kept <+ sort items := by
  obtain ⟨arranged, perm, sublist⟩ := List.subperm_iff.mp drawn
  refine ⟨fun given => stable cmp (if given = items then arranged else given), ?_, ?_⟩
  · constructor
    · intro given
      refine (stable_sorts.rearranges _).trans ?_
      split
      · next same => exact same ▸ perm
      · exact .refl given
    · intro given
      exact stable_sorts.ordered _
  · show kept <+ stable cmp (if items = items then arranged else items)
    rw [if_pos rfl]
    exact List.sublist_mergeSort (fun _ _ _ => TransCmp.isLE_trans) stable_total inOrder sublist

section Dedup

variable [DecidableEq α]

/-- Drop every item that equals the one before it. -/
def dedup (items : List α) : List α :=
  items.destutter (· ≠ ·)

/-- Dropping adjacent duplicates loses no item altogether. -/
theorem mem_destutter'_iff {item first : α} {items : List α} :
    item ∈ items.destutter' (· ≠ ·) first ↔ item = first ∨ item ∈ items := by
  induction items generalizing first with
  | nil => simp
  | cons next rest hypothesis =>
    by_cases same : first = next
    · subst same
      simp [hypothesis]
    · simp [same, hypothesis]

/-- The same for the whole list. -/
theorem mem_dedup {item : α} {items : List α} : item ∈ dedup items ↔ item ∈ items := by
  cases items with
  | nil => rfl
  | cons first rest =>
    rw [dedup, List.destutter_cons', mem_destutter'_iff, List.mem_cons]

/-- Dropping adjacent duplicates leaves no duplicate at all exactly when no item comes back
behind a different one. -/
theorem nodup_destutter'_iff {first : α} {items : List α} :
    (items.destutter' (· ≠ ·) first).Nodup ↔
      ∀ item other, [item, other, item] <+ first :: items → item = other := by
  induction items generalizing first with
  | nil => simp [List.sublist_cons_iff]
  | cons next rest hypothesis =>
    by_cases same : first = next
    · subst same
      rw [List.destutter'_cons_neg _ (not_not_intro rfl), hypothesis]
      constructor
      · intro separate item other returned
        cases returned with
        | cons _ inner => exact separate item other inner
        | cons_cons _ inner =>
          cases inner with
          | cons _ deeper => exact separate _ other (deeper.cons_cons _)
          | cons_cons _ _ => rfl
      · intro separate item other returned
        exact separate item other (returned.cons first)
    · rw [List.destutter'_cons_pos _ same, List.nodup_cons, mem_destutter'_iff, hypothesis]
      constructor
      · rintro ⟨fresh, separate⟩ item other returned
        cases returned with
        | cons _ inner => exact separate item other inner
        | cons_cons _ inner =>
          have again : first ∈ next :: rest := inner.subset (by simp)
          exact absurd (List.mem_cons.mp again) fresh
      · intro separate
        constructor
        · intro again
          rcases again with again | again
          · exact same again
          · apply same
            apply separate first next
            exact ((List.singleton_sublist.mpr again).cons_cons next).cons_cons first
        · intro item other returned
          exact separate item other (returned.cons first)

/-- Dropping adjacent duplicates drops all of them unless a value comes back. -/
theorem nodup_dedup_iff {items : List α} :
    (dedup items).Nodup ↔ ∀ item other, [item, other, item] <+ items → item = other := by
  cases items with
  | nil => simp [dedup]
  | cons first rest => exact nodup_destutter'_iff

end Dedup

end Kit.Sorting
