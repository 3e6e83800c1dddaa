import SfuLoad.Kit.Checked
import SfuLoad.Kit.Sorting
import Mathlib.Data.List.Sort

/-!
# Sorting with a comparator that may fail

A sorter is handed a comparator that is itself a computation. Whatever it
returns is a rearrangement of its input, and where all comparisons return in
agreement with an order, it returns the items in that order. Nothing is said
about items that compare as equal, nor about which comparisons are made.
-/

namespace Kit.Sorting

open Kit.Checked Std
open Kit.Fallible (bind_eq_ok ok_bind)

/-- A sorting routine with all that is promised of it. The comparisons it makes are its own
matter, so where one of them fails the routine may have met it or not. -/
structure Sorter where
  sortUnstableBy : ∀ {α : Type}, (α → α → Machine Ordering) → List α → Machine (List α)
  rearranges : ∀ {α : Type} {compare : α → α → Machine Ordering} {items sorted : List α},
    sortUnstableBy compare items = .ok sorted → sorted.Perm items
  returns : ∀ {α : Type} (order : α → α → Ordering) [TransCmp order]
    {compare : α → α → Machine Ordering} {items : List α},
    (∀ left ∈ items, ∀ right ∈ items, compare left right = .ok (order left right)) →
    ∃ sorted, sortUnstableBy compare items = .ok sorted ∧
      sorted.Pairwise (fun earlier later => (order earlier later).isLE)

namespace Sorter

variable {α : Type}

/-- What a sorter makes of a comparator that always returns. -/
def sorted (sorter : Sorter) (order : α → α → Ordering) (items : List α) : List α :=
  match sorter.sortUnstableBy (fun left right => .ok (order left right)) items with
  | .ok sorted => sorted
  | .error _ => items

/-- With comparisons that never fail the items come in the order of the comparator. -/
theorem sortUnstableBy_eq (sorter : Sorter) (order : α → α → Ordering) [TransCmp order]
    (items : List α) :
    sorter.sortUnstableBy (fun left right => .ok (order left right)) items =
      .ok (sorter.sorted order items) := by
  obtain ⟨sorted, returned, _⟩ :=
    @Sorter.returns sorter α order _ _ items (fun _ _ _ _ => rfl)
  rw [Sorter.sorted, returned]

/-- A list and a rearrangement of it are sorted alike, where all comparisons return
and tell the items apart. -/
theorem sortUnstableBy_perm (sorter : Sorter) (order : α → α → Ordering) [TransCmp order]
    {compare : α → α → Machine Ordering} {items items' : List α} (perm : items.Perm items')
    (agrees : ∀ left ∈ items, ∀ right ∈ items, compare left right = .ok (order left right))
    (separated : ∀ left ∈ items, ∀ right ∈ items, order left right = .eq → left = right) :
    sorter.sortUnstableBy compare items = sorter.sortUnstableBy compare items' := by
  obtain ⟨sorted, returned, inOrder⟩ := @Sorter.returns sorter α order _ compare items agrees
  obtain ⟨sorted', returned', inOrder'⟩ := @Sorter.returns sorter α order _ compare items'
    (fun left inLeft right inRight =>
      agrees left (perm.mem_iff.mpr inLeft) right (perm.mem_iff.mpr inRight))
  have rearranged := sorter.rearranges returned
  have perm' := (rearranged.trans perm).trans (sorter.rearranges returned').symm
  rw [returned, returned', eq_of_ordered_perm perm' inOrder inOrder' (fun left inLeft right inRight =>
    separated left (rearranged.mem_iff.mp inLeft) right (rearranged.mem_iff.mp inRight))]

/-- Every item of a list of several gets compared: a sorter that is thorough does not
return where one of them cannot be. -/
def Thorough (sorter : Sorter) : Prop :=
  ∀ {α : Type} {compare : α → α → Machine Ordering} {items : List α} {item : α},
    item ∈ items → 2 ≤ items.length →
    (∀ other, ¬Completes (compare item other) ∧ ¬Completes (compare other item)) →
    ¬Completes (sorter.sortUnstableBy compare items)

end Sorter

section Insertion

variable {α : Type}

/-- Puts an item before the first one it is not greater than. -/
def insertBy (compare : α → α → Machine Ordering) (item : α) : List α → Machine (List α)
  | [] => return [item]
  | head :: rest => do
      if (← compare item head).isLE then return item :: head :: rest
      else return head :: (← insertBy compare item rest)

/-- Insertion sort with a comparator that may fail. -/
def insertionSortBy (compare : α → α → Machine Ordering) : List α → Machine (List α)
  | [] => return []
  | item :: rest => do insertBy compare item (← insertionSortBy compare rest)

variable {compare : α → α → Machine Ordering}

/-- An insertion adds the item and loses none. -/
theorem insertBy_perm {item : α} {items inserted : List α}
    (returned : insertBy compare item items = .ok inserted) : inserted.Perm (item :: items) := by
  induction items generalizing inserted with
  | nil => exact Except.ok.inj returned ▸ .refl _
  | cons head rest hypothesis =>
    rw [insertBy, bind_eq_ok] at returned
    obtain ⟨ordering, _, returned⟩ := returned
    split at returned
    · exact Except.ok.inj returned ▸ .refl _
    · obtain ⟨tail, later, same⟩ := (bind_eq_ok _ _ _).mp returned
      rw [← Except.ok.inj same]
      exact ((hypothesis later).cons head).trans (.swap item head rest)

/-- The sorted list is a rearrangement. -/
theorem insertionSortBy_perm {items sorted : List α}
    (returned : insertionSortBy compare items = .ok sorted) : sorted.Perm items := by
  induction items generalizing sorted with
  | nil => exact Except.ok.inj returned ▸ .refl _
  | cons item rest hypothesis =>
    obtain ⟨tail, later, inserted⟩ := (bind_eq_ok _ _ _).mp returned
    exact (insertBy_perm inserted).trans ((hypothesis later).cons item)

variable {order : α → α → Ordering}

/-- Where the comparisons agree with an order, the insertion is the one by this order. -/
theorem insertBy_eq {item : α} {items : List α}
    (agrees : ∀ other ∈ items, compare item other = .ok (order item other)) :
    insertBy compare item items =
      .ok (items.orderedInsert (fun left right => (order left right).isLE) item) := by
  induction items with
  | nil => rfl
  | cons head rest hypothesis =>
    have later := hypothesis (fun other member => agrees other (List.mem_cons_of_mem head member))
    rw [insertBy, agrees head List.mem_cons_self, ok_bind, List.orderedInsert_cons]
    split
    · rfl
    · rw [later]
      rfl

/-- So is the whole sort. -/
theorem insertionSortBy_eq {items : List α}
    (agrees : ∀ left ∈ items, ∀ right ∈ items, compare left right = .ok (order left right)) :
    insertionSortBy compare items =
      .ok (items.insertionSort (fun left right => (order left right).isLE)) := by
  induction items with
  | nil => rfl
  | cons item rest hypothesis =>
    have later := hypothesis (fun left inLeft right inRight =>
      agrees left (List.mem_cons_of_mem item inLeft) right (List.mem_cons_of_mem item inRight))
    rw [insertionSortBy, later, ok_bind, List.insertionSort_cons]
    apply insertBy_eq
    intro other member
    apply agrees item List.mem_cons_self other
    exact List.mem_cons_of_mem item ((List.mem_insertionSort _).mp member)

/-- Insertion is one way to sort. -/
def insertion : Sorter where
  sortUnstableBy := insertionSortBy
  rearranges := insertionSortBy_perm
  returns := by
    intro α order ordered compare items agrees
    refine ⟨_, insertionSortBy_eq agrees, ?_⟩
    have total : Std.Total (fun left right => (order left right).isLE = true) := by
      refine ⟨fun left right => ?_⟩
      have either := @stable_total _ order _ left right
      exact (Bool.or_eq_true _ _).mp either
    have transitive : IsTrans α (fun left right => (order left right).isLE = true) :=
      ⟨fun _ _ _ => TransCmp.isLE_trans⟩
    exact List.pairwise_insertionSort _ items

/-- What is inserted is compared with the first item there is. -/
theorem insertBy_compares {item head : α} {rest inserted : List α}
    (returned : insertBy compare item (head :: rest) = .ok inserted) :
    Completes (compare item head) := by
  obtain ⟨ordering, answered, _⟩ := (bind_eq_ok _ _ _).mp returned
  exact ⟨ordering, answered⟩

/-- The last item of two or more is compared when the one before it is inserted, and
every other one when it is inserted itself. -/
theorem insertion_thorough : insertion.Thorough := by
  intro α compare items item among several unordered
  rintro ⟨sorted, returned⟩
  change insertionSortBy compare items = .ok sorted at returned
  induction items generalizing sorted with
  | nil => cases among
  | cons first rest hypothesis =>
    obtain ⟨tail, later, inserted⟩ := (bind_eq_ok _ _ _).mp returned
    have arranged := insertionSortBy_perm later
    rcases List.mem_cons.mp among with rfl | deeper
    · -- its own insertion compares it with the head of the sorted rest
      cases tail with
      | nil =>
        rw [List.length_cons, ← arranged.length_eq, List.length_nil] at several
        omega
      | cons head others => exact (unordered head).1 (insertBy_compares inserted)
    · by_cases alone : rest.length < 2
      · obtain rfl : rest = [item] := by
          match rest, deeper with
          | [only], deeper => rw [List.mem_singleton.mp deeper]
          | _ :: _ :: _, _ => simp only [List.length_cons] at alone; omega
        rw [List.perm_singleton.mp arranged] at inserted
        exact (unordered first).2 (insertBy_compares inserted)
      · exact hypothesis deeper (by omega) tail later

end Insertion

end Kit.Sorting
