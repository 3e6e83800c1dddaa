import Mathlib.Data.Finset.Card
import Mathlib.Data.Finset.Dedup
import Mathlib.Data.List.Perm.Basic

/-!
# Numbered arrivals on independent lanes

Several senders number their items 0, 1, 2, … on lanes of their own, and one
receiver sees all arrivals interleaved. A lane is the subsequence of its own
numbers. Two accounts of a history are kept apart here: which distinct items
arrived, which no reordering changes, and whether every lane counted up from
zero without a gap or a repeat, which is a property of the order.
-/

namespace Kit.Arrivals

universe u
variable {κ : Type u} [DecidableEq κ]

/-- The numbers that arrived on one lane, in arrival order. -/
def lane (arrivals : List (κ × Nat)) (key : κ) : List Nat :=
  (arrivals.filter (fun arrival => arrival.1 = key)).map Prod.snd

/-- How many different items arrived. -/
def distinct (arrivals : List (κ × Nat)) : Nat := arrivals.toFinset.card

/-- Every lane counts 0, 1, 2, … with neither gap nor repeat. -/
def InOrder (arrivals : List (κ × Nat)) : Prop :=
  ∀ key, lane arrivals key = List.range (lane arrivals key).length

/-- Nothing has arrived on any lane of an empty history. -/
@[simp] theorem lane_nil (key : κ) : lane ([] : List (κ × Nat)) key = [] := rfl

/-- The lanes of two histories, one after the other, are put together lane by lane. -/
theorem lane_append (first second : List (κ × Nat)) (key : κ) :
    lane (first ++ second) key = lane first key ++ lane second key := by
  simp [lane]

/-- One arrival is on its own lane and on no other. -/
theorem lane_single (arrival : κ × Nat) (key : κ) :
    lane [arrival] key = if arrival.1 = key then [arrival.2] else [] := by
  by_cases same : arrival.1 = key <;> simp [lane, same]

/-- A number is on a lane exactly when it has arrived under the lane's key. -/
theorem mem_lane (arrivals : List (κ × Nat)) (key : κ) (number : Nat) :
    number ∈ lane arrivals key ↔ (key, number) ∈ arrivals := by
  simp [lane]

/-- No item arrives more often than everything together. -/
theorem distinct_le_length (arrivals : List (κ × Nat)) : distinct arrivals ≤ arrivals.length :=
  List.toFinset_card_le arrivals

/-- Reordering a history does not change which items it contains. -/
theorem distinct_perm {first second : List (κ × Nat)} (same : first.Perm second) :
    distinct first = distinct second := by
  rw [distinct, distinct, List.toFinset_eq_of_perm _ _ same]

/-- An arrival that was not there before counts once more. -/
theorem distinct_append_new {arrivals : List (κ × Nat)} {arrival : κ × Nat}
    (new : arrival ∉ arrivals) : distinct (arrivals ++ [arrival]) = distinct arrivals + 1 := by
  have absent : arrival ∉ arrivals.toFinset := by simpa using new
  rw [distinct, List.toFinset_append, List.toFinset_cons, List.toFinset_nil,
    Finset.union_insert, Finset.union_empty, Finset.card_insert_of_notMem absent, distinct]

/-- An arrival that was there before leaves the count as it is. -/
theorem distinct_append_old {arrivals : List (κ × Nat)} {arrival : κ × Nat}
    (old : arrival ∈ arrivals) : distinct (arrivals ++ [arrival]) = distinct arrivals := by
  have present : arrival ∈ arrivals.toFinset := by simpa using old
  rw [distinct, List.toFinset_append, List.toFinset_cons, List.toFinset_nil,
    Finset.union_insert, Finset.union_empty, Finset.insert_eq_of_mem present, distinct]

/-- Appending to a counted-up list keeps it counted up exactly when the new
number is the next one. -/
theorem range_append_iff (numbers : List Nat) (number : Nat) :
    numbers ++ [number] = List.range (numbers ++ [number]).length ↔
      numbers = List.range numbers.length ∧ number = numbers.length := by
  rw [List.length_append, List.length_singleton, List.range_succ]
  constructor
  · intro counted
    obtain ⟨front, last⟩ := List.append_inj' counted rfl
    exact ⟨front, List.head_eq_of_cons_eq last⟩
  · rintro ⟨front, rfl⟩
    rw [← front]

/-- One more arrival keeps every lane in order exactly when it is the next number
of its own lane. Other lanes are untouched. -/
theorem inOrder_append_iff (arrivals : List (κ × Nat)) (arrival : κ × Nat) :
    InOrder (arrivals ++ [arrival]) ↔
      InOrder arrivals ∧ arrival.2 = (lane arrivals arrival.1).length := by
  simp only [InOrder, lane_append, lane_single]
  constructor
  · intro ordered
    have own := ordered arrival.1
    rw [if_pos rfl] at own
    obtain ⟨ownFront, next⟩ := (range_append_iff _ _).mp own
    refine ⟨?_, next⟩
    intro key
    by_cases same : arrival.1 = key
    · exact same ▸ ownFront
    · simpa [same] using ordered key
  · rintro ⟨ordered, next⟩ key
    by_cases same : arrival.1 = key
    · subst same
      rw [if_pos rfl]
      exact (range_append_iff _ _).mpr ⟨ordered arrival.1, next⟩
    · simpa [same] using ordered key

/-- The empty history is in order, which is where the induction over a history starts. -/
theorem inOrder_nil : InOrder ([] : List (κ × Nat)) := fun _ => rfl

/-- On a counted-up lane the numbers seen are exactly those below its length. -/
theorem mem_of_inOrder {arrivals : List (κ × Nat)} (ordered : InOrder arrivals) (key : κ)
    (number : Nat) : (key, number) ∈ arrivals ↔ number < (lane arrivals key).length := by
  rw [← mem_lane, ordered key, List.mem_range, List.length_range]

end Kit.Arrivals
