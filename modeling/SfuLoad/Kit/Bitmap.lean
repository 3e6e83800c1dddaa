import Mathlib.Algebra.Ring.Nat
import Mathlib.Data.List.Basic
import Mathlib.Data.List.Count

/-!
# Bitmaps with a cursor at their first gap

A bitmap records which positions have been marked. Its cursor is the length of
the longest all-true prefix. Marking a position can only lengthen that prefix,
so a cursor that was exact before a mark catches up by walking forward over
marked positions until it meets a gap or the end.
-/

namespace Kit.Bitmap

/-- Length of the longest all-true prefix. -/
def truePrefix (bits : List Bool) : Nat := (bits.takeWhile id).length

/-- Walk forward over marked positions. Fuel bounds the number of moves; the
number of positions is always enough. -/
def catchUp : Nat → List Bool → Nat → Nat
  | 0, _, cursor => cursor
  | fuel + 1, bits, cursor =>
      if bits[cursor]? = some true then catchUp fuel bits (cursor + 1) else cursor

/-- The marked prefix is part of the bitmap. -/
theorem truePrefix_le_length (bits : List Bool) : truePrefix bits ≤ bits.length :=
  (List.takeWhile_sublist id).length_le

/-- The prefix length is the only position with marks below and a gap at it. -/
theorem truePrefix_eq_iff (bits : List Bool) (cursor : Nat) :
    truePrefix bits = cursor ↔
      (∀ position < cursor, bits[position]? = some true) ∧ bits[cursor]? ≠ some true := by
  induction bits generalizing cursor with
  | nil =>
    constructor
    · rintro rfl
      simp [truePrefix]
    · rintro ⟨marked, _⟩
      cases cursor with
      | zero => rfl
      | succ cursor => simpa using marked 0 (Nat.succ_pos cursor)
  | cons bit rest inductionHypothesis =>
    cases bit with
    | false =>
      constructor
      · rintro rfl
        simp [truePrefix]
      · rintro ⟨marked, _⟩
        cases cursor with
        | zero => rfl
        | succ cursor => simpa using marked 0 (Nat.succ_pos cursor)
    | true =>
      have shifted : truePrefix (true :: rest) = truePrefix rest + 1 := by simp [truePrefix]
      rw [shifted]
      cases cursor with
      | zero => simp
      | succ cursor =>
        rw [Nat.add_right_cancel_iff, inductionHypothesis, List.getElem?_cons_succ]
        constructor
        · rintro ⟨marked, gap⟩
          refine ⟨?_, gap⟩
          intro position before
          cases position with
          | zero => rfl
          | succ position => exact marked position (Nat.lt_of_succ_lt_succ before)
        · rintro ⟨marked, gap⟩
          refine ⟨?_, gap⟩
          intro position before
          exact marked (position + 1) (Nat.succ_lt_succ before)

/-- What lies before the first gap is marked. -/
theorem marked_before_gap {bits : List Bool} {position : Nat}
    (below : position < truePrefix bits) : bits[position]? = some true :=
  ((truePrefix_eq_iff bits _).mp rfl).1 position below

/-- The position behind the marked prefix is not marked: it is a gap or the end. -/
theorem gap_at_prefix (bits : List Bool) : bits[truePrefix bits]? ≠ some true :=
  ((truePrefix_eq_iff bits _).mp rfl).2

/-- Positions below a cursor all marked put the cursor inside the prefix. -/
theorem le_truePrefix {bits : List Bool} {cursor : Nat}
    (marked : ∀ position < cursor, bits[position]? = some true) : cursor ≤ truePrefix bits := by
  by_contra beyond
  exact gap_at_prefix bits (marked _ (Nat.lt_of_not_ge beyond))

/-- Enough fuel brings a cursor that is not past the first gap exactly to it. -/
theorem catchUp_exact (fuel : Nat) (bits : List Bool) (cursor : Nat)
    (behind : cursor ≤ truePrefix bits) (enough : truePrefix bits ≤ cursor + fuel) :
    catchUp fuel bits cursor = truePrefix bits := by
  induction fuel generalizing cursor with
  | zero =>
    rw [catchUp]
    omega
  | succ fuel inductionHypothesis =>
    rw [catchUp]
    by_cases marked : bits[cursor]? = some true
    · have ahead : cursor ≠ truePrefix bits := by
        rintro rfl
        exact gap_at_prefix bits marked
      rw [if_pos marked]
      exact inductionHypothesis (cursor + 1) (by omega) (by omega)
    · have reached : ¬ cursor < truePrefix bits := fun below => marked (marked_before_gap below)
      rw [if_neg marked]
      omega

/-- A marked bitmap reads true at the marked position and is unchanged elsewhere. -/
theorem getElem?_mark (bits : List Bool) (position tested : Nat) :
    (bits.set position true)[tested]? =
      if tested < bits.length then some (decide (tested = position) || bits[tested]?.getD false)
      else none := by
  by_cases inside : tested < bits.length
  · by_cases same : tested = position
    · subst same
      simp [inside]
    · rw [List.getElem?_set_ne (Ne.symm same)]
      simp [inside, same]
  · simp [inside]

/-- Marking never clears a mark. -/
theorem marked_of_marked {bits : List Bool} {tested : Nat} (position : Nat)
    (marked : bits[tested]? = some true) : (bits.set position true)[tested]? = some true := by
  have inside : tested < bits.length := (List.getElem?_eq_some_iff.mp marked).1
  rw [getElem?_mark, if_pos inside, marked]
  simp

/-- Marking never moves the first gap backwards. -/
theorem truePrefix_le_mark (bits : List Bool) (position : Nat) :
    truePrefix bits ≤ truePrefix (bits.set position true) := by
  apply le_truePrefix
  intro tested below
  exact marked_of_marked position (marked_before_gap below)

/-- Marking a gap adds one to the number of marks. -/
theorem count_mark {bits : List Bool} {position : Nat} (gap : bits[position]? = some false) :
    (bits.set position true).count true = bits.count true + 1 := by
  obtain ⟨inside, unmarked⟩ := List.getElem?_eq_some_iff.mp gap
  rw [List.count_set inside, unmarked]
  simp

/-- Marks and gaps together fill the bitmap. -/
theorem marks_and_gaps (bits : List Bool) : bits.count true + bits.count false = bits.length := by
  induction bits with
  | nil => rfl
  | cons bit rest inductionHypothesis =>
    rw [List.count_cons, List.count_cons, List.length_cons]
    cases bit <;> simp <;> omega

/-- The first gap is the end exactly when there is no gap. -/
theorem truePrefix_eq_length_iff (bits : List Bool) :
    truePrefix bits = bits.length ↔ bits.count false = 0 := by
  rw [List.count_eq_zero]
  constructor
  · intro full member
    obtain ⟨position, inside, unmarked⟩ := List.getElem_of_mem member
    have marked : bits[position]? = some true := marked_before_gap (full ▸ inside)
    rw [List.getElem?_eq_getElem inside, unmarked] at marked
    simp at marked
  · intro absent
    have full : bits.length ≤ truePrefix bits := by
      apply le_truePrefix
      intro position inside
      cases bit : bits[position] with
      | true => rw [List.getElem?_eq_getElem inside, bit]
      | false => exact absurd (bit ▸ List.getElem_mem inside) absent
    exact Nat.le_antisymm (truePrefix_le_length bits) full

/-- A fresh bitmap has no marks, and its first gap is the start. -/
@[simp] theorem truePrefix_replicate_false (size : Nat) :
    truePrefix (List.replicate size false) = 0 := by
  cases size <;> simp [truePrefix, List.replicate_succ]

/-- Replacing one entry of a list changes a total by that entry's share. -/
theorem sum_map_set {α : Type} (share : α → Nat) {entries : List α} {index : Nat} {before : α}
    (after : α) (located : entries[index]? = some before) :
    ((entries.set index after).map share).sum + share before =
      (entries.map share).sum + share after := by
  induction entries generalizing index with
  | nil => simp at located
  | cons entry rest inductionHypothesis =>
    cases index with
    | zero =>
      obtain rfl := Option.some.inj located
      simp only [List.set_cons_zero, List.map_cons, List.sum_cons]
      omega
    | succ index =>
      have moved := inductionHypothesis located
      simp only [List.set_cons_succ, List.map_cons, List.sum_cons]
      omega

end Kit.Bitmap
