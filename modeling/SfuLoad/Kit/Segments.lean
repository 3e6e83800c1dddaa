import Mathlib.Data.List.Basic
import Mathlib.Data.List.Range

/-!
# Runs of present values

In a list of optional values the present ones form maximal runs. Two positions are
connected when nothing between them is missing; the positions connected to one of
a run's are the run's own, and those within a distance of it form an interval.
-/

namespace Kit.Segments

variable {α : Type*} {values : List (Option α)}

/-- There is a value at a position. -/
def present (values : List (Option α)) (index : Nat) : Bool := values[index]?.join.isSome

/-- No position between two is without a value, both included. -/
def connected (values : List (Option α)) (first second : Nat) : Bool :=
  (List.range' (min first second) (max first second + 1 - min first second)).all (present values)

/-- The positions within a distance that are connected to a position. -/
def window (values : List (Option α)) (radius index : Nat) : List Nat :=
  (List.range values.length).filter (fun other =>
    index ≤ other + radius && other ≤ index + radius && connected values index other)

/-- The values of a window, in order. -/
def windowValues (values : List (Option α)) (radius index : Nat) : List α :=
  (window values radius index).filterMap (fun other => values[other]?.join)

/-- A maximal run of values from a position on. -/
structure Run (values : List (Option α)) (start : Nat) (run : List α) : Prop where
  nonempty : run ≠ []
  located : ∀ index (inside : index < run.length),
    values[start + index]? = some (some run[index])
  before : start = 0 ∨ present values (start - 1) = false
  after : present values (start + run.length) = false

/-- Two positions are connected when everything between them, and they themselves, are
present. -/
theorem connected_iff {first second : Nat} : connected values first second = true ↔
    ∀ index, min first second ≤ index → index ≤ max first second →
      present values index = true := by
  simp only [connected, List.all_eq_true, List.mem_range'_1]
  constructor
  · intro each index low high
    exact each index ⟨low, by omega⟩
  · intro each index bounds
    exact each index bounds.1 (by omega)

/-- The positions of an interval, picked out of all positions, in order. -/
theorem filter_range {low high count : Nat} (ordered : low ≤ high) (inside : high ≤ count) :
    (List.range count).filter (fun index => low ≤ index && index < high) =
      List.range' low (high - low) := by
  have parts : List.range count =
      List.range' 0 low ++ (List.range' low (high - low) ++ List.range' high (count - high)) := by
    have upper : List.range' low (high - low) ++ List.range' (low + (high - low)) (count - high) =
      List.range' low (high - low + (count - high)) := List.range'_append_1
    have whole : List.range' 0 low ++ List.range' (0 + low) (count - low) =
      List.range' 0 (low + (count - low)) := List.range'_append_1
    rw [Nat.add_sub_cancel' ordered] at upper
    rw [Nat.zero_add] at whole
    rw [upper, List.range_eq_range', show high - low + (count - high) = count - low by omega, whole,
      Nat.add_sub_cancel' (by omega)]
  have below : (List.range' 0 low).filter (fun index => low ≤ index && index < high) = [] :=
    List.filter_eq_nil_iff.mpr (fun index member => by
      have bounds := List.mem_range'_1.mp member
      simp only [Bool.and_eq_true, decide_eq_true_eq]
      omega)
  have above : (List.range' high (count - high)).filter
      (fun index => low ≤ index && index < high) = [] :=
    List.filter_eq_nil_iff.mpr (fun index member => by
      have bounds := List.mem_range'_1.mp member
      simp only [Bool.and_eq_true, decide_eq_true_eq]
      omega)
  have middle : (List.range' low (high - low)).filter
      (fun index => low ≤ index && index < high) = List.range' low (high - low) :=
    List.filter_eq_self.mpr (fun index member => by
      have bounds := List.mem_range'_1.mp member
      simp only [Bool.and_eq_true, decide_eq_true_eq]
      omega)
  rw [parts, List.filter_append, List.filter_append, below, above, middle, List.nil_append,
    List.append_nil]

section
variable {start : Nat} {run : List α} (maximal : Run values start run)
include maximal

/-- What lies in a run is present. -/
theorem Run.present {index : Nat} (inside : index < run.length) :
    present values (start + index) = true := by
  rw [Segments.present, maximal.located index inside]
  rfl

/-- Nothing outside a run is connected to it. -/
theorem Run.connected_iff {index : Nat} (inside : index < run.length) (other : Nat) :
    connected values (start + index) other = true ↔
      start ≤ other ∧ other < start + run.length := by
  rw [Segments.connected_iff]
  constructor
  · intro joined
    constructor
    · by_contra early
      rcases maximal.before with first | gap
      · omega
      · rw [joined (start - 1) (by omega) (by omega)] at gap
        cases gap
    · by_contra late
      have gap := maximal.after
      rw [joined (start + run.length) (by omega) (by omega)] at gap
      cases gap
  · rintro ⟨low, high⟩ position above below
    have position_inside : position - start < run.length := by omega
    have there := maximal.present position_inside
    rwa [Nat.add_sub_cancel' (by omega)] at there

/-- A run lies inside the list. -/
theorem Run.length_le : start + run.length ≤ values.length := by
  have some := List.length_pos_iff.mpr maximal.nonempty
  have last := maximal.located (run.length - 1) (by omega)
  have inside := (List.getElem?_eq_some_iff.mp last).1
  omega

/-- A window in a run is an interval of the run. -/
theorem Run.window_eq {index : Nat} (inside : index < run.length) (radius : Nat) :
    window values radius (start + index) = List.range' (start + (index - radius))
      (min (index + radius + 1) run.length - (index - radius)) := by
  have whole := maximal.length_le
  have test (other : Nat) : (decide (start + index ≤ other + radius) &&
      decide (other ≤ start + index + radius) && connected values (start + index) other) =
        (decide (start + (index - radius) ≤ other) &&
          decide (other < start + min (index + radius + 1) run.length)) := by
    rw [Bool.eq_iff_iff]
    simp only [Bool.and_eq_true, decide_eq_true_eq, maximal.connected_iff inside]
    omega
  simp only [window, test]
  rw [filter_range (by omega) (by omega)]
  congr 1
  omega

/-- The values of a window in a run are consecutive ones of the run. -/
theorem Run.windowValues_eq {index : Nat} (inside : index < run.length) (radius : Nat) :
    windowValues values radius (start + index) = (run.drop (index - radius)).take
      (min (index + radius + 1) run.length - (index - radius)) := by
  rw [windowValues, maximal.window_eq inside]
  have reads (skipped count : Nat) (fits : skipped + count ≤ run.length) :
      (List.range' (start + skipped) count).filterMap (fun other => values[other]?.join) =
        (run.drop skipped).take count := by
    induction count generalizing skipped with
    | zero => simp
    | succ count inductionHypothesis =>
      have located := maximal.located skipped (by omega)
      rw [List.range'_succ, List.filterMap_cons, located, List.drop_eq_getElem_cons (by omega),
        List.take_succ_cons]
      exact congrArg _ (inductionHypothesis (skipped + 1) (by omega))
  exact reads _ _ (by omega)

end

section
variable {β : Type*} {place : Nat → Nat} {written : α → Nat → β}

/-- Writing a value for each item at consecutive places. -/
def write (place : Nat → Nat) (written : α → Nat → β) (items : List α) (start : Nat)
    (output : List β) : List β :=
  (items.zipIdx start).foldl
    (fun output item => output.set (place item.2) (written item.1 item.2)) output

/-- The first item is written to its place, then the others to theirs. -/
theorem write_cons (item : α) (items : List α) (start : Nat) (output : List β) :
    write place written (item :: items) start output =
      write place written items (start + 1) (output.set (place start) (written item start)) := rfl

/-- Writing into a list keeps its length. -/
@[simp] theorem write_length (items : List α) (start : Nat) (output : List β) :
    (write place written items start output).length = output.length := by
  induction items generalizing start output with
  | nil => rfl
  | cons item rest inductionHypothesis =>
    rw [write_cons, inductionHypothesis, List.length_set]

/-- All there is afterwards was there or has been written. -/
theorem mem_write {items : List α} {start : Nat} {output : List β} {value : β}
    (member : value ∈ write place written items start output) :
    value ∈ output ∨ ∃ item ∈ items, ∃ index, value = written item index := by
  induction items generalizing start output with
  | nil => exact Or.inl member
  | cons item rest inductionHypothesis =>
    rw [write_cons] at member
    rcases inductionHypothesis member with kept | ⟨other, among, index, same⟩
    · rcases List.mem_or_eq_of_mem_set kept with before | here
      · exact Or.inl before
      · exact Or.inr ⟨item, by simp, start, here⟩
    · exact Or.inr ⟨other, by simp [among], index, same⟩

/-- Places no item is written at keep what they hold. -/
theorem write_outside {items : List α} {start position : Nat} (output : List β)
    (outside : ∀ index < items.length, place (start + index) ≠ position) :
    (write place written items start output)[position]? = output[position]? := by
  induction items generalizing start output with
  | nil => rfl
  | cons item rest inductionHypothesis =>
    rw [write_cons, inductionHypothesis]
    · exact List.getElem?_set_ne (outside 0 (Nat.succ_pos _))
    · intro index inside
      have later := outside (index + 1) (Nat.succ_lt_succ inside)
      rwa [show start + (index + 1) = start + 1 + index by omega] at later

/-- An item is found at its place. -/
theorem write_inside {items : List α} {start index : Nat} (output : List β)
    (inside : index < items.length) (room : place (start + index) < output.length)
    (apart : ∀ first second, first < second → second < items.length →
      place (start + first) ≠ place (start + second)) :
    (write place written items start output)[place (start + index)]? =
      some (written items[index] (start + index)) := by
  induction items generalizing start index output with
  | nil => exact absurd inside (Nat.not_lt_zero _)
  | cons item rest inductionHypothesis =>
    have shift (position : Nat) : start + (position + 1) = start + 1 + position := by omega
    rw [write_cons]
    cases index with
    | zero =>
      rw [write_outside, List.getElem_cons_zero]
      · exact List.getElem?_set_self room
      · intro later within
        rw [← shift]
        exact (apart 0 (later + 1) (Nat.succ_pos _) (Nat.succ_lt_succ within)).symm
    | succ index =>
      rw [shift index] at room ⊢
      refine inductionHypothesis _ (Nat.lt_of_succ_lt_succ inside) ?_ ?_
      · rwa [List.length_set]
      · intro first second ordered within
        rw [← shift, ← shift]
        exact apart _ _ (Nat.succ_lt_succ ordered) (Nat.succ_lt_succ within)

end

end Kit.Segments
