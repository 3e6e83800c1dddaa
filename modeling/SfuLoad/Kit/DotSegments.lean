import SfuLoad.Kit.Lines

/-!
# Dot segments of a path

Before a browser asks for a path it takes the dot segments out: a single dot goes, and
a double dot takes the segment before it along. Either dot may be written with its
percent code. A path is left as it is exactly when it has no such segment.
-/

namespace Kit.DotSegments

open Kit.Lines

/-- The spellings of a single dot. -/
def singleDots : List Text := [['.'], ['%', '2', 'e'], ['%', '2', 'E']]

/-- The spellings of a double dot: any two single dots. -/
def doubleDots : List Text := singleDots.flatMap (fun first => singleDots.map (first ++ ·))

/-- The segment is taken out when a path is resolved. -/
def isDot (segment : Text) : Bool := singleDots.contains segment || doubleDots.contains segment

/-- What is left of the segments of a path behind those that are kept. A dot at the end
leaves an empty segment, so that the path still ends in a stroke. -/
def removeFrom (kept : List Text) : List Text → List Text
  | [] => kept
  | segment :: rest =>
    let kept :=
      if doubleDots.contains segment then kept.dropLast
      else if singleDots.contains segment then kept
      else kept ++ [segment]
    removeFrom (if isDot segment && rest.isEmpty then kept ++ [[]] else kept) rest

/-- The segments of a path that are left when the dot segments are taken out. -/
def remove (segments : List Text) : List Text := removeFrom [] segments

/-- The dots as they are written in plain. -/
theorem isDot_iff {segment : Text} (plain : '%' ∉ segment) :
    isDot segment = true ↔ segment = ['.'] ∨ segment = ['.', '.'] := by
  have coded : ∀ dot ∈ singleDots ++ doubleDots, dot = ['.'] ∨ dot = ['.', '.'] ∨ '%' ∈ dot := by
    decide
  simp only [isDot, Bool.or_eq_true, List.contains_iff_mem, ← List.mem_append]
  constructor
  · intro member
    rcases coded segment member with single | double | percent
    · exact Or.inl single
    · exact Or.inr double
    · exact absurd percent plain
  · rintro (rfl | rfl) <;> decide

/-- Without a dot segment every segment is kept, behind those kept before. -/
theorem removeFrom_plain (kept : List Text) {segments : List Text}
    (plain : ∀ segment ∈ segments, isDot segment = false) :
    removeFrom kept segments = kept ++ segments := by
  induction segments generalizing kept with
  | nil => rw [removeFrom, List.append_nil]
  | cons segment rest inductionHypothesis =>
    have first := plain segment List.mem_cons_self
    have apart := Bool.or_eq_false_iff.mp first
    rw [removeFrom, apart.1, apart.2, first, Bool.false_and]
    simp only [Bool.false_eq_true, if_false]
    rw [inductionHypothesis _ (fun other member => plain other (List.mem_cons_of_mem _ member)),
      List.append_assoc, List.singleton_append]

/-- No dot is left. -/
theorem removeFrom_clean {kept : List Text} (clean : ∀ segment ∈ kept, isDot segment = false)
    (segments : List Text) : ∀ segment ∈ removeFrom kept segments, isDot segment = false := by
  induction segments generalizing kept with
  | nil => exact clean
  | cons segment rest inductionHypothesis =>
    rw [removeFrom]
    refine inductionHypothesis (fun other member => ?_)
    have before : other = [] ∨ other ∈ (if doubleDots.contains segment = true then kept.dropLast
        else if singleDots.contains segment = true then kept else kept ++ [segment]) := by
      split at member
      · rcases List.mem_append.mp member with earlier | last
        · exact Or.inr earlier
        · exact Or.inl (List.mem_singleton.mp last)
      · exact Or.inr member
    rcases before with rfl | before
    · decide
    · split at before
      · exact clean other (List.dropLast_subset _ before)
      · split at before
        · exact clean other before
        · next notDouble notSingle =>
          rcases List.mem_append.mp before with earlier | last
          · exact clean other earlier
          · rw [List.mem_singleton.mp last, isDot, Bool.or_eq_false_iff]
            exact ⟨eq_false_of_ne_true notSingle, eq_false_of_ne_true notDouble⟩

/-- Removing dot segments changes nothing just where there are none. -/
theorem remove_eq_self_iff {segments : List Text} :
    remove segments = segments ↔ ∀ segment ∈ segments, isDot segment = false := by
  constructor
  · intro same
    rw [← same]
    exact removeFrom_clean (by simp) segments
  · intro plain
    exact removeFrom_plain [] plain

end Kit.DotSegments
