import SfuLoad.Kit.Averages
import SfuLoad.Kit.Segments
import SfuLoad.Report.Fanout
import SfuLoad.Report.Summary

/-!
# The moving average of a smoothed line

The values are first split into their runs. A scanning offset then finds each run
again in the values, and every point of the run is replaced by the mean of the
points of the run within a radius. A run found again is the one that was split
off, so a point's mean is over its own surroundings and never across a gap.
-/

namespace SfuLoad.Report

open Kit.Averages Kit.Saturating Kit.Segments

/-- The segments of values after a segment that has been started. -/
def contiguousSegmentsFrom (current : List (UInt64 × UInt64)) :
    List Point → List (List (UInt64 × UInt64))
  | [] => if current.isEmpty then [] else [current]
  | some value :: rest => contiguousSegmentsFrom (current ++ [value]) rest
  | none :: rest =>
    if current.isEmpty then contiguousSegmentsFrom current rest
    else current :: contiguousSegmentsFrom [] rest

/-- The runs of values between the gaps. -/
def contiguousSegments (values : List Point) : List (List (UInt64 × UInt64)) :=
  contiguousSegmentsFrom [] values

/-- Move an offset over missing values. The position of a value is below the end
of its range, so the increment does not saturate. -/
def skipMissing (values : List Point) (offset : Nat) : Nat :=
  if values[offset]? = some none then skipMissing values (offset + 1) else offset
termination_by values.length - offset
decreasing_by
  have inside := (List.getElem?_eq_some_iff.mp ‹_›).1
  omega

/-- Sum and count of points, in 128 bits. -/
def windowTotals (points : List (UInt64 × UInt64)) : Nat × Nat :=
  points.foldl (fun totals point =>
    (min (totals.1 + point.2.toNat) wideLimit, totals.2 + 1)) (0, 0)

/-- The mean around a position of a segment. -/
def smoothedValue (segment : List (UInt64 × UInt64)) (radius index : Nat) : UInt64 :=
  let start := index - radius
  let stop := min (min (min (index + radius) limit + 1) limit) segment.length
  let totals := windowTotals ((segment.drop start).take (stop - start))
  clamped (totals.1 / max totals.2 1)

/-- One segment of the loop: find it, write its means, move past it. -/
def averageSegment (values : List Point) (radius : Nat) (progress : List Point × Nat)
    (segment : List (UInt64 × UInt64)) : List Point × Nat :=
  let offset := skipMissing values progress.2
  (write (fun index => min (offset + index) limit)
      (fun point index => some (point.1, smoothedValue segment radius index)) segment 0 progress.1,
    min (offset + segment.length) limit)

/-- The means, put in the places of their points; the rest stays a gap. -/
def movingAverage (values : List Point) (radius : Nat) : List Point :=
  ((contiguousSegments values).foldl (averageSegment values radius)
    (List.replicate values.length none, 0)).1

/-- The mean of points, rounded down. -/
def mean (points : List (UInt64 × UInt64)) : Nat :=
  (points.map (fun point => point.2.toNat)).sum / points.length

variable {values : List Point}

/-- A segment that has been started takes the values up to the first missing one. -/
theorem contiguousSegmentsFrom_started {current : List (UInt64 × UInt64)}
    (started : current ≠ []) (values : List Point) :
    ∃ more rest, values = more.map some ++ rest ∧ rest[0]?.join = none ∧
      contiguousSegmentsFrom current values = (current ++ more) :: contiguousSegments rest := by
  have nonempty : current.isEmpty = false := by simpa using started
  induction values generalizing current with
  | nil => exact ⟨[], [], rfl, rfl, by simp [contiguousSegments, contiguousSegmentsFrom, nonempty]⟩
  | cons value rest inductionHypothesis =>
    cases value with
    | none =>
      exact ⟨[], none :: rest, rfl, rfl,
        by simp [contiguousSegments, contiguousSegmentsFrom, nonempty]⟩
    | some value =>
      obtain ⟨more, rest, rfl, edge, split⟩ :=
        @inductionHypothesis (current ++ [value]) (by simp) (by simp)
      refine ⟨value :: more, rest, rfl, edge, ?_⟩
      rw [contiguousSegmentsFrom, split, List.append_assoc, List.singleton_append]

/-- The first segment follows missing values and ends at a missing one. -/
theorem contiguousSegments_cons {segment : List (UInt64 × UInt64)}
    {later : List (List (UInt64 × UInt64))}
    (split : contiguousSegments values = segment :: later) :
    ∃ missing rest, values = List.replicate missing none ++ (segment.map some ++ rest) ∧
      segment ≠ [] ∧ rest[0]?.join = none ∧ later = contiguousSegments rest := by
  induction values with
  | nil => simp [contiguousSegments, contiguousSegmentsFrom] at split
  | cons value rest inductionHypothesis =>
    cases value with
    | none =>
      obtain ⟨missing, after, rfl, parts⟩ := inductionHypothesis split
      exact ⟨missing + 1, after, rfl, parts⟩
    | some value =>
      obtain ⟨more, after, rfl, edge, first⟩ :=
        contiguousSegmentsFrom_started (List.cons_ne_nil value []) rest
      obtain ⟨rfl, rfl⟩ := List.cons.inj (first.symm.trans split)
      exact ⟨0, after, rfl, List.cons_ne_nil _ _, edge, rfl⟩

/-- Without segments there are no values. -/
theorem contiguousSegments_nil (split : contiguousSegments values = []) (index : Nat) :
    values[index]?.join = none := by
  induction values generalizing index with
  | nil => rfl
  | cons value rest inductionHypothesis =>
    cases value with
    | none =>
      cases index with
      | zero => rfl
      | succ index => exact inductionHypothesis split index
    | some value =>
      obtain ⟨more, after, _, _, first⟩ :=
        contiguousSegmentsFrom_started (List.cons_ne_nil value []) rest
      exact absurd (first.symm.trans split) (List.cons_ne_nil _ _)

/-- The offset moves over exactly the missing values before a present one. -/
theorem skipMissing_eq {offset missing : Nat} {rest : List Point}
    (shape : values.drop offset = List.replicate missing none ++ rest)
    (present : rest[0]? ≠ some none) : skipMissing values offset = offset + missing := by
  have here : values[offset]? = (List.replicate missing none ++ rest)[0]? := by
    rw [← shape, List.getElem?_drop, Nat.add_zero]
  induction missing generalizing offset with
  | zero =>
    rw [skipMissing, if_neg (by rwa [here])]
    rfl
  | succ missing inductionHypothesis =>
    have tail : values.drop (offset + 1) = List.replicate missing none ++ rest := by
      rw [← List.drop_drop, shape]
      rfl
    have next : values[offset + 1]? = (List.replicate missing none ++ rest)[0]? := by
      rw [← tail, List.getElem?_drop, Nat.add_zero]
    have absent : values[offset]? = some none := here
    rw [skipMissing, if_pos absent, inductionHypothesis tail next]
    omega

/-- Sums of at most as many points as a slice holds fit 128 bits. -/
theorem windowTotals_eq {points : List (UInt64 × UInt64)} (fits : points.length ≤ limit) :
    windowTotals points =
      ((points.map (fun point => point.2.toNat)).sum, points.length) := by
  have wide : limit * limit ≤ wideLimit := by decide
  have folded (points : List (UInt64 × UInt64)) (sum count : Nat)
      (small : sum ≤ count * limit) (few : count + points.length ≤ limit) :
      points.foldl (fun totals point =>
        (min (totals.1 + point.2.toNat) wideLimit, totals.2 + 1)) (sum, count) =
        (sum + (points.map (fun point => point.2.toNat)).sum, count + points.length) := by
    induction points generalizing sum count with
    | nil => rfl
    | cons point rest inductionHypothesis =>
      have bound := toNat_le_limit point.2
      have grown : sum + point.2.toNat ≤ (count + 1) * limit := by
        rw [Nat.add_one_mul]
        exact Nat.add_le_add small bound
      have inside : (count + 1) * limit ≤ limit * limit :=
        Nat.mul_le_mul_right limit (by simp only [List.length_cons] at few; omega)
      rw [List.foldl_cons, Nat.min_eq_left (grown.trans (inside.trans wide)),
        inductionHypothesis _ _ grown (by simp only [List.length_cons] at few; omega)]
      simp only [List.map_cons, List.sum_cons, List.length_cons]
      congr 1 <;> omega
  have whole := folded points 0 0 (Nat.zero_le _) (by omega)
  rwa [Nat.zero_add, Nat.zero_add] at whole

/-- The mean around a position of a segment is over its points within the radius. -/
theorem smoothedValue_toNat {segment : List (UInt64 × UInt64)} {index : Nat}
    (fits : segment.length ≤ limit) (inside : index < segment.length) (radius : Nat) :
    (smoothedValue segment radius index).toNat = mean ((segment.drop (index - radius)).take
      (min (index + radius + 1) segment.length - (index - radius))) := by
  have stop : min (min (min (index + radius) limit + 1) limit) segment.length =
      min (index + radius + 1) segment.length := by
    omega
  let points := (segment.drop (index - radius)).take
    (min (index + radius + 1) segment.length - (index - radius))
  have count : points.length =
      min (index + radius + 1) segment.length - (index - radius) := by
    simp only [points, List.length_take, List.length_drop]
    omega
  have nonempty : points ≠ [] := List.ne_nil_of_length_pos (by omega)
  have small : mean points ≤ limit := by
    obtain ⟨-, point, -, above⟩ := mean_between (fun point => point.2.toNat) nonempty
    exact above.trans (toNat_le_limit point.2)
  have totals : windowTotals points =
      ((points.map (fun point => point.2.toNat)).sum, points.length) :=
    windowTotals_eq (by omega)
  simp only [smoothedValue, stop]
  rw [clamped_toNat, totals, Nat.max_eq_left (by omega)]
  exact Nat.min_eq_left small

/-- What the loop has written when it has come to an offset. -/
structure Averaged (values : List Point) (radius : Nat) (output : List Point)
    (offset : Nat) : Prop where
  length : output.length = values.length
  inside : offset ≤ values.length
  edge : offset = 0 ∨ present values offset = false
  done : ∀ index < offset, ∀ elapsed value, values[index]? = some (some (elapsed, value)) →
    ∃ average, output[index]? = some (some (elapsed, average)) ∧
      average.toNat = mean (windowValues values radius index)
  missing : ∀ index < offset, values[index]? = some none → output[index]? = some none
  ahead : ∀ index, offset ≤ index → index < values.length → output[index]? = some none

/-- The next segment is the next run of the values, behind missing ones that the
offset moves over. -/
theorem contiguousSegments_run {offset : Nat} {segment : List (UInt64 × UInt64)}
    {later : List (List (UInt64 × UInt64))} (edge : offset = 0 ∨ present values offset = false)
    (split : contiguousSegments (values.drop offset) = segment :: later) :
    ∃ missing, skipMissing values offset = offset + missing ∧
      (∀ index < missing, values[offset + index]? = some none) ∧
      Run values (offset + missing) segment ∧
      contiguousSegments (values.drop (offset + missing + segment.length)) = later := by
  obtain ⟨missing, rest, shape, nonempty, cut, rfl⟩ := contiguousSegments_cons split
  have positive := List.length_pos_iff.mpr nonempty
  have absent (index : Nat) (inside : index < missing) : values[offset + index]? = some none := by
    rw [← List.getElem?_drop, shape, List.getElem?_append_left (by simpa using inside)]
    exact List.getElem?_replicate_of_lt inside
  have located (index : Nat) (inside : index < segment.length) :
      values[offset + missing + index]? = some (some segment[index]) := by
    rw [Nat.add_assoc, ← List.getElem?_drop, shape,
      List.getElem?_append_right (by simp), List.length_replicate, Nat.add_sub_cancel_left,
      List.getElem?_append_left (by simpa using inside), List.getElem?_map,
      List.getElem?_eq_getElem inside]
    rfl
  have behind : values.drop (offset + missing + segment.length) = rest := by
    rw [Nat.add_assoc, ← List.drop_drop, shape, ← List.append_assoc]
    exact List.drop_left' (by simp)
  refine ⟨missing, skipMissing_eq shape ?_, absent, ⟨nonempty, located, ?_, ?_⟩, by rw [behind]⟩
  · rw [List.getElem?_append_left (by simpa using positive), List.getElem?_map,
      List.getElem?_eq_getElem positive]
    simp
  · rcases Nat.eq_zero_or_pos missing with rfl | gaps
    · rcases edge with first | gap
      · exact Or.inl first
      · have first : values[offset]? = some (some segment[0]) := located 0 positive
        rw [present, first] at gap
        cases gap
    · have gap := absent (missing - 1) (by omega)
      rw [← Nat.add_sub_assoc gaps] at gap
      exact Or.inr (by rw [present, gap]; rfl)
  · have here := @List.getElem?_drop _ values (offset + missing + segment.length) 0
    rw [behind, Nat.add_zero] at here
    rw [present, ← here, cut]
    rfl

/-- One segment of the loop writes the means of the next run. -/
theorem averageSegment_step {output : List Point} {radius offset : Nat}
    {segment : List (UInt64 × UInt64)} {later : List (List (UInt64 × UInt64))}
    (fits : values.length ≤ limit) (averaged : Averaged values radius output offset)
    (split : contiguousSegments (values.drop offset) = segment :: later) :
    ∃ output' offset', averageSegment values radius (output, offset) segment = (output', offset') ∧
      Averaged values radius output' offset' ∧
      contiguousSegments (values.drop offset') = later := by
  obtain ⟨missing, found, absent, maximal, rest⟩ := contiguousSegments_run averaged.edge split
  have whole := maximal.length_le
  have placed (index : Nat) (inside : index < segment.length) :
      min (offset + missing + index) limit = offset + missing + index :=
    Nat.min_eq_left (by omega)
  let written := write (fun index => min (offset + missing + index) limit)
    (fun point index => some (point.1, smoothedValue segment radius index)) segment 0 output
  have kept (index : Nat) (inside : index < values.length)
      (outside : index < offset + missing ∨ offset + missing + segment.length ≤ index) :
      written[index]? = output[index]? := by
    refine write_outside output (fun position within => ?_)
    rw [Nat.zero_add, placed position within]
    omega
  have replaced (index : Nat) (inside : index < segment.length) :
      written[offset + missing + index]? =
        some (some (segment[index].1, smoothedValue segment radius index)) := by
    have there := @write_inside _ _ (fun index => min (offset + missing + index) limit)
      (fun point index => some (point.1, smoothedValue segment radius index)) _ 0 index output inside
    simp only [Nat.zero_add, placed index inside] at there
    refine there (by rw [averaged.length]; omega) (fun first second ordered within => ?_)
    rw [placed first (by omega), placed second within]
    omega
  have moved : averageSegment values radius (output, offset) segment =
      (written, offset + missing + segment.length) := by
    simp only [averageSegment, found]
    exact congrArg _ (Nat.min_eq_left (by omega))
  have reached (index : Nat) (before : index < offset + missing + segment.length) :
      index < offset ∨ (∃ gap < missing, index = offset + gap) ∨
        ∃ position < segment.length, index = offset + missing + position := by
    rcases Nat.lt_or_ge index offset with early | late
    · exact Or.inl early
    · rcases Nat.lt_or_ge index (offset + missing) with gap | run
      · exact Or.inr (Or.inl ⟨index - offset, by omega, by omega⟩)
      · exact Or.inr (Or.inr ⟨index - (offset + missing), by omega, by omega⟩)
  refine ⟨_, _, moved, ⟨?_, whole, Or.inr maximal.after, ?_, ?_, ?_⟩, rest⟩
  · rw [write_length, averaged.length]
  · intro index before elapsed value there
    rcases reached index before with early | ⟨gap, inside, rfl⟩ | ⟨position, inside, rfl⟩
    · rw [kept index (by omega) (Or.inl (by omega))]
      exact averaged.done index early elapsed value there
    · rw [absent gap inside] at there
      cases there
    · rw [maximal.located position inside] at there
      have same : segment[position] = (elapsed, value) := Option.some.inj (Option.some.inj there)
      refine ⟨smoothedValue segment radius position, ?_, ?_⟩
      · rw [replaced position inside, same]
      · rw [smoothedValue_toNat (by omega) inside, maximal.windowValues_eq inside]
  · intro index before there
    rcases reached index before with early | ⟨gap, inside, rfl⟩ | ⟨position, inside, rfl⟩
    · rw [kept index (by omega) (Or.inl (by omega))]
      exact averaged.missing index early there
    · rw [kept _ (by omega) (Or.inl (by omega))]
      exact averaged.ahead _ (by omega) (by omega)
    · rw [maximal.located position inside] at there
      cases there
  · intro index behind inside
    rw [kept index inside (Or.inr behind)]
    exact averaged.ahead index (by omega) inside

/-- The loop over the segments of what is left reaches the end of the values. -/
theorem averaged_run {output : List Point} {radius offset : Nat}
    (fits : values.length ≤ limit) (averaged : Averaged values radius output offset)
    {segments : List (List (UInt64 × UInt64))}
    (split : contiguousSegments (values.drop offset) = segments) :
    Averaged values radius (segments.foldl (averageSegment values radius) (output, offset)).1
      values.length := by
  induction segments generalizing output offset with
  | nil =>
    have gap (index : Nat) (behind : offset ≤ index) : values[index]?.join = none := by
      have there := contiguousSegments_nil split (index - offset)
      rwa [List.getElem?_drop, Nat.add_sub_cancel' behind] at there
    refine ⟨averaged.length, Nat.le_refl _, Or.inr ?_, ?_, ?_, ?_⟩
    · rw [present, gap _ averaged.inside]
      rfl
    · intro index inside elapsed value there
      refine averaged.done index (Nat.lt_of_not_le (fun behind => ?_)) elapsed value there
      have missing := gap index behind
      rw [there] at missing
      cases missing
    · intro index inside there
      rcases Nat.lt_or_ge index offset with early | late
      · exact averaged.missing index early there
      · exact averaged.ahead index late inside
    · intro index behind inside
      exact absurd inside (Nat.not_lt.mpr behind)
  | cons segment later inductionHypothesis =>
    obtain ⟨output', offset', moved, next, rest⟩ := averageSegment_step fits averaged split
    rw [List.foldl_cons, moved]
    exact inductionHypothesis next rest

/-- Averaging all runs puts each mean in its place; the invariant is carried over the runs,
with the offset behind the last one. -/
theorem movingAverage_averaged (fits : values.length ≤ limit) (radius : Nat) :
    Averaged values radius (movingAverage values radius) values.length := by
  refine averaged_run fits ⟨List.length_replicate, Nat.zero_le _, Or.inl rfl, ?_, ?_, ?_⟩ rfl
  · intro index before
    exact absurd before (Nat.not_lt_zero index)
  · intro index before
    exact absurd before (Nat.not_lt_zero index)
  · intro index _ inside
    exact List.getElem?_replicate_of_lt inside

/-- The moving average keeps the length and the gaps of a line and replaces each
value by the mean of the values within the radius that no gap separates from it,
rounded down. The mean lies between two of the values it is over. -/
theorem moving_average_windowed (values : List Point) (radius : Nat)
    (slice : values.length ≤ limit) :
    (movingAverage values radius).length = values.length ∧
      (∀ index : Nat,
        (movingAverage values radius)[index]? = some none ↔ values[index]? = some none) ∧
      ∀ (index : Nat) elapsed value, values[index]? = some (some (elapsed, value)) →
        ∃ average, (movingAverage values radius)[index]? = some (some (elapsed, average)) ∧
          average.toNat = mean (windowValues values radius index) ∧
          (∃ low ∈ windowValues values radius index, low.2 ≤ average) ∧
          ∃ high ∈ windowValues values radius index, average ≤ high.2 := by
  have averaged := movingAverage_averaged slice radius
  have replaced (index : Nat) (elapsed value : UInt64)
      (there : values[index]? = some (some (elapsed, value))) :=
    averaged.done index (List.getElem?_eq_some_iff.mp there).1 elapsed value there
  refine ⟨averaged.length, fun index => ⟨fun absent => ?_, fun absent => ?_⟩, ?_⟩
  · have inside := (List.getElem?_eq_some_iff.mp absent).1
    rw [averaged.length] at inside
    cases found : values[index] with
    | none => rw [List.getElem?_eq_getElem inside, found]
    | some point =>
      obtain ⟨average, written, -⟩ := replaced index point.1 point.2
        (by rw [List.getElem?_eq_getElem inside, found])
      rw [written] at absent
      cases absent
  · exact averaged.missing index (List.getElem?_eq_some_iff.mp absent).1 absent
  · intro index elapsed value there
    obtain ⟨average, written, exact_mean⟩ := replaced index elapsed value there
    have own : (elapsed, value) ∈ windowValues values radius index := by
      refine List.mem_filterMap.mpr ⟨index, ?_, by rw [there]; rfl⟩
      refine List.mem_filter.mpr ⟨List.mem_range.mpr (List.getElem?_eq_some_iff.mp there).1, ?_⟩
      have alone : connected values index index = true :=
        connected_iff.mpr (fun other low high => by
          obtain rfl : other = index := by omega
          rw [present, there]
          rfl)
      simp [alone]
    obtain ⟨⟨low, lowIn, below⟩, high, highIn, above⟩ :=
      mean_between (fun point : UInt64 × UInt64 => point.2.toNat) (List.ne_nil_of_mem own)
    refine ⟨average, written, exact_mean, ⟨low, lowIn, ?_⟩, high, highIn, ?_⟩
    · rw [UInt64.le_iff_toNat_le, exact_mean]
      exact below
    · rw [UInt64.le_iff_toNat_le, exact_mean]
      exact above

/-- A line that opens with a gap and has a wide one inside. -/
def gappedLine : List Point :=
  [none, some (1000, 10), some (2000, 21), none, none, some (5000, 5), some (6000, 8)]

/-- A radius wider than the line still averages each side of the gap alone. -/
theorem gappedLine_averaged :
    (movingAverage gappedLine 9)[2]? = some (some (2000, 15)) ∧
      (movingAverage gappedLine 9)[5]? = some (some (5000, 6)) := by
  obtain ⟨-, -, replaced⟩ := moving_average_windowed gappedLine 9 (by decide)
  obtain ⟨first, firstWritten, firstMean, -⟩ := replaced 2 2000 21 rfl
  obtain ⟨second, secondWritten, secondMean, -⟩ := replaced 5 5000 5 rfl
  have fifteen : first = 15 := UInt64.toNat_inj.mp (firstMean.trans (by decide))
  have six : second = 6 := UInt64.toNat_inj.mp (secondMean.trans (by decide))
  rw [firstWritten, secondWritten, fifteen, six]
  exact ⟨rfl, rfl⟩

end SfuLoad.Report
