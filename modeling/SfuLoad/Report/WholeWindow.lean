import SfuLoad.Kit.Averages
import SfuLoad.Report.Summary
import Mathlib.Data.Finset.Max
import Mathlib.Data.Finset.Dedup

/-!
# The average over a whole window

The weighted sum is kept in 128 bits and only a comparison of weights tells
whether values covered the window. Each weight is a distance between neighbouring
measurements, so the weights add up to the window exactly when no interval that
took time lacks a value, and no sum can reach the end of its range.
-/

namespace SfuLoad.Report

open Kit Kit.Saturating

/-- A measurement with the time of the one before it. -/
structure Interval where
  previousElapsedMs : UInt64
  sample : TelemetrySample

namespace Interval

/-- The distance to the measurement before. -/
def weight (interval : Interval) : Nat :=
  interval.sample.elapsedMs.toNat - interval.previousElapsedMs.toNat

variable (value : TelemetrySample → Option UInt64)

/-- The part of the weighted sum that comes from the interval. -/
def weighed (interval : Interval) : Nat :=
  (value interval.sample).elim 0 (fun value => value.toNat * interval.weight)

/-- The part of the total weight that comes from the interval. -/
def counted (interval : Interval) : Nat :=
  (value interval.sample).elim 0 (fun _ => interval.weight)

end Interval

/-- The intervals that end in samples after a measurement; gaps are passed over. -/
def intervalsFrom (previousElapsedMs : UInt64) : List TelemetrySample → List Interval
  | [] => []
  | sample :: rest =>
    if sample.isGap then intervalsFrom previousElapsedMs rest
    else ⟨previousElapsedMs, sample⟩ :: intervalsFrom sample.elapsedMs rest

/-- The intervals between the measurements of a list that opens with one. -/
def intervals : List TelemetrySample → List Interval
  | [] => []
  | initial :: rest => intervalsFrom initial.elapsedMs rest

/-- The time of the last measurement among samples after one. -/
def lastMeasured (previousElapsedMs : UInt64) : List TelemetrySample → UInt64
  | [] => previousElapsedMs
  | sample :: rest =>
    if sample.isGap then lastMeasured previousElapsedMs rest
    else lastMeasured sample.elapsedMs rest

/-- The sums are far from the end of their range: the weights are part of the
time passed, and no value is larger than a word. -/
structure Weighing.Small (weighing : Weighing) : Prop where
  weight : weighing.totalWeight ≤ weighing.previousElapsedMs.toNat
  sum : weighing.weightedSum ≤ limit * weighing.totalWeight

variable {value : TelemetrySample → Option UInt64} {weighing : Weighing}
  {sample : TelemetrySample}

/-- One more value, whatever it is, fits both sums. -/
theorem Weighing.Small.fits (small : weighing.Small)
    (onward : weighing.previousElapsedMs ≤ sample.elapsedMs) (word : UInt64) :
    let interval : Interval := ⟨weighing.previousElapsedMs, sample⟩
    weighing.totalWeight + interval.weight ≤ sample.elapsedMs.toNat ∧
      weighing.weightedSum + word.toNat * interval.weight ≤
        limit * (weighing.totalWeight + interval.weight) ∧
      weighing.totalWeight + interval.weight ≤ wideLimit ∧
      weighing.weightedSum + word.toNat * interval.weight ≤ wideLimit := by
  intro interval
  rw [UInt64.le_iff_toNat_le] at onward
  have inside := sample.elapsedMs.toNat_lt
  have weight := small.weight
  have passed : weighing.totalWeight + interval.weight ≤ sample.elapsedMs.toNat := by
    change _ + (sample.elapsedMs.toNat - weighing.previousElapsedMs.toNat) ≤ _
    omega
  have sum : weighing.weightedSum + word.toNat * interval.weight ≤
      limit * (weighing.totalWeight + interval.weight) := by
    rw [Nat.mul_add]
    exact Nat.add_le_add small.sum (Nat.mul_le_mul_right _ (toNat_le_limit word))
  have wide : limit * limit ≤ wideLimit := by decide
  refine ⟨passed, sum, le_trans passed ?_, sum.trans (le_trans (Nat.mul_le_mul_left limit ?_) wide)⟩
  · simp only [wideLimit]
    omega
  · simp only [limit]
    omega

/-- A measurement adds its interval, exactly. -/
theorem weigh_measured (small : weighing.Small) (measured : sample.isGap = false)
    (onward : weighing.previousElapsedMs ≤ sample.elapsedMs) :
    let interval : Interval := ⟨weighing.previousElapsedMs, sample⟩
    let next : Weighing := ⟨sample.elapsedMs, weighing.weightedSum + interval.weighed value,
      weighing.totalWeight + interval.counted value⟩
    weigh value weighing sample = some next ∧ next.Small := by
  intro interval next
  cases present : value sample with
  | none =>
    obtain ⟨passed, _⟩ := small.fits onward 0
    have same : next = { weighing with previousElapsedMs := sample.elapsedMs } := by
      simp [next, interval, Interval.weighed, Interval.counted, present]
    rw [same]
    exact ⟨weigh_none measured onward present, ⟨le_trans (Nat.le_add_right _ _) passed, small.sum⟩⟩
  | some word =>
    obtain ⟨passed, sum, weightFits, sumFits⟩ := small.fits onward word
    have exact : next = ⟨sample.elapsedMs, weighing.weightedSum + word.toNat * interval.weight,
        weighing.totalWeight + interval.weight⟩ := by
      simp [next, interval, Interval.weighed, Interval.counted, present]
    rw [exact]
    refine ⟨?_, ⟨passed, sum⟩⟩
    by_cases later : weighing.previousElapsedMs < sample.elapsedMs
    · rw [weigh_some measured later present]
      exact congrArg some (congrArg₂ (Weighing.mk _) (Nat.min_eq_left sumFits)
        (Nat.min_eq_left weightFits))
    · have still := UInt64.le_antisymm (UInt64.not_lt.mp later) onward
      have nothing : interval.weight = 0 := by
        simp [interval, Interval.weight, still]
      rw [weigh_still measured still, nothing, Nat.mul_zero, Nat.add_zero, Nat.add_zero, still]

/-- Samples that follow a time in order. -/
def Follows (previousElapsedMs : UInt64) (samples : List TelemetrySample) : Prop :=
  (∀ sample ∈ samples, previousElapsedMs ≤ sample.elapsedMs) ∧
    samples.Pairwise (fun earlier later => earlier.elapsedMs ≤ later.elapsedMs)

/-- Behind a sample come later ones. -/
theorem Follows.cons {previousElapsedMs : UInt64} {rest : List TelemetrySample}
    (follows : Follows previousElapsedMs (sample :: rest)) :
    previousElapsedMs ≤ sample.elapsedMs ∧ Follows previousElapsedMs rest ∧
      Follows sample.elapsedMs rest := by
  obtain ⟨onward, ordered⟩ := follows
  obtain ⟨first, later⟩ := List.forall_mem_cons.mp onward
  obtain ⟨before, ordered⟩ := List.pairwise_cons.mp ordered
  exact ⟨first, ⟨later, ordered⟩, ⟨before, ordered⟩⟩

/-- Over samples in order the loop never fails, and adds up the intervals exactly. -/
theorem weigh_all (small : weighing.Small) (samples : List TelemetrySample)
    (follows : Follows weighing.previousElapsedMs samples) :
    let gathered := intervalsFrom weighing.previousElapsedMs samples
    let final : Weighing := ⟨lastMeasured weighing.previousElapsedMs samples,
      weighing.weightedSum + (gathered.map (Interval.weighed value)).sum,
      weighing.totalWeight + (gathered.map (Interval.counted value)).sum⟩
    samples.foldlM (weigh value) weighing = some final ∧ final.Small := by
  induction samples generalizing weighing with
  | nil => exact ⟨rfl, small⟩
  | cons sample rest inductionHypothesis =>
    obtain ⟨onward, skipped, onwards⟩ := follows.cons
    rw [List.foldlM_cons]
    cases gap : sample.isGap with
    | true =>
      simp only [weigh_gap gap, intervalsFrom, lastMeasured, gap, if_true]
      exact inductionHypothesis small skipped
    | false =>
      obtain ⟨taken, smallNext⟩ := @weigh_measured value _ _ small gap onward
      simp only [taken, intervalsFrom, lastMeasured, gap, Bool.false_eq_true, if_false,
        List.map_cons, List.sum_cons, ← Nat.add_assoc]
      exact inductionHypothesis smallNext onwards

/-- The distances add up to the time of the last measurement. -/
theorem weights_telescope {previousElapsedMs : UInt64} {samples : List TelemetrySample}
    (follows : Follows previousElapsedMs samples) :
    previousElapsedMs.toNat + ((intervalsFrom previousElapsedMs samples).map Interval.weight).sum =
      (lastMeasured previousElapsedMs samples).toNat := by
  induction samples generalizing previousElapsedMs with
  | nil => rfl
  | cons sample rest inductionHypothesis =>
    obtain ⟨onward, skipped, onwards⟩ := follows.cons
    cases gap : sample.isGap with
    | true =>
      simp only [intervalsFrom, lastMeasured, gap, if_true]
      exact inductionHypothesis skipped
    | false =>
      have later := inductionHypothesis onwards
      rw [UInt64.le_iff_toNat_le] at onward
      simp only [intervalsFrom, lastMeasured, gap, Bool.false_eq_true, if_false, List.map_cons,
        List.sum_cons, Interval.weight] at later ⊢
      omega

/-- In order, no sample is earlier than the measurements before it. -/
theorem lastMeasured_le {previousElapsedMs : UInt64} {front rest : List TelemetrySample}
    (follows : Follows previousElapsedMs (front ++ sample :: rest)) :
    Follows previousElapsedMs front ∧
      lastMeasured previousElapsedMs front ≤ sample.elapsedMs := by
  refine ⟨⟨fun earlier member => follows.1 earlier (List.mem_append_left _ member),
    (List.pairwise_append.mp follows.2).1⟩, ?_⟩
  induction front generalizing previousElapsedMs with
  | nil => exact follows.cons.1
  | cons earlier front inductionHypothesis =>
    obtain ⟨_, skipped, onwards⟩ := follows.cons
    rw [lastMeasured]
    split
    · exact inductionHypothesis skipped
    · exact inductionHypothesis onwards

/-- A closing measurement is the last one. -/
theorem lastMeasured_of_final {previousElapsedMs : UInt64} {samples : List TelemetrySample}
    {final : TelemetrySample} (closing : samples.getLast? = some final)
    (measured : final.isGap = false) :
    lastMeasured previousElapsedMs samples = final.elapsedMs := by
  induction samples generalizing previousElapsedMs with
  | nil => simp at closing
  | cons sample rest inductionHypothesis =>
    cases rest with
    | nil =>
      obtain rfl : sample = final := by simpa using closing
      simp [lastMeasured, measured]
    | cons second rest =>
      rw [List.getLast?_cons_cons] at closing
      rw [lastMeasured]
      split <;> exact inductionHypothesis closing

/-- The values whose interval took time. -/
def contributing (value : TelemetrySample → Option UInt64) (samples : List TelemetrySample) :
    List UInt64 :=
  (intervals samples).filterMap (fun interval =>
    if 0 < interval.weight then value interval.sample else none)

/-- A window that opens and closes with usable scrapes, with a value for every
interval that took time. -/
structure Covered (samples : List TelemetrySample)
    (initialUsable finalUsable : TelemetrySample → Bool)
    (value : TelemetrySample → Option UInt64) (initial final : TelemetrySample) : Prop where
  opening : samples.head? = some initial
  initialMeasured : initial.isGap = false
  initialOpen : initial.finalSample = some false
  initialUsable : initialUsable initial = true
  closing : samples.getLast? = some final
  finalMeasured : final.isGap = false
  finalClosed : final.finalSample = some true
  finalUsable : finalUsable final = true
  later : initial.elapsedMs < final.elapsedMs
  complete : ∀ interval ∈ intervals samples, 0 < interval.weight →
    (value interval.sample).isSome = true

variable {samples : List TelemetrySample} {initial final : TelemetrySample}

/-- An interval is counted in full exactly when a value covers the time it took. -/
theorem counted_eq_weight_iff (interval : Interval) : interval.counted value = interval.weight ↔
    (0 < interval.weight → (value interval.sample).isSome = true) := by
  cases present : value interval.sample with
  | none =>
    simp only [Interval.counted, present, Option.elim_none, Option.isSome_none]
    constructor
    · intro nothing took
      omega
    · intro covered
      by_contra some
      exact absurd (covered (by omega)) (by simp)
  | some word => simp [Interval.counted, present]

/-- An interval counts with its weight or not at all. -/
theorem counted_le_weight (interval : Interval) : interval.counted value ≤ interval.weight := by
  cases present : value interval.sample <;> simp [Interval.counted, present]

/-- Within bounds on the contributing values an interval's part is in proportion. -/
theorem weighed_between {interval : Interval} (member : interval ∈ intervals samples)
    {low high : Nat} (bounds : ∀ word ∈ contributing value samples,
      low ≤ word.toNat ∧ word.toNat ≤ high) :
    low * interval.counted value ≤ interval.weighed value ∧
      interval.weighed value ≤ high * interval.counted value := by
  cases present : value interval.sample with
  | none => simp [Interval.counted, Interval.weighed, present]
  | some word =>
    simp only [Interval.counted, Interval.weighed, present, Option.elim_some]
    rcases Nat.eq_zero_or_pos interval.weight with nothing | took
    · simp [nothing]
    · have listed : word ∈ contributing value samples :=
        List.mem_filterMap.mpr ⟨interval, member, by rw [if_pos took, present]⟩
      exact ⟨Nat.mul_le_mul_right _ (bounds word listed).1,
        Nat.mul_le_mul_right _ (bounds word listed).2⟩

/-- A sorted list follows its own first sample. -/
theorem follows_of_sorted {samples : List TelemetrySample} {initial : TelemetrySample}
    (sorted : samples.Pairwise (fun earlier later => earlier.elapsedMs ≤ later.elapsedMs))
    (opening : samples.head? = some initial) :
    samples = initial :: samples.drop 1 ∧ Follows initial.elapsedMs (samples.drop 1) := by
  cases samples with
  | nil => simp at opening
  | cons first rest =>
    obtain rfl : first = initial := by simpa using opening
    exact ⟨rfl, List.pairwise_cons.mp sorted⟩

section
variable {samples : List TelemetrySample} {initial final : TelemetrySample}
  (sorted : samples.Pairwise (fun earlier later => earlier.elapsedMs ≤ later.elapsedMs))
  (ends : wholeWindowEndpoints samples = some (initial, final))
include sorted ends

/-- Over a sorted window the loop adds up the intervals, and their distances are
the window. -/
theorem weigh_window (value : TelemetrySample → Option UInt64) :
    (samples.drop 1).foldlM (weigh value) ⟨initial.elapsedMs, 0, 0⟩ =
      some ⟨final.elapsedMs, ((intervals samples).map (Interval.weighed value)).sum,
        ((intervals samples).map (Interval.counted value)).sum⟩ ∧
    ((intervals samples).map Interval.weight).sum =
      final.elapsedMs.toNat - initial.elapsedMs.toNat := by
  obtain ⟨opening, _, _, closing, measured, _, later⟩ := wholeWindowEndpoints_eq_some.mp ends
  obtain ⟨whole, follows⟩ := follows_of_sorted sorted opening
  have gathered : intervals samples = intervalsFrom initial.elapsedMs (samples.drop 1) := by
    rw [whole]
    rfl
  have last : lastMeasured initial.elapsedMs (samples.drop 1) = final.elapsedMs := by
    refine lastMeasured_of_final ?_ measured
    cases rest : samples.drop 1 with
    | nil =>
      rw [rest] at whole
      rw [whole] at closing
      obtain rfl : initial = final := by simpa using closing
      exact absurd later (UInt64.lt_irrefl _)
    | cons second rest' =>
      rw [whole, rest, List.getLast?_cons_cons] at closing
      exact closing
  have small : (⟨initial.elapsedMs, 0, 0⟩ : Weighing).Small := ⟨Nat.zero_le _, Nat.zero_le _⟩
  have folded := (@weigh_all value _ small (samples.drop 1) follows).1
  have distances := weights_telescope follows
  rw [last] at distances
  simp only [last, Nat.zero_add, ← gathered] at folded distances ⊢
  exact ⟨folded, by omega⟩

/-- The weights add up to the window exactly when values covered it. -/
theorem counted_window (value : TelemetrySample → Option UInt64) :
    ((intervals samples).map (Interval.counted value)).sum =
      final.elapsedMs.toNat - initial.elapsedMs.toNat ↔
    ∀ interval ∈ intervals samples, 0 < interval.weight →
      (value interval.sample).isSome = true := by
  rw [← (weigh_window sorted ends value).2,
    Averages.sum_parts_iff (fun interval _ => counted_le_weight interval)]
  exact forall₂_congr (fun interval _ => counted_eq_weight_iff interval)

/-- The average of a covered window lies between bounds on what contributes to it. -/
theorem quotient_between (value : TelemetrySample → Option UInt64)
    (complete : ∀ interval ∈ intervals samples, 0 < interval.weight →
      (value interval.sample).isSome = true) {low high : Nat}
    (bounds : ∀ word ∈ contributing value samples, low ≤ word.toNat ∧ word.toNat ≤ high) :
    let quotient := ((intervals samples).map (Interval.weighed value)).sum /
      (final.elapsedMs.toNat - initial.elapsedMs.toNat)
    low ≤ quotient ∧ quotient ≤ high := by
  intro quotient
  have counted := (counted_window sorted ends value).mpr complete
  obtain ⟨_, _, _, _, _, _, later⟩ := wholeWindowEndpoints_eq_some.mp ends
  rw [UInt64.lt_iff_toNat_lt] at later
  simp only [quotient, ← counted]
  exact Averages.average_between
    (fun interval member => (weighed_between member bounds).1)
    (fun interval member => (weighed_between member bounds).2)
    (by omega)

/-- Something contributes to a covered window. -/
theorem contributing_ne_nil (value : TelemetrySample → Option UInt64)
    (complete : ∀ interval ∈ intervals samples, 0 < interval.weight →
      (value interval.sample).isSome = true) : contributing value samples ≠ [] := by
  intro none
  -- without a value every pair of bounds would hold
  have bounds := @quotient_between _ _ _ sorted ends value complete 1 0 (by simp [none])
  simp only at bounds
  omega

/-- No value, wherever it comes, takes a sum to the end of its range. -/
theorem weigh_unsaturated (value : TelemetrySample → Option UInt64)
    {front rest : List TelemetrySample} {sample : TelemetrySample}
    (reached : samples.drop 1 = front ++ sample :: rest) :
    ∃ weighing : Weighing, front.foldlM (weigh value) ⟨initial.elapsedMs, 0, 0⟩ = some weighing ∧
      weighing.previousElapsedMs ≤ sample.elapsedMs ∧ ∀ word ∈ value sample,
        weighing.weightedSum + word.toNat *
            (sample.elapsedMs.toNat - weighing.previousElapsedMs.toNat) ≤ wideLimit ∧
          weighing.totalWeight + (sample.elapsedMs.toNat - weighing.previousElapsedMs.toNat) ≤
            wideLimit := by
  obtain ⟨opening, _⟩ := wholeWindowEndpoints_eq_some.mp ends
  obtain ⟨_, follows⟩ := follows_of_sorted sorted opening
  rw [reached] at follows
  obtain ⟨before, onward⟩ := lastMeasured_le follows
  have start : (⟨initial.elapsedMs, 0, 0⟩ : Weighing).Small := ⟨Nat.zero_le _, Nat.zero_le _⟩
  obtain ⟨folded, small⟩ := @weigh_all value _ start front before
  refine ⟨_, folded, onward, fun word _ => ?_⟩
  obtain ⟨_, _, weightFits, sumFits⟩ := small.fits onward word
  exact ⟨sumFits, weightFits⟩

end

/-- Over any sorted samples: there is an average exactly when a covered window is
there; it is the floor of the weighted sum over the window's length, between the
smallest and the largest value that contributes; and neither of the two sums ever
comes near the end of its 128 bits. -/
theorem whole_window_average_exact {samples : List TelemetrySample}
    (sorted : samples.Pairwise (fun earlier later => earlier.elapsedMs ≤ later.elapsedMs))
    (initialUsable finalUsable : TelemetrySample → Bool)
    (value : TelemetrySample → Option UInt64) :
    ((wholeWindowAverage samples initialUsable finalUsable value).isSome = true ↔
      ∃ initial final, Covered samples initialUsable finalUsable value initial final) ∧
    (∀ average, wholeWindowAverage samples initialUsable finalUsable value = some average →
      ∀ initial final, samples.head? = some initial → samples.getLast? = some final →
        average.toNat = ((intervals samples).map (Interval.weighed value)).sum /
          (final.elapsedMs.toNat - initial.elapsedMs.toNat) ∧
        ∃ low ∈ contributing value samples, ∃ high ∈ contributing value samples,
          (∀ word ∈ contributing value samples, low ≤ word ∧ word ≤ high) ∧
          low ≤ average ∧ average ≤ high) ∧
    (∀ initial final, wholeWindowEndpoints samples = some (initial, final) →
      ∀ front sample rest, samples.drop 1 = front ++ sample :: rest →
        ∃ weighing : Weighing,
          front.foldlM (weigh value) ⟨initial.elapsedMs, 0, 0⟩ = some weighing ∧
          weighing.previousElapsedMs ≤ sample.elapsedMs ∧ ∀ word ∈ value sample,
            weighing.weightedSum + word.toNat *
                (sample.elapsedMs.toNat - weighing.previousElapsedMs.toNat) ≤ wideLimit ∧
              weighing.totalWeight +
                (sample.elapsedMs.toNat - weighing.previousElapsedMs.toNat) ≤ wideLimit) := by
  refine ⟨⟨?_, ?_⟩, ?_, ?_⟩
  · intro averaged
    obtain ⟨average, averaged⟩ := Option.isSome_iff_exists.mp averaged
    obtain ⟨initial, final, weighed, ends, initialFit, finalFit, folded, _, covered, _⟩ :=
      wholeWindowAverage_eq_some.mp averaged
    obtain ⟨opening, first, opened, closing, last, closed, later⟩ := wholeWindowEndpoints_eq_some.mp ends
    obtain rfl := Option.some.inj (folded.symm.trans (weigh_window sorted ends value).1)
    exact ⟨initial, final, opening, first, opened, initialFit, closing, last, closed, finalFit,
      later, (counted_window sorted ends value).mp covered⟩
  · rintro ⟨initial, final, covered⟩
    have ends : wholeWindowEndpoints samples = some (initial, final) := wholeWindowEndpoints_eq_some.mpr
      ⟨covered.opening, covered.initialMeasured, covered.initialOpen, covered.closing,
        covered.finalMeasured, covered.finalClosed, covered.later⟩
    have fits := (quotient_between sorted ends value covered.complete
      (fun word _ => ⟨Nat.zero_le _, toNat_le_limit word⟩)).2
    have counted := (counted_window sorted ends value).mpr covered.complete
    obtain ⟨average, same⟩ : ∃ average : UInt64, average.toNat =
        ((intervals samples).map (Interval.weighed value)).sum /
          (final.elapsedMs.toNat - initial.elapsedMs.toNat) := by
      exact ⟨UInt64.ofNat _, toNat_ofNat_of_fits fits⟩
    refine Option.isSome_iff_exists.mpr ⟨average, wholeWindowAverage_eq_some.mpr
      ⟨initial, final, _, ends, covered.initialUsable, covered.finalUsable,
        (weigh_window sorted ends value).1, UInt64.le_of_lt covered.later, counted, ?_⟩⟩
    rw [same]
    exact congrArg _ counted
  · intro average averaged first last opening closing
    obtain ⟨initial, final, weighed, ends, _, _, folded, _, covered, quotient⟩ :=
      wholeWindowAverage_eq_some.mp averaged
    obtain ⟨opens, _, _, closes, _⟩ := wholeWindowEndpoints_eq_some.mp ends
    obtain rfl := Option.some.inj (opens.symm.trans opening)
    obtain rfl := Option.some.inj (closes.symm.trans closing)
    obtain rfl := Option.some.inj (folded.symm.trans (weigh_window sorted ends value).1)
    have complete := (counted_window sorted ends value).mp covered
    rw [covered] at quotient
    obtain ⟨low, lowListed, least⟩ := (contributing value samples).toFinset.exists_min_image
      UInt64.toNat (by simpa using contributing_ne_nil sorted ends value complete)
    obtain ⟨high, highListed, greatest⟩ := (contributing value samples).toFinset.exists_max_image
      UInt64.toNat (by simpa using contributing_ne_nil sorted ends value complete)
    simp only [List.mem_toFinset] at lowListed least highListed greatest
    have between := quotient_between sorted ends value complete
      (fun word listed => ⟨least word listed, greatest word listed⟩)
    refine ⟨quotient.symm, low, lowListed, high, highListed, fun word listed =>
      ⟨least word listed, greatest word listed⟩, ?_, ?_⟩
    · rw [UInt64.le_iff_toNat_le, ← quotient]
      exact between.1
    · rw [UInt64.le_iff_toNat_le, ← quotient]
      exact between.2
  · exact fun initial final ends front sample rest reached =>
      weigh_unsaturated sorted ends value reached

/-- An opening scrape, one value at 300 after two seconds with a gap between, and
one at 600 a second later. -/
def gappedWindow : List TelemetrySample :=
  [{ TelemetrySample.default with finalSample := some false, serverCpuTicks := some 0 },
    .gap 1000 (some false) none,
    { TelemetrySample.default with
      elapsedMs := 2000, finalSample := some false, serverCpuPercentMilli := some 300 },
    { TelemetrySample.default with
      elapsedMs := 3000, finalSample := some true, serverCpuTicks := some 9
      serverCpuPercentMilli := some 600 }]

/-- Two intervals, the longer one over a gap. -/
theorem gappedWindow_average :
    TelemetrySummary.serverCpuAverage gappedWindow = some 400 ∧
      (400 : UInt64).toNat = (300 * 2000 + 600 * 1000) / 3000 := by
  have averaged : TelemetrySummary.serverCpuAverage gappedWindow = some 400 := by decide
  obtain ⟨_, exact, _⟩ := @whole_window_average_exact gappedWindow (by decide)
    (fun sample => sample.serverCpuTicks.isSome)
    (fun sample => sample.serverCpuTicks.isSome && sample.serverCpuPercentMilli.isSome)
    TelemetrySample.serverCpuPercentMilli
  exact ⟨averaged, (exact 400 averaged _ _ rfl rfl).1⟩

end SfuLoad.Report
