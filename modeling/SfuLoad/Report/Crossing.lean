import SfuLoad.Report.Dashboard

/-!
# Phase crossings on the smoothed lines

The values taken out are those whose recorded start and own time enclose a phase
marker; they stay in the raw values, and nothing else changes. Whether these are the
values that were measured over a phase change depends on the recorded starts. The
counter closures record every one. The start of a CPU percentage is the report before
it, although the sampler measured it from the successful scrape before it: the first
report has no start, and one behind a scrape without a report starts too early. The
fanout closure pushes nothing for a sample without its counters, so from then on the
starts are out of step with the values and no later value is ever taken out.
-/

namespace SfuLoad.Report

open Kit.Fallible Kit.Saturating Kit.Walk Model

/-- Some marker lies in the interval behind a value. -/
def Mixed (phases : List PhaseMarker) (startMs elapsedMs : UInt64) : Prop :=
  ∃ marker ∈ phases, startMs < marker.elapsedMs ∧ marker.elapsedMs ≤ elapsedMs

/-- The comparison of the source: a marker in the interval, its start left out. -/
theorem crosses_iff (phases : List PhaseMarker) (startMs elapsedMs : UInt64) :
    crosses phases startMs elapsedMs = true ↔ Mixed phases startMs elapsedMs := by
  simp [crosses, Mixed]

/-- The series records a start for the value here, and they enclose a marker. -/
def Crossed (series : Series) (phases : List PhaseMarker) (index : Nat) : Prop :=
  ∃ starts startMs elapsedMs value, series.intervalStartsMs = some starts ∧
    starts[index]? = some (some startMs) ∧
    series.values[index]? = some (some (elapsedMs, value)) ∧ Mixed phases startMs elapsedMs

/-- The taken indices are those with a value, a recorded start and a marker between the two.
-/
theorem mem_crossings (values : List Point) (starts : List (Option UInt64))
    (phases : List PhaseMarker) (index : Nat) :
    index ∈ crossings values starts phases ↔ ∃ startMs elapsedMs value,
      starts[index]? = some (some startMs) ∧
      values[index]? = some (some (elapsedMs, value)) ∧ Mixed phases startMs elapsedMs := by
  simp only [crossings, List.mem_filterMap, Prod.exists, List.mem_zipIdx_iff_getElem?,
    List.getElem?_zip_eq_some]
  constructor
  · rintro ⟨value, start, position, ⟨valueLocated, startLocated⟩, picked⟩
    split at picked
    · next elapsedMs value startMs =>
      split at picked
      · next crossing =>
        obtain rfl := Option.some.inj picked
        exact ⟨startMs, elapsedMs, value, startLocated, valueLocated,
          (crosses_iff _ _ _).mp crossing⟩
      · cases picked
    · cases picked
  · rintro ⟨startMs, elapsedMs, value, startLocated, valueLocated, mixed⟩
    refine ⟨_, _, index, ⟨valueLocated, startLocated⟩, ?_⟩
    simp [(crosses_iff _ _ _).mpr mixed]

/-- Clearing several places of a list. -/
theorem foldl_set_getElem? (places : List Nat) (values : List Point) (index : Nat) :
    (places.foldl (fun values place => values.set place none) values)[index]? =
      if index ∈ places then values[index]?.map (fun _ => none) else values[index]? := by
  induction places generalizing values with
  | nil => simp
  | cons place rest inductionHypothesis =>
    rw [List.foldl_cons, inductionHypothesis, List.getElem?_set]
    by_cases here : place = index
    · subst here
      by_cases inside : place < values.length <;> simp [inside]
    · have apart : ¬ index = place := fun same => here same.symm
      simp [here, apart]

/-- Crossed values are taken out and every other one is left. -/
theorem gapPhaseCrossings_values (series : Series) (phases : List PhaseMarker) (index : Nat) :
    (Crossed series phases index →
      (gapPhaseCrossings series phases).values[index]? = some none ∧
      (gapPhaseCrossings series phases).rawValues =
        some (series.rawValues.getD series.values)) ∧
    (¬ Crossed series phases index →
      (gapPhaseCrossings series phases).values[index]? = series.values[index]?) := by
  unfold gapPhaseCrossings
  cases recorded : series.intervalStartsMs with
  | none => simp [Crossed, recorded]
  | some starts =>
    have crossed : Crossed series phases index ↔
        index ∈ crossings series.values starts phases := by
      rw [mem_crossings, Crossed]
      simp [recorded]
    rw [crossed]
    by_cases empty : (crossings series.values starts phases).isEmpty
    · rw [List.isEmpty_iff] at empty
      simp [empty]
    · simp only [empty, Bool.false_eq_true, if_false, foldl_set_getElem?]
      constructor
      · intro member
        obtain ⟨_, _, _, _, located, _⟩ := (mem_crossings _ _ _ _).mp member
        simp [member, located]
      · intro absent
        simp [absent]

/-- What remains on a line was there before and was not crossed. -/
theorem remaining_iff (series : Series) (phases : List PhaseMarker) (index : Nat)
    (point : UInt64 × UInt64) :
    (gapPhaseCrossings series phases).values[index]? = some (some point) ↔
      series.values[index]? = some (some point) ∧ ¬ Crossed series phases index := by
  obtain ⟨taken, left⟩ := gapPhaseCrossings_values series phases index
  by_cases crossed : Crossed series phases index
  · simp [taken crossed, crossed]
  · simp [left crossed, crossed]

/-- How a series may differ after crossings are taken out: a value is as before,
or it was crossed, is gone from the line and is still among the raw values. -/
structure Retained (phases : List PhaseMarker) (before after : Series) : Prop where
  name : after.name = before.name
  smooth : after.smooth = before.smooth
  values : ∀ index, after.values[index]? = before.values[index]? ∨
    (Crossed before phases index ∧ after.values[index]? = some none ∧
      ∃ raw, after.rawValues = some raw ∧ raw[index]? = before.values[index]?)

/-- Taking values out of a line touches its values and its raw values only. -/
theorem gapPhaseCrossings_eq (series : Series) (phases : List PhaseMarker) :
    ∃ rawValues values, gapPhaseCrossings series phases = { series with rawValues, values } := by
  unfold gapPhaseCrossings
  split
  · exact ⟨_, _, rfl⟩
  · dsimp only
    split <;> exact ⟨_, _, rfl⟩

/-- Every value taken out stands in the raw values. -/
theorem gapPhaseCrossings_retained {series : Series} (fresh : series.rawValues = none)
    (phases : List PhaseMarker) : Retained phases series (gapPhaseCrossings series phases) := by
  obtain ⟨rawValues, values, same⟩ := gapPhaseCrossings_eq series phases
  refine ⟨by rw [same], by rw [same], fun index => ?_⟩
  obtain ⟨taken, left⟩ := gapPhaseCrossings_values series phases index
  by_cases crossed : Crossed series phases index
  · obtain ⟨gone, raw⟩ := taken crossed
    rw [fresh] at raw
    exact Or.inr ⟨crossed, gone, _, raw, rfl⟩
  · exact Or.inl (left crossed)

/-- The value at a position was measured over a phase change, where `origin` tells the time
of the sample each position was measured from. -/
def MeasuredOver (origin : Nat → Option UInt64) (phases : List PhaseMarker) (series : Series)
    (index : Nat) : Prop :=
  ∃ startMs elapsedMs value, origin index = some startMs ∧
    series.values[index]? = some (some (elapsedMs, value)) ∧ Mixed phases startMs elapsedMs

/-- A line lost exactly the values that were measured over a phase change. These are still
among its raw values, and every other place is as before. -/
def Exact (origin : Nat → Option UInt64) (phases : List PhaseMarker) (before after : Series) :
    Prop :=
  ∀ index,
    (MeasuredOver origin phases before index → after.values[index]? = some none ∧
      ∃ raw, after.rawValues = some raw ∧ raw[index]? = before.values[index]?) ∧
    (¬ MeasuredOver origin phases before index → after.values[index]? = before.values[index]?)

/-- The line is exact when the recorded starts cross where the true ones do. -/
theorem exact_iff {series : Series} (fresh : series.rawValues = none)
    (origin : Nat → Option UInt64) (phases : List PhaseMarker) :
    Exact origin phases series (gapPhaseCrossings series phases) ↔
      ∀ index, Crossed series phases index ↔ MeasuredOver origin phases series index := by
  constructor
  · intro exact_ index
    obtain ⟨taken, left⟩ := gapPhaseCrossings_values series phases index
    obtain ⟨removes, keeps⟩ := exact_ index
    constructor
    · intro crossed
      by_contra unmeasured
      have ⟨_, _, _, _, _, _, located, _⟩ := crossed
      have kept := keeps unmeasured
      rw [(taken crossed).1, located] at kept
      cases kept
    · intro measured
      by_contra uncrossed
      have ⟨_, _, _, _, located, _⟩ := measured
      have gone := (removes measured).1
      rw [left uncrossed, located] at gone
      cases gone
  · intro agrees index
    obtain ⟨taken, left⟩ := gapPhaseCrossings_values series phases index
    rw [← agrees index]
    refine ⟨fun crossed => ⟨(taken crossed).1, series.values, ?_, rfl⟩, left⟩
    rw [(taken crossed).2, fresh]
    rfl

/-- Starts recorded in their places cross where they say. -/
theorem crossed_iff_measuredOver {series : Series} {origin : Nat → Option UInt64}
    {phases : List PhaseMarker} {index : Nat}
    (recorded : ∀ point, series.values[index]? = some (some point) →
      ∃ starts, series.intervalStartsMs = some starts ∧ starts[index]? = some (origin index)) :
    Crossed series phases index ↔ MeasuredOver origin phases series index := by
  constructor
  · rintro ⟨starts, startMs, elapsedMs, value, kept, start, located, mixed⟩
    obtain ⟨others, same, here⟩ := recorded _ located
    obtain rfl := Option.some.inj (kept.symm.trans same)
    exact ⟨startMs, elapsedMs, value, Option.some.inj (here.symm.trans start), located, mixed⟩
  · rintro ⟨startMs, elapsedMs, value, start, located, mixed⟩
    obtain ⟨starts, kept, here⟩ := recorded _ located
    exact ⟨starts, startMs, elapsedMs, value, kept, start ▸ here, located, mixed⟩

/-- The time of the sample immediately before a position. -/
def precedingTime (samples : List TelemetrySample) (index : Nat) : Option UInt64 :=
  (samples.take index).getLast?.map TelemetrySample.elapsedMs

/-- The time of the last successful scrape before a position. -/
def precedingScrapeTime (samples : List TelemetrySample) (index : Nat) : Option UInt64 :=
  ((samples.take index).filter (fun sample => !sample.isGap)).getLast?.map
    TelemetrySample.elapsedMs

/-- The time of the last report of a value before a position. -/
def lastReportTime (value : TelemetrySample → Option UInt64) (samples : List TelemetrySample)
    (index : Nat) : Option UInt64 :=
  ((samples.take index).filterMap
    (fun sample => (value sample).map (fun _ => sample.elapsedMs))).getLast?

/-- The last fanout reading before a position. -/
def precedingReading (samples : List TelemetrySample) (index : Nat) : Option FanoutReading :=
  ((samples.take index).filterMap fanoutReading).getLast?

/-- The time of the last fanout reading before a position. -/
def precedingReadingTime (samples : List TelemetrySample) (index : Nat) : Option UInt64 :=
  (precedingReading samples index).map FanoutReading.elapsedMs

/-- The last element of a sorted list is the greatest. -/
theorem le_getLast {samples : List TelemetrySample}
    (sorted : samples.Pairwise (fun earlier later => earlier.elapsedMs ≤ later.elapsedMs))
    {last : TelemetrySample} (ends : samples.getLast? = some last) :
    ∀ sample ∈ samples, sample.elapsedMs ≤ last.elapsedMs := by
  obtain ⟨front, rfl⟩ := List.getLast?_eq_some_iff.mp ends
  intro sample member
  rcases List.mem_append.mp member with earlier | final
  · exact (List.pairwise_append.mp sorted).2.2 sample earlier last (List.mem_singleton_self last)
  · rw [List.mem_singleton.mp final]
    exact UInt64.le_refl _

section direct
variable {samples : List TelemetrySample} {value : TelemetrySample → Option UInt64}
  {phases : List PhaseMarker} {name : String} {color : RGBColor}

/-- A direct series has the value of each sample, at its time. -/
theorem directSeries_values (smooth : Bool) (index : Nat) :
    (directSeries name color samples value smooth).values[index]? = samples[index]?.map
      (fun sample => (value sample).map (fun value => (sample.elapsedMs, value))) := by
  simp [directSeries]

/-- A reported value's start is the time of the last report before it. -/
theorem directSeries_start (name : String) (color : RGBColor) {index : Nat}
    {point : UInt64 × UInt64}
    (here : (directSeries name color samples value true).values[index]? = some (some point)) :
    ∃ starts, (directSeries name color samples value true).intervalStartsMs = some starts ∧
      starts[index]? = some (lastReportTime value samples index) := by
  rw [directSeries_values] at here
  obtain ⟨sample, located, made⟩ := Option.map_eq_some_iff.mp here
  obtain ⟨reported, present, -⟩ := Option.map_eq_some_iff.mp made
  refine ⟨_, rfl, ?_⟩
  have keeps : ∀ previous point,
      (previousValueStep previous point).1 = (point.map Prod.fst).or previous := by
    intro previous point
    cases point <;> rfl
  rw [previousValueStarts, walk_getElem?, left_of_kept keeps]
  have shape : (fun point : Point => point.map Prod.fst) ∘
      (fun sample => (value sample).map (fun value => (sample.elapsedMs, value))) =
      fun sample => (value sample).map (fun _ => sample.elapsedMs) := by
    funext sample
    rw [Function.comp_apply, Option.map_map]
    rfl
  rw [← List.map_take, List.filterMap_map, shape]
  simp [located, present, previousValueStep, lastReportTime]

/-- Markers that do not mislead the starts of the reports. The first report comes with none
since the scrape before it. Where scrapes without a report lie between two reports, a marker
that falls before the last of them is followed by another one behind it. -/
structure ReportsClear (samples : List TelemetrySample) (phases : List PhaseMarker)
    (value : TelemetrySample → Option UInt64) : Prop where
  first : ∀ index sample, samples[index]? = some sample → (value sample).isSome →
    (∀ earlier ∈ samples.take index, value earlier = none) →
    ∀ scrapeMs, precedingScrapeTime samples index = some scrapeMs →
      ¬ Mixed phases scrapeMs sample.elapsedMs
  later : ∀ index sample, samples[index]? = some sample → (value sample).isSome →
    ∀ reportMs scrapeMs, lastReportTime value samples index = some reportMs →
      precedingScrapeTime samples index = some scrapeMs → Mixed phases reportMs scrapeMs →
      Mixed phases scrapeMs sample.elapsedMs

/-- A marker in an interval lies in one of the parts it is cut into. -/
theorem mixed_split {startMs middleMs elapsedMs : UInt64} (early : startMs ≤ middleMs)
    (late : middleMs ≤ elapsedMs) : Mixed phases startMs elapsedMs ↔
      Mixed phases startMs middleMs ∨ Mixed phases middleMs elapsedMs := by
  constructor
  · rintro ⟨marker, member, after, before⟩
    rcases UInt64.le_or_lt marker.elapsedMs middleMs with inside | behind
    · exact Or.inl ⟨marker, member, after, inside⟩
    · exact Or.inr ⟨marker, member, behind, before⟩
  · rintro (⟨marker, member, after, before⟩ | ⟨marker, member, after, before⟩)
    · exact ⟨marker, member, after, UInt64.le_trans before late⟩
    · exact ⟨marker, member, UInt64.lt_of_le_of_lt early after, before⟩

/-- Without an earlier report no sample before has one. -/
theorem lastReportTime_eq_none {index : Nat} :
    lastReportTime value samples index = none ↔
      ∀ earlier ∈ samples.take index, value earlier = none := by
  rw [lastReportTime, List.getLast?_eq_none_iff, List.filterMap_eq_nil_iff]
  simp

/-- The last report is no later than the scrape before a position, and that scrape is no
later than the sample there. -/
theorem report_le_scrape
    (sorted : samples.Pairwise (fun earlier later => earlier.elapsedMs ≤ later.elapsedMs))
    (silent : ∀ sample ∈ samples, sample.isGap = true → value sample = none) {index : Nat}
    {reportMs : UInt64} (last : lastReportTime value samples index = some reportMs) :
    ∃ scrapeMs, precedingScrapeTime samples index = some scrapeMs ∧ reportMs ≤ scrapeMs := by
  obtain ⟨report, member, time⟩ := List.mem_filterMap.mp (List.mem_of_getLast? last)
  obtain ⟨_, present, rfl⟩ := Option.map_eq_some_iff.mp time
  have successful : report.isGap = false := by
    by_contra gap
    rw [silent report (List.mem_of_mem_take member) (by simpa using gap)] at present
    cases present
  have among : report ∈ (samples.take index).filter (fun sample => !sample.isGap) :=
    List.mem_filter.mpr ⟨member, by simp [successful]⟩
  obtain ⟨scrape, ends⟩ := Option.isSome_iff_exists.mp
    (List.getLast?_isSome.mpr (List.ne_nil_of_mem among))
  refine ⟨scrape.elapsedMs, by rw [precedingScrapeTime, ends]; rfl, ?_⟩
  exact le_getLast ((sorted.sublist (List.take_sublist index samples)).filter
    (fun sample => !sample.isGap)) ends report among

/-- The scrape before a position is no later than the sample there. -/
theorem scrape_le_sample
    (sorted : samples.Pairwise (fun earlier later => earlier.elapsedMs ≤ later.elapsedMs))
    {index : Nat} {sample : TelemetrySample} (located : samples[index]? = some sample)
    {scrapeMs : UInt64} (before : precedingScrapeTime samples index = some scrapeMs) :
    scrapeMs ≤ sample.elapsedMs := by
  obtain ⟨scrape, ends, rfl⟩ := Option.map_eq_some_iff.mp before
  have member := List.mem_of_mem_filter (List.mem_of_getLast? ends)
  obtain ⟨inside, rfl⟩ := List.getElem?_eq_some_iff.mp located
  have cut : samples = samples.take index ++ samples[index] :: samples.drop (index + 1) := by
    rw [List.getElem_cons_drop, List.take_append_drop]
  rw [cut] at sorted
  exact (List.pairwise_append.mp sorted).2.2 scrape member _ List.mem_cons_self

/-- Processor lines are exact when the markers do not mislead the starts: a report is judged
from the last report, but was measured from the scrape before it. -/
theorem directSeries_exact_iff (name : String) (color : RGBColor) (phases : List PhaseMarker)
    (sorted : samples.Pairwise (fun earlier later => earlier.elapsedMs ≤ later.elapsedMs))
    (silent : ∀ sample ∈ samples, sample.isGap = true → value sample = none) :
    Exact (precedingScrapeTime samples) phases (directSeries name color samples value true)
        (gapPhaseCrossings (directSeries name color samples value true) phases) ↔
      ReportsClear samples phases value := by
  have judged (index : Nat) : Crossed (directSeries name color samples value true) phases index ↔
      MeasuredOver (lastReportTime value samples) phases
        (directSeries name color samples value true) index :=
    crossed_iff_measuredOver fun _ => directSeries_start name color
  rw [exact_iff rfl]
  simp only [judged]
  have carried {index : Nat} {sample : TelemetrySample} (located : samples[index]? = some sample)
      (present : (value sample).isSome) :
      ∃ reported, (directSeries name color samples value true).values[index]? =
        some (some (sample.elapsedMs, reported)) := by
    obtain ⟨reported, present⟩ := Option.isSome_iff_exists.mp present
    exact ⟨reported, by simp [directSeries_values, located, present]⟩
  constructor
  · intro agrees
    constructor
    · intro index sample located present none_ scrapeMs before mixed
      obtain ⟨reported, here⟩ := carried located present
      obtain ⟨reportMs, _, _, last, -⟩ :=
        (agrees index).mpr ⟨scrapeMs, sample.elapsedMs, reported, before, here, mixed⟩
      rw [lastReportTime_eq_none.mpr none_] at last
      cases last
    · intro index sample located present reportMs scrapeMs last before mixed
      obtain ⟨reported, here⟩ := carried located present
      have wide : Mixed phases reportMs sample.elapsedMs := by
        obtain ⟨marker, member, after, early⟩ := mixed
        exact ⟨marker, member, after, UInt64.le_trans early (scrape_le_sample sorted located before)⟩
      obtain ⟨startMs, elapsedMs, _, start, there, measured⟩ :=
        (agrees index).mp ⟨reportMs, sample.elapsedMs, reported, last, here, wide⟩
      obtain ⟨rfl, -⟩ := Prod.mk.inj (Option.some.inj (Option.some.inj (here.symm.trans there)))
      obtain rfl := Option.some.inj (before.symm.trans start)
      exact measured
  · intro clear index
    constructor
    · rintro ⟨reportMs, elapsedMs, reported, last, here, mixed⟩
      obtain ⟨sample, located, made⟩ := Option.map_eq_some_iff.mp
        ((directSeries_values true index).symm.trans here)
      obtain ⟨_, present, pair⟩ := Option.map_eq_some_iff.mp made
      obtain ⟨rfl, rfl⟩ := Prod.mk.inj pair
      obtain ⟨scrapeMs, before, order⟩ := report_le_scrape sorted silent last
      refine ⟨scrapeMs, _, _, before, here, ?_⟩
      rcases (mixed_split order (scrape_le_sample sorted located before)).mp mixed with
        early | behind
      · exact clear.later index sample located (by rw [present]; rfl) reportMs scrapeMs last before
          early
      · exact behind
    · rintro ⟨scrapeMs, elapsedMs, reported, before, here, mixed⟩
      obtain ⟨sample, located, made⟩ := Option.map_eq_some_iff.mp
        ((directSeries_values true index).symm.trans here)
      obtain ⟨_, present, pair⟩ := Option.map_eq_some_iff.mp made
      obtain ⟨rfl, rfl⟩ := Prod.mk.inj pair
      cases last : lastReportTime value samples index with
      | none =>
        exact absurd mixed (clear.first index sample located (by rw [present]; rfl)
          (lastReportTime_eq_none.mp last) scrapeMs before)
      | some reportMs =>
        obtain ⟨otherMs, same, order⟩ := report_le_scrape sorted silent last
        obtain rfl := Option.some.inj (before.symm.trans same)
        exact ⟨reportMs, _, _, last, here,
          (mixed_split order (scrape_le_sample sorted located before)).mpr (Or.inr mixed)⟩

/-- A report behind a silent scrape is judged from the report before that scrape. -/
example : (gapPhaseCrossings (directSeries "SFU" colorBlue
    [{ TelemetrySample.default with elapsedMs := 0, serverCpuPercentMilli := some 1 },
      { TelemetrySample.default with elapsedMs := 1000 },
      { TelemetrySample.default with elapsedMs := 2000, serverCpuPercentMilli := some 9 }]
    TelemetrySample.serverCpuPercentMilli true) [⟨500, .setup⟩]).values =
      [some (0, 1), none, none] := by
  decide

end direct

section walked
variable {samples : List TelemetrySample} {phases : List PhaseMarker} {name : String}
  {color : RGBColor}

/-- What one call of a walked series' closure adds. -/
theorem walkedSeries_values {memory : Type}
    (step : Option memory → TelemetrySample → Option memory × Point × List (Option UInt64))
    (index : Nat) : (walkedSeries name color step samples).values[index]? =
      samples[index]?.map (fun sample => (step (left step none (samples.take index)) sample).2.1) := by
  simp only [walkedSeries, List.getElem?_map, walk_getElem?, Option.map_map]
  rfl

/-- As long as every call before it pushed one start, a call's own start stands at
its own position. -/
theorem walkedSeries_start (name : String) (color : RGBColor) {memory : Type}
    {step : Option memory → TelemetrySample → Option memory × Point × List (Option UInt64)}
    (weight : TelemetrySample → Nat)
    (weighs : ∀ previous sample, (step previous sample).2.2.length = weight sample) {index : Nat}
    {sample : TelemetrySample} (located : samples[index]? = some sample)
    (full : ∀ earlier ∈ samples.take index, weight earlier = 1) {start : Option UInt64}
    (pushed : (step (left step none (samples.take index)) sample).2.2 = [start]) :
    ∃ starts, (walkedSeries name color step samples).intervalStartsMs = some starts ∧
      starts[index]? = some start := by
  have before : ((walk step none (samples.take index)).flatMap Prod.snd).length = index := by
    obtain ⟨inside, _⟩ := List.getElem?_eq_some_iff.mp located
    rw [length_flatMap_walk Prod.snd weight weighs, List.map_congr_left full, List.map_const',
      List.sum_replicate_nat, Nat.mul_one, List.length_take]
    omega
  refine ⟨_, rfl, ?_⟩
  rw [flatMap_walk_split _ _ _ located, List.getElem?_append_right (by omega), before, pushed]
  simp

/-- The counter closure keeps the reading of the last sample, whatever it was. -/
theorem counterStep_replaces (value : TelemetrySample → Option UInt64) (scale : UInt64)
    (previous : Option (UInt64 × UInt64)) (sample : TelemetrySample) :
    (counterStep value scale previous sample).1 =
      (value sample).map (fun value => (sample.elapsedMs, value)) := by
  unfold counterStep
  dsimp only
  split <;> rfl

/-- It pushes one start per sample: the prior sample's time, when it has a value. -/
theorem counterStep_pushes (value : TelemetrySample → Option UInt64) (scale : UInt64)
    (previous : Option (UInt64 × UInt64)) (sample : TelemetrySample) :
    ∃ start, (counterStep value scale previous sample).2.2 = [start] ∧
      ∀ point, (counterStep value scale previous sample).2.1 = some point →
        point.1 = sample.elapsedMs ∧ ∃ prior, previous = some prior ∧ start = some prior.1 := by
  unfold counterStep
  dsimp only
  split
  · next prior reading current =>
    refine ⟨_, rfl, fun point made => ?_⟩
    obtain ⟨_, _, rfl⟩ := Option.map_eq_some_iff.mp current
    dsimp only at made
    refine ⟨?_, prior, rfl, by rw [made]; rfl⟩
    simp only [ratePoint, bind, Option.bind_eq_some_iff] at made
    obtain ⟨_, _, _, _, returned⟩ := made
    rw [← Option.some.inj returned]
  · exact ⟨none, rfl, fun point made => by cases made⟩

/-- Counter values are measured from the sample just before, and say so. -/
theorem counterSeries_start (value : TelemetrySample → Option UInt64) (scale : UInt64)
    {index : Nat} {point : UInt64 × UInt64}
    (here : (counterSeries name color samples value scale).values[index]? = some (some point)) :
    ∃ starts, (counterSeries name color samples value scale).intervalStartsMs = some starts ∧
      starts[index]? = some (precedingTime samples index) := by
  rw [counterSeries, walkedSeries_values] at here
  obtain ⟨sample, located, made⟩ := Option.map_eq_some_iff.mp here
  obtain ⟨start, pushed, measured⟩ := counterStep_pushes value scale
    (left (counterStep value scale) none (samples.take index)) sample
  obtain ⟨-, prior, kept, rfl⟩ := measured _ made
  obtain ⟨starts, recorded, there⟩ := walkedSeries_start name color (fun _ => 1)
    (fun previous sample => by
      obtain ⟨start, pushed, _⟩ := counterStep_pushes value scale previous sample
      rw [pushed]
      rfl) located (fun _ _ => rfl) pushed
  have same : precedingTime samples index = some prior.1 := by
    rw [left_of_replaced (counterStep_replaces value scale)] at kept
    obtain ⟨last, ends, reading⟩ := Option.bind_eq_some_iff.mp kept
    obtain ⟨_, _, rfl⟩ := Option.map_eq_some_iff.mp reading
    rw [precedingTime, ends]
    rfl
  exact ⟨starts, recorded, same ▸ there⟩

/-- A counter series loses exactly its mixed values, for its closure records the sample
before each value. -/
theorem counterSeries_exact (value : TelemetrySample → Option UInt64) (scale : UInt64) :
    Exact (precedingTime samples) phases (counterSeries name color samples value scale)
      (gapPhaseCrossings (counterSeries name color samples value scale) phases) :=
  (exact_iff rfl _ _).mpr fun _ =>
    crossed_iff_measuredOver fun _ => counterSeries_start value scale

end walked

section fanout
variable {samples : List TelemetrySample} {phases : List PhaseMarker}

/-- A reading is of its sample's time. -/
theorem fanoutReading_elapsedMs {sample : TelemetrySample} {reading : FanoutReading}
    (present : fanoutReading sample = some reading) : reading.elapsedMs = sample.elapsedMs := by
  simp only [fanoutReading, bind, Option.bind_eq_some_iff] at present
  obtain ⟨_, _, _, _, returned⟩ := present
  rw [← Option.some.inj returned]

/-- Two readings make a value when time and ingress grow and nothing goes back. -/
theorem fanoutPoint_isSome_iff (prior current : FanoutReading) :
    (fanoutPoint prior current).isSome ↔ prior.elapsedMs < current.elapsedMs ∧
      prior.ingress < current.ingress ∧ prior.forwarded ≤ current.forwarded := by
  simp only [fanoutPoint, positiveElapsed, checkedSub]
  have positive (left right : UInt64) (below : right ≤ left) : 0 < left - right ↔ right < left := by
    rw [UInt64.lt_iff_toNat_lt, UInt64.lt_iff_toNat_lt, UInt64.toNat_sub_of_le _ _ below,
      UInt64.toNat_zero]
    omega
  by_cases time : prior.elapsedMs ≤ current.elapsedMs
  · by_cases ingress : prior.ingress ≤ current.ingress
    · by_cases forwarded : prior.forwarded ≤ current.forwarded
      · by_cases later : prior.elapsedMs < current.elapsedMs <;>
          by_cases more : prior.ingress < current.ingress <;>
          simp [time, ingress, forwarded, Option.filter_some, positive, later, more]
      · simp [forwarded]
    · have fewer : ¬ prior.ingress < current.ingress := fun more =>
        ingress (UInt64.le_of_lt more)
      simp [ingress, fewer]
  · have earlier : ¬ prior.elapsedMs < current.elapsedMs := fun later =>
      time (UInt64.le_of_lt later)
    simp [time, earlier]

/-- And a point of the later reading's. -/
theorem fanoutPoint_elapsedMs {prior current : FanoutReading} {point : UInt64 × UInt64}
    (made : fanoutPoint prior current = some point) : point.1 = current.elapsedMs := by
  simp only [fanoutPoint, bind, Option.bind_eq_some_iff] at made
  obtain ⟨_, _, _, _, _, _, returned⟩ := made
  split at returned
  · rw [← Option.some.inj returned]
  · cases returned

/-- The closure keeps the last reading there was. -/
theorem fanoutStep_keeps (previous : Option FanoutReading) (sample : TelemetrySample) :
    (fanoutStep previous sample).1 = (fanoutReading sample).or previous := by
  unfold fanoutStep
  cases fanoutReading sample with
  | none => rfl
  | some reading => cases previous <;> rfl

/-- It pushes for the samples that have a reading, and only for those. -/
theorem fanoutStep_pushes (previous : Option FanoutReading) (sample : TelemetrySample) :
    (fanoutStep previous sample).2.2.length = (fanoutReading sample).toList.length := by
  unfold fanoutStep
  cases fanoutReading sample with
  | none => rfl
  | some reading => cases previous <;> rfl

/-- Behind a kept reading no start that is pushed is earlier than it. -/
theorem later_starts {bound : UInt64} {previous : Option FanoutReading}
    (kept : ∀ reading, previous = some reading → bound ≤ reading.elapsedMs)
    {later : List TelemetrySample} (late : ∀ sample ∈ later, bound ≤ sample.elapsedMs)
    {startMs : UInt64} (pushed : some startMs ∈ (walk fanoutStep previous later).flatMap Prod.snd) :
    bound ≤ startMs := by
  induction later generalizing previous with
  | nil => cases pushed
  | cons sample rest inductionHypothesis =>
    rw [walk, List.flatMap_cons, List.mem_append] at pushed
    rcases pushed with here | there
    · unfold fanoutStep at here
      split at here
      · cases here
      · split at here
        · next prior =>
          rw [List.mem_singleton] at here
          obtain ⟨_, _, rfl⟩ := Option.map_eq_some_iff.mp here.symm
          exact kept prior rfl
        · simp at here
    · refine inductionHypothesis (fun reading after => ?_)
        (fun other member => late other (List.mem_cons_of_mem _ member)) there
      rw [fanoutStep_keeps, Option.or_eq_some_iff] at after
      rcases after with own | ⟨_, before⟩
      · rw [fanoutReading_elapsedMs own]
        exact late sample List.mem_cons_self
      · exact kept reading before

/-- A fanout value is a quotient over the reading before it, however far back that is. -/
theorem fanoutSeries_value_iff {index : Nat} {point : UInt64 × UInt64} :
    (fanoutSeries samples).values[index]? = some (some point) ↔ ∃ sample reading prior,
      samples[index]? = some sample ∧ fanoutReading sample = some reading ∧
      precedingReading samples index = some prior ∧ fanoutPoint prior reading = some point := by
  rw [fanoutSeries, walkedSeries_values, left_of_kept fanoutStep_keeps, ← precedingReading,
    Option.map_eq_some_iff]
  refine exists_congr fun sample => ?_
  unfold fanoutStep
  cases fanoutReading sample with
  | none => simp
  | some reading =>
    cases precedingReading samples index <;> simp

/-- While every sample has had a reading, the start at a value's place is its own. -/
theorem fanout_start {index : Nat} {sample : TelemetrySample} {reading prior : FanoutReading}
    {point : UInt64 × UInt64} (located : samples[index]? = some sample)
    (present : fanoutReading sample = some reading)
    (full : ∀ earlier ∈ samples.take index, fanoutReading earlier ≠ none)
    (before : precedingReading samples index = some prior)
    (made : fanoutPoint prior reading = some point) :
    ∃ starts, (fanoutSeries samples).intervalStartsMs = some starts ∧
      starts[index]? = some (some prior.elapsedMs) := by
  have pushed : (fanoutStep (left fanoutStep none (samples.take index)) sample).2.2 =
      [some prior.elapsedMs] := by
    rw [left_of_kept fanoutStep_keeps, ← precedingReading, before, fanoutStep, present]
    simp [made]
  exact walkedSeries_start "Observed" colorGreen
    (fun sample => (fanoutReading sample).toList.length) fanoutStep_pushes located
    (fun earlier member => by
      obtain ⟨_, has⟩ := Option.ne_none_iff_exists'.mp (full earlier member)
      rw [has]
      rfl) pushed

/-- Once a sample had no reading, no value is taken out any more: the starts have
moved up, and the one at its place belongs to a later value. -/
theorem fanout_uncrossed
    (sorted : samples.Pairwise (fun earlier later => earlier.elapsedMs ≤ later.elapsedMs))
    {index : Nat} {sample : TelemetrySample} {reading : FanoutReading}
    (located : samples[index]? = some sample) (present : fanoutReading sample = some reading)
    (missing : ∃ earlier ∈ samples.take index, fanoutReading earlier = none) :
    ¬ Crossed (fanoutSeries samples) phases index := by
  rintro ⟨starts, startMs, elapsedMs, value, recorded, start, valueLocated, mixed⟩
  have same : elapsedMs = sample.elapsedMs := by
    obtain ⟨other, current, _, otherLocated, otherPresent, _, made⟩ :=
      fanoutSeries_value_iff.mp valueLocated
    rw [located] at otherLocated
    obtain rfl := Option.some.inj otherLocated
    rw [← fanoutReading_elapsedMs otherPresent]
    exact fanoutPoint_elapsedMs made
  obtain ⟨inside, rfl⟩ := List.getElem?_eq_some_iff.mp located
  have fewer : ((walk fanoutStep none (samples.take index)).flatMap Prod.snd).length < index := by
    obtain ⟨earlier, member, absent⟩ := missing
    have short := List.length_filterMap_lt_length_iff_exists.mpr ⟨earlier, member, absent⟩
    rw [List.filterMap_eq_flatMap_toList, List.length_flatMap, List.length_take] at short
    rw [length_flatMap_walk Prod.snd (fun sample => (fanoutReading sample).toList.length)
      fanoutStep_pushes]
    omega
  have own : (fanoutStep (left fanoutStep none (samples.take index))
      samples[index]).2.2.length = 1 := by
    rw [fanoutStep_pushes, present]
    rfl
  obtain rfl := Option.some.inj recorded
  rw [flatMap_walk_split _ _ _ located, List.getElem?_append_right (by omega),
    List.getElem?_append_right (by omega)] at start
  have late : samples[index].elapsedMs ≤ startMs := by
    refine later_starts (fun kept after => ?_) (fun later member => ?_)
      (List.mem_of_getElem? start)
    · rw [List.take_succ_eq_append_getElem inside, left, List.foldl_append, List.foldl_cons,
        List.foldl_nil, fanoutStep_keeps, present, Option.some_or, Option.some_inj] at after
      rw [← after, fanoutReading_elapsedMs present]
      exact UInt64.le_refl _
    · have cut : samples = samples.take index ++ samples[index] :: samples.drop (index + 1) := by
        rw [List.getElem_cons_drop, List.take_append_drop]
      rw [cut] at sorted
      exact (List.pairwise_cons.mp (List.pairwise_append.mp sorted).2.1).1 later member
  obtain ⟨marker, _, after, before⟩ := mixed
  rw [same] at before
  exact absurd (UInt64.lt_of_lt_of_le after before) (UInt64.not_lt.mpr late)

/-- Behind a sample without a reading, no fanout value has a marker in its
interval. -/
def FanoutClear (origin : Nat → Option UInt64) (samples : List TelemetrySample)
    (phases : List PhaseMarker) : Prop :=
  ∀ index sample reading prior, samples[index]? = some sample →
    fanoutReading sample = some reading →
    (∃ earlier ∈ samples.take index, fanoutReading earlier = none) →
    precedingReading samples index = some prior → prior.elapsedMs < reading.elapsedMs →
    prior.ingress < reading.ingress → prior.forwarded ≤ reading.forwarded →
    ∀ startMs, origin index = some startMs → ¬ Mixed phases startMs sample.elapsedMs

/-- The fanout line is exact when no later crossing occurs. The origin may be any that
agrees with the prior reading where no sample lacked one. -/
theorem fanoutSeries_exact_iff (phases : List PhaseMarker)
    (sorted : samples.Pairwise (fun earlier later => earlier.elapsedMs ≤ later.elapsedMs))
    {origin : Nat → Option UInt64}
    (agrees : ∀ index, (∀ earlier ∈ samples.take index, fanoutReading earlier ≠ none) →
      origin index = precedingReadingTime samples index) :
    Exact origin phases (fanoutSeries samples) (gapPhaseCrossings (fanoutSeries samples) phases) ↔
      FanoutClear origin samples phases := by
  rw [exact_iff rfl]
  constructor
  · intro same index sample reading prior located present missing before later more forward
      startMs from' mixed
    obtain ⟨point, made⟩ := Option.isSome_iff_exists.mp
      ((fanoutPoint_isSome_iff prior reading).mpr ⟨later, more, forward⟩)
    have time : point.1 = sample.elapsedMs :=
      (fanoutPoint_elapsedMs made).trans (fanoutReading_elapsedMs present)
    refine fanout_uncrossed sorted located present missing ((same index).mpr
      ⟨startMs, point.1, point.2, from', ?_, time ▸ mixed⟩)
    exact fanoutSeries_value_iff.mpr ⟨sample, reading, prior, located, present, before, made⟩
  · intro clear index
    by_cases full : ∀ earlier ∈ samples.take index, fanoutReading earlier ≠ none
    · refine crossed_iff_measuredOver fun point here => ?_
      obtain ⟨sample, reading, prior, located, present, before, made⟩ :=
        fanoutSeries_value_iff.mp here
      obtain ⟨starts, recorded, there⟩ := fanout_start located present full before made
      refine ⟨starts, recorded, there.trans (congrArg some ?_)⟩
      rw [agrees index full, precedingReadingTime, before]
      rfl
    · push Not at full
      refine iff_of_false ?_ ?_
      · rintro ⟨starts, startMs, elapsedMs, value, recorded, start, here, mixed⟩
        obtain ⟨sample, reading, prior, located, present, before, made⟩ :=
          fanoutSeries_value_iff.mp here
        exact fanout_uncrossed sorted located present full
          ⟨starts, startMs, elapsedMs, value, recorded, start, here, mixed⟩
      · rintro ⟨startMs, elapsedMs, value, from', here, mixed⟩
        obtain ⟨sample, reading, prior, located, present, before, made⟩ :=
          fanoutSeries_value_iff.mp here
        obtain ⟨later, more, forward⟩ :=
          (fanoutPoint_isSome_iff prior reading).mp (by rw [made]; rfl)
        have time : elapsedMs = sample.elapsedMs :=
          (fanoutPoint_elapsedMs made).trans (fanoutReading_elapsedMs present)
        exact clear index sample reading prior located present full before later more forward
          startMs from' (time ▸ mixed)

/-- Where no sample lacked a reading, the prior reading is the sample before. -/
theorem precedingTime_agrees (index : Nat)
    (full : ∀ earlier ∈ samples.take index, fanoutReading earlier ≠ none) :
    precedingTime samples index = precedingReadingTime samples index := by
  rw [precedingTime, precedingReadingTime, precedingReading]
  generalize samples.take index = before at full
  induction before using List.reverseRecOn with
  | nil => rfl
  | append_singleton front last _ =>
    obtain ⟨reading, present⟩ := Option.ne_none_iff_exists'.mp (full last (by simp))
    rw [List.filterMap_append, List.filterMap_cons, present]
    simp [fanoutReading_elapsedMs present]

end fanout

section dashboard
variable {set : SampleSet} {expectedFanoutMilli : Option UInt64} {mediaWorkers : UInt32}

/-- A dashboard's panels are the built ones with the crossings taken out. -/
theorem new_eq_ok {data : DashboardData}
    (built : DashboardData.new set expectedFanoutMilli mediaWorkers = .ok data) :
    ∃ panels, DashboardData.panelsOf set expectedFanoutMilli mediaWorkers = .ok panels ∧
      data.panels = panels.map (fun panel =>
        { panel with
          series := panel.series.map (fun series => gapPhaseCrossings series set.phases) }) := by
  simp only [DashboardData.new, bind_eq_ok] at built
  obtain ⟨panels, panelled, returned⟩ := built
  exact ⟨panels, panelled, by rw [← Except.ok.inj returned]⟩

/-- The ten panels, once the workers have been walked. -/
theorem panelsOf_eq_ok {panels : List Panel}
    (panelled : DashboardData.panelsOf set expectedFanoutMilli mediaWorkers = .ok panels) :
    ∃ workers, workerSeries set.samples mediaWorkers = .ok workers ∧
      panels = [cpuPanel set.samples, memoryPanel set.samples, packetRatePanel set.samples,
        payloadRatePanel set.samples, fanoutPanel set.samples expectedFanoutMilli,
        ⟨"Worker egress Mbit / second", .megabitsPerSecond, workers⟩,
        packetLoopPanel set.samples, queuePanel set.samples, pressurePanel set.samples,
        scrapePanel set.samples] := by
  simp only [DashboardData.panelsOf, workerBitratePanel, bind_eq_ok] at panelled
  obtain ⟨_, ⟨workers, walked, made⟩, returned⟩ := panelled
  obtain rfl := Except.ok.inj made
  exact ⟨workers, walked, (Except.ok.inj returned).symm⟩

/-- The titles tell the panels apart. -/
theorem panel_of_title {panels : List Panel}
    (panelled : DashboardData.panelsOf set expectedFanoutMilli mediaWorkers = .ok panels)
    {panel : Panel} (member : panel ∈ panels) :
    (panel.title = "Process CPU" → panel = cpuPanel set.samples) ∧
    (panel.title = "RTP packets / second" ∨ panel.title = "RTP payload Mbit / second" →
      panel = packetRatePanel set.samples ∨ panel = payloadRatePanel set.samples) ∧
    (panel.title = "Local fanout multiplier" →
      panel = fanoutPanel set.samples expectedFanoutMilli) := by
  obtain ⟨workers, _, rfl⟩ := panelsOf_eq_ok panelled
  simp only [List.mem_cons, List.not_mem_nil, or_false] at member
  rcases member with rfl | rfl | rfl | rfl | rfl | rfl | rfl | rfl | rfl | rfl <;>
    simp [cpuPanel, memoryPanel, packetRatePanel, payloadRatePanel, fanoutPanel, packetLoopPanel,
      queuePanel, pressurePanel, scrapePanel]

/-- A worker's line is made without raw values. -/
theorem workerSeries_fresh {workers : List Series}
    (walked : workerSeries set.samples mediaWorkers = .ok workers) :
    ∀ series ∈ workers, series.rawValues = none := by
  simp only [workerSeries, bind_eq_ok] at walked
  obtain ⟨_, _, _, _, slots, _, returned⟩ := walked
  rw [← Except.ok.inj returned]
  intro series member
  obtain ⟨⟨slot, workerId⟩, _, made⟩ := List.mem_filterMap.mp member
  obtain ⟨_, _, rfl⟩ := Option.map_eq_some_iff.mp made
  rfl

/-- No series has raw values of its own before crossings are taken out. -/
theorem panelsOf_fresh {panels : List Panel}
    (panelled : DashboardData.panelsOf set expectedFanoutMilli mediaWorkers = .ok panels) :
    ∀ panel ∈ panels, ∀ series ∈ panel.series, series.rawValues = none := by
  obtain ⟨workers, walked, rfl⟩ := panelsOf_eq_ok panelled
  have fresh := workerSeries_fresh walked
  cases expectedFanoutMilli <;>
    simp [cpuPanel, memoryPanel, packetRatePanel, payloadRatePanel,
      fanoutPanel, packetLoopPanel, queuePanel, pressurePanel, scrapePanel, directSeries,
      pointSeries, counterSeries, fanoutSeries, walkedSeries, expectedFanoutSeries] <;>
    exact fresh

/-- The smoothed lines of the processor, rate and fanout panels lost exactly the values that
were measured over a phase change. A processor percentage was measured from the successful
scrape before it, a rate from the sample before it. -/
def LinesExact (fanoutOrigin : Nat → Option UInt64) (set : SampleSet) (before after : List Panel) :
    Prop :=
  List.Forall₂ (fun panel drawn => List.Forall₂ (fun line shown => line.smooth = true →
    (panel.title = "Process CPU" →
      Exact (precedingScrapeTime set.samples) set.phases line shown) ∧
    (panel.title = "RTP packets / second" ∨ panel.title = "RTP payload Mbit / second" →
      Exact (precedingTime set.samples) set.phases line shown) ∧
    (panel.title = "Local fanout multiplier" → Exact fanoutOrigin set.phases line shown))
    panel.series drawn.series) before after

/-- The markers do not mislead the starts of the processor reports, and stay clear of the
fanout values behind a sample without a reading. -/
structure MarkersClear (fanoutOrigin : Nat → Option UInt64) (set : SampleSet) : Prop where
  server : ReportsClear set.samples set.phases TelemetrySample.serverCpuPercentMilli
  rtc : ReportsClear set.samples set.phases TelemetrySample.rtcCpuPercentMilli
  fanout : FanoutClear fanoutOrigin set.samples set.phases

/-- A gap carries nothing that gaps do not carry. -/
theorem silent_of_ordered (ordered : set.Ordered) (value : TelemetrySample → Option UInt64)
    (none : ∀ elapsedMs final scrape, value (.gap elapsedMs final scrape) = none) :
    ∀ sample ∈ set.samples, sample.isGap = true → value sample = Option.none := by
  intro sample member gap
  rw [ordered.gaps sample member gap]
  exact none _ _ _

/-- The panels with the crossings taken out. -/
def drawnPanels (panels : List Panel) (phases : List PhaseMarker) : List Panel :=
  panels.map fun panel =>
    { panel with series := panel.series.map (fun series => gapPhaseCrossings series phases) }

/-- Panel by panel: the lines of CPU and fanout decide whether all of them are exact, since
the counters' always are and the other panels are not asked about. -/
theorem linesExact_iff (ordered : set.Ordered) {panels : List Panel}
    (panelled : DashboardData.panelsOf set expectedFanoutMilli mediaWorkers = .ok panels)
    {fanoutOrigin : Nat → Option UInt64}
    (agrees : ∀ index, (∀ earlier ∈ set.samples.take index, fanoutReading earlier ≠ none) →
      fanoutOrigin index = precedingReadingTime set.samples index) :
    LinesExact fanoutOrigin set panels (drawnPanels panels set.phases) ↔
      MarkersClear fanoutOrigin set := by
  have server := directSeries_exact_iff "SFU" colorBlue set.phases ordered.samples
    (silent_of_ordered ordered TelemetrySample.serverCpuPercentMilli (fun _ _ _ => rfl))
  have rtc := directSeries_exact_iff "RTC generator" colorOrange set.phases
    ordered.samples
    (silent_of_ordered ordered TelemetrySample.rtcCpuPercentMilli (fun _ _ _ => rfl))
  have fanout := fanoutSeries_exact_iff set.phases ordered.samples agrees
  have lines : LinesExact fanoutOrigin set panels (drawnPanels panels set.phases) ↔
      ∀ panel ∈ panels, ∀ line ∈ panel.series, line.smooth = true →
        (panel.title = "Process CPU" → Exact (precedingScrapeTime set.samples) set.phases line
          (gapPhaseCrossings line set.phases)) ∧
        (panel.title = "RTP packets / second" ∨ panel.title = "RTP payload Mbit / second" →
          Exact (precedingTime set.samples) set.phases line (gapPhaseCrossings line set.phases)) ∧
        (panel.title = "Local fanout multiplier" →
          Exact fanoutOrigin set.phases line (gapPhaseCrossings line set.phases)) := by
    rw [LinesExact, drawnPanels, List.forall₂_map_right_iff, List.forall₂_same]
    simp only [List.forall₂_map_right_iff, List.forall₂_same]
  rw [lines]
  obtain ⟨workers, _, made⟩ := panelsOf_eq_ok panelled
  constructor
  · intro exact_
    subst made
    refine ⟨server.mp ?_, rtc.mp ?_, fanout.mp ?_⟩
    · exact (exact_ (cpuPanel set.samples) (by simp) _ List.mem_cons_self rfl).1 rfl
    · exact (exact_ (cpuPanel set.samples) (by simp) _
        (List.mem_cons_of_mem _ List.mem_cons_self) rfl).1 rfl
    · exact (exact_ (fanoutPanel set.samples expectedFanoutMilli) (by simp) _
        List.mem_cons_self rfl).2.2 rfl
  · rintro ⟨serverClear, rtcClear, fanoutClear⟩ panel member line lineMember smooth
    obtain ⟨cpu, counters, multiplier⟩ := panel_of_title panelled member
    refine ⟨fun title => ?_, fun title => ?_, fun title => ?_⟩
    · obtain rfl := cpu title
      simp only [cpuPanel, List.mem_cons, List.not_mem_nil, or_false] at lineMember
      rcases lineMember with rfl | rfl
      · exact server.mpr serverClear
      · exact rtc.mpr rtcClear
    · rcases counters title with rfl | rfl <;>
        simp only [packetRatePanel, payloadRatePanel, List.mem_cons, List.not_mem_nil, or_false]
          at lineMember <;>
        rcases lineMember with rfl | rfl | rfl <;>
        exact counterSeries_exact _ _
    · obtain rfl := multiplier title
      rcases List.mem_cons.mp lineMember with rfl | expected
      · exact fanout.mpr fanoutClear
      · obtain ⟨milli, _, rfl⟩ := Option.map_eq_some_iff.mp (Option.mem_toList.mp expected)
        cases smooth

/-- Smoothed lines and phase changes. Values are only taken out where the recorded start and
the value's time enclose a marker, and they stay among the raw values. The smoothed lines
lose exactly the values that were measured over a phase change when, and only when, the
markers do not mislead the starts of the processor reports and stay clear of the fanout
values behind a sample without a reading. A fanout value may count as measured from the
sample before it or from the reading it was made of. -/
theorem smoothed_lines_iff (set : SampleSet) (ordered : set.Ordered)
    (expectedFanoutMilli : Option UInt64) (mediaWorkers : UInt32) {data : DashboardData}
    (built : DashboardData.new set expectedFanoutMilli mediaWorkers = .ok data) :
    ∃ panels, DashboardData.panelsOf set expectedFanoutMilli mediaWorkers = .ok panels ∧
      List.Forall₂ (fun before after => after.title = before.title ∧
        List.Forall₂ (Retained set.phases) before.series after.series) panels data.panels ∧
      ∀ fanoutOrigin ∈ [precedingTime set.samples, precedingReadingTime set.samples],
        LinesExact fanoutOrigin set panels data.panels ↔ MarkersClear fanoutOrigin set := by
  obtain ⟨panels, panelled, same⟩ := new_eq_ok built
  refine ⟨panels, panelled, ?_, ?_⟩
  · have fresh := panelsOf_fresh panelled
    rw [same, List.forall₂_map_right_iff, List.forall₂_same]
    refine fun panel member => ⟨rfl, ?_⟩
    rw [List.forall₂_map_right_iff, List.forall₂_same]
    exact fun series inside => gapPhaseCrossings_retained (fresh panel member series inside) _
  · intro fanoutOrigin member
    rw [same]
    refine linesExact_iff ordered panelled (fun index full => ?_)
    simp only [List.mem_cons, List.not_mem_nil, or_false] at member
    rcases member with rfl | rfl
    · exact precedingTime_agrees index full
    · rfl

end dashboard

/-- A successful scrape with or without a processor percentage. -/
def processorSample (elapsedMs : UInt64) (percent : Option UInt64) : TelemetrySample :=
  { TelemetrySample.default with elapsedMs, serverCpuPercentMilli := percent }

/-- Two reports with a silent scrape between them. The warmup begins behind that scrape. -/
def interruptedReports : SampleSet where
  samples := [processorSample 0 none, processorSample 1000 (some 4000), processorSample 2000 none,
    processorSample 3000 (some 9000)]
  phases := [⟨0, .setup⟩, ⟨2500, .warmup⟩]
  unavailable := 0
  errors := []

/-- Only the second report has a marker since the scrape before it, and none misleads. -/
theorem interruptedReports_clear :
    MarkersClear (precedingTime interruptedReports.samples) interruptedReports := by
  have absent : ∀ sample ∈ interruptedReports.samples,
      sample.rtcCpuPercentMilli = none ∧ fanoutReading sample = none := by decide
  refine ⟨⟨?_, ?_⟩, ⟨?_, ?_⟩, ?_⟩
  · intro index sample located present none_ scrapeMs before
    match index with
    | 0 => cases before
    | 1 =>
      obtain rfl := Option.some.inj located
      obtain rfl := Option.some.inj before
      rw [← crosses_iff]
      decide
    | 2 => obtain rfl := Option.some.inj located; cases present
    | 3 =>
      have silent := none_ (processorSample 1000 (some 4000)) (by simp [interruptedReports])
      cases silent
    | more + 4 => cases located
  · intro index sample located present reportMs scrapeMs last before mixed
    match index with
    | 0 | 1 => cases last
    | 2 => obtain rfl := Option.some.inj located; cases present
    | 3 =>
      obtain rfl := Option.some.inj last
      obtain rfl := Option.some.inj before
      rw [← crosses_iff] at mixed
      exact absurd mixed (by decide)
    | more + 4 => cases located
  · intro index sample located present
    rw [(absent sample (List.mem_of_getElem? located)).1] at present
    cases present
  · intro index sample located present
    rw [(absent sample (List.mem_of_getElem? located)).1] at present
    cases present
  · intro index sample reading prior located present
    rw [(absent sample (List.mem_of_getElem? located)).2] at present
    cases present

/-- The second report is taken off the line, since the warmup began in its interval. -/
theorem interrupted_reports_exact : ∃ panels data,
    DashboardData.panelsOf interruptedReports none 1 = .ok panels ∧
      DashboardData.new interruptedReports none 1 = .ok data ∧
      LinesExact (precedingTime interruptedReports.samples) interruptedReports panels
        data.panels := by
  obtain ⟨panels, panelled, -, drawn⟩ :=
    smoothed_lines_iff interruptedReports ⟨by decide, by decide, by decide⟩ none 1 rfl
  exact ⟨panels, _, panelled, rfl, (drawn _ List.mem_cons_self).mpr interruptedReports_clear⟩

/-- The sampler's first processor percentage, measured over the setup marker, stays
on the line: it has no report before it to start from. -/
theorem first_report_hides_crossing :
    ¬ ∀ set : SampleSet, set.Ordered → ∀ expectedFanoutMilli mediaWorkers panels data,
      DashboardData.panelsOf set expectedFanoutMilli mediaWorkers = .ok panels →
      DashboardData.new set expectedFanoutMilli mediaWorkers = .ok data →
      LinesExact (precedingTime set.samples) set panels data.panels := by
  intro claim
  have ordered : SampleSet.Ordered ⟨[processorSample 0 none, processorSample 1000 (some 9000)],
      [⟨500, .setup⟩], 0, []⟩ := ⟨by decide, by decide, by decide⟩
  obtain ⟨panels, panelled⟩ : ∃ panels, DashboardData.panelsOf ⟨[processorSample 0 none,
      processorSample 1000 (some 9000)], [⟨500, .setup⟩], 0, []⟩ none 1 = .ok panels := ⟨_, rfl⟩
  obtain ⟨data, built⟩ : ∃ data, DashboardData.new ⟨[processorSample 0 none,
      processorSample 1000 (some 9000)], [⟨500, .setup⟩], 0, []⟩ none 1 = .ok data := ⟨_, rfl⟩
  obtain ⟨others, same, drawn⟩ := new_eq_ok built
  obtain rfl := Except.ok.inj (panelled.symm.trans same)
  have exact_ := claim _ ordered none 1 panels data panelled built
  rw [drawn] at exact_
  have clear := ((linesExact_iff ordered panelled precedingTime_agrees).mp exact_).server.first
  refine clear 1 (processorSample 1000 (some 9000)) rfl (by decide) (by decide) 0 rfl ?_
  rw [← crosses_iff]
  decide

end SfuLoad.Report
