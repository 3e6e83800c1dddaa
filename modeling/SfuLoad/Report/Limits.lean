import SfuLoad.Report.Crossing
import SfuLoad.Report.Smoothing
import SfuLoad.Report.Workers

/-!
# The shared axes of two dashboards

The axes of a dashboard are taken from the values of its series before they are
smoothed, and two dashboards that are compared share the larger axes. A line is
smoothed only when it is drawn. A mean is no larger than the largest value it is made
of and stands at the time of one of them, so that what is drawn stays within the axes.
-/

namespace SfuLoad.Report

open Kit.Fallible Kit.Saturating Kit.Segments Kit.Walk Model

/-- The values to each side of a point that its mean is over. -/
abbrev smoothingRadius : Nat := 2

/-- How far the axes of a dashboard reach. -/
structure DashboardLimits where
  elapsedMs : UInt64
  panelMaxima : List UInt64
deriving DecidableEq

/-- The largest value of a panel, on the lines and among the raw values. -/
def Panel.maximum (panel : Panel) : UInt64 :=
  let points := panel.series.flatMap (fun series => series.values ++ series.rawValues.getD [])
  (points.filterMap (fun value => value.map Prod.snd)).max?.getD 0

/-- A tenth more, rounded up. The product is in 128 bits. -/
def paddedMaximum (value : UInt64) : UInt64 :=
  if value = 0 then 1 else max (clamped ((value.toNat * 11 + 9) / 10)) value

/-- The limits of one dashboard. -/
def DashboardData.limits (data : DashboardData) : DashboardLimits where
  elapsedMs := max data.elapsedMs 1
  panelMaxima := data.panels.map (fun panel => paddedMaximum panel.maximum)

namespace DashboardLimits

/-- The larger maxima where both have one; what the first has beyond that is kept. -/
def mergedMaxima : List UInt64 → List UInt64 → List UInt64
  | left :: lefts, right :: rights => max left right :: mergedMaxima lefts rights
  | lefts, _ => lefts

/-- The limits of two dashboards that are compared: the greater ones, panel by panel. -/
def shared (left right : DashboardData) : DashboardLimits where
  elapsedMs := max left.limits.elapsedMs right.limits.elapsedMs
  panelMaxima := mergedMaxima left.limits.panelMaxima right.limits.panelMaxima

end DashboardLimits

/-- A panel as it is drawn: the ends of its axes, and the points of its series. -/
structure DrawnPanel where
  elapsedMs : UInt64
  maximum : UInt64
  points : List (UInt64 × UInt64)
deriving DecidableEq

/-- The points of a line that is drawn as it is. -/
def drawSegments (values : List Point) : List (UInt64 × UInt64) :=
  (contiguousSegments values).flatten

/-- The values of a series that are there. -/
def drawPoints (values : List Point) : List (UInt64 × UInt64) := values.filterMap id

/-- A smoothed series is drawn twice: as it was measured, and as its trend. -/
def Series.draw (series : Series) : List (UInt64 × UInt64) :=
  let values := if series.smooth then movingAverage series.values smoothingRadius else series.values
  (if series.smooth then drawPoints (series.rawValues.getD series.values) else []) ++
    (if series.pointsOnly then drawPoints values else drawSegments values)

/-- A panel as it is drawn: its axes and all the points in it. -/
def Panel.renderPanel (panel : Panel) (elapsedMs maximum : UInt64) : DrawnPanel where
  elapsedMs := max elapsedMs 1
  maximum := max maximum 1
  points := panel.series.flatMap Series.draw

/-- The areas, five by two, take the panels in order. -/
def DashboardData.renderSvgWithLimits (data : DashboardData) (limits : DashboardLimits) :
    List DrawnPanel :=
  (data.panels.take (5 * 2)).zipIdx.map (fun panel =>
    panel.1.renderPanel limits.elapsedMs (limits.panelMaxima[panel.2]?.getD 1))

/-- Points within the ends of two axes. -/
def Fits (elapsedMs maximum : UInt64) (values : List Point) : Prop :=
  ∀ point, some point ∈ values → point.1 ≤ elapsedMs ∧ point.2 ≤ maximum

section Smoothed

variable {elapsedMs maximum : UInt64} {values : List Point}

/-- The segments hold the values there are, in order. -/
theorem contiguousSegmentsFrom_flatten (current : List (UInt64 × UInt64)) (values : List Point) :
    (contiguousSegmentsFrom current values).flatten = current ++ values.filterMap id := by
  induction values generalizing current with
  | nil =>
    rw [contiguousSegmentsFrom]
    split
    · next empty => simp [List.isEmpty_iff.mp empty]
    · simp
  | cons value rest inductionHypothesis =>
    cases value with
    | none =>
      rw [contiguousSegmentsFrom]
      split
      · next empty => simp [List.isEmpty_iff.mp empty, inductionHypothesis]
      · simp [inductionHypothesis]
    | some value => simp [contiguousSegmentsFrom, inductionHypothesis]

/-- Cutting a line at its gaps loses no point. -/
theorem drawSegments_eq (values : List Point) : drawSegments values = drawPoints values :=
  contiguousSegmentsFrom_flatten [] values

/-- A point is drawn if it is a value. -/
theorem mem_drawPoints {point : UInt64 × UInt64} :
    point ∈ drawPoints values ↔ some point ∈ values := by
  simp [drawPoints]

/-- A piece of a line that fits the axes fits them too. -/
theorem Fits.segment (fits : Fits elapsedMs maximum values) {segment : List (UInt64 × UInt64)}
    (split : segment ∈ contiguousSegments values) :
    ∀ point ∈ segment, point.1 ≤ elapsedMs ∧ point.2 ≤ maximum := by
  intro point member
  have among : point ∈ drawSegments values := List.mem_flatten.mpr ⟨segment, split, member⟩
  rw [drawSegments_eq, mem_drawPoints] at among
  exact fits point among

/-- A sum that may have been cut is at most the largest value for each point. -/
theorem windowTotals_le {points : List (UInt64 × UInt64)}
    (each : ∀ point ∈ points, point.2 ≤ maximum) :
    (windowTotals points).1 ≤ maximum.toNat * (windowTotals points).2 := by
  have folded (totals : Nat × Nat) (small : totals.1 ≤ maximum.toNat * totals.2) :
      (points.foldl (fun totals point =>
        (min (totals.1 + point.2.toNat) wideLimit, totals.2 + 1)) totals).1 ≤
      maximum.toNat * (points.foldl (fun totals point =>
        (min (totals.1 + point.2.toNat) wideLimit, totals.2 + 1)) totals).2 := by
    induction points generalizing totals with
    | nil => exact small
    | cons point rest inductionHypothesis =>
      have first := UInt64.le_iff_toNat_le.mp (each point (by simp))
      refine inductionHypothesis (fun other member => each other (by simp [member])) _ ?_
      rw [Nat.mul_add_one]
      exact (Nat.min_le_left _ _).trans (Nat.add_le_add small first)
  exact folded (0, 0) (Nat.zero_le _)

/-- A smoothed value is a mean, so it is no greater than the values it is made of. -/
theorem smoothedValue_le {segment : List (UInt64 × UInt64)}
    (each : ∀ point ∈ segment, point.2 ≤ maximum) (radius index : Nat) :
    smoothedValue segment radius index ≤ maximum := by
  simp only [smoothedValue]
  generalize surroundings : (segment.drop _).take _ = points
  have inside (point : UInt64 × UInt64) (member : point ∈ points) : point.2 ≤ maximum := by
    rw [← surroundings] at member
    exact each point (List.mem_of_mem_drop (List.mem_of_mem_take member))
  have small := windowTotals_le inside
  rw [UInt64.le_iff_toNat_le, clamped_toNat]
  refine (Nat.min_le_left _ _).trans (Nat.div_le_of_le_mul ?_)
  rw [Nat.mul_comm]
  exact small.trans (Nat.mul_le_mul_left _ (Nat.le_max_left _ _))

/-- One segment of the loop writes points that fit. -/
theorem averageSegment_fits {segment : List (UInt64 × UInt64)} {progress : List Point × Nat}
    (each : ∀ point ∈ segment, point.1 ≤ elapsedMs ∧ point.2 ≤ maximum) (radius : Nat)
    (written : Fits elapsedMs maximum progress.1) :
    Fits elapsedMs maximum (averageSegment values radius progress segment).1 := by
  intro point member
  simp only [averageSegment] at member
  rcases mem_write member with kept | ⟨own, among, index, same⟩
  · exact written point kept
  · obtain rfl := Option.some.inj same
    exact ⟨(each own among).1,
      smoothedValue_le (fun other inside => (each other inside).2) radius index⟩

/-- The moving average stays within the ends of the axes that hold the values. -/
theorem Fits.movingAverage (fits : Fits elapsedMs maximum values) (radius : Nat) :
    Fits elapsedMs maximum (movingAverage values radius) := by
  have folded (segments : List (List (UInt64 × UInt64)))
      (each : ∀ segment ∈ segments, ∀ point ∈ segment, point.1 ≤ elapsedMs ∧ point.2 ≤ maximum)
      (progress : List Point × Nat) (written : Fits elapsedMs maximum progress.1) :
      Fits elapsedMs maximum (segments.foldl (averageSegment values radius) progress).1 := by
    induction segments generalizing progress with
    | nil => exact written
    | cons segment rest inductionHypothesis =>
      refine inductionHypothesis (fun other member => each other (by simp [member])) _ ?_
      exact averageSegment_fits (each segment (by simp)) radius written
  refine folded _ (fun segment split => fits.segment split) _ (fun point member => ?_)
  cases (List.mem_replicate.mp member).2

/-- All that is drawn of a series fits when its values and its raw values do. -/
theorem Series.draw_fits {series : Series} (line : Fits elapsedMs maximum series.values)
    (raw : Fits elapsedMs maximum (series.rawValues.getD [])) :
    ∀ point ∈ series.draw, point.1 ≤ elapsedMs ∧ point.2 ≤ maximum := by
  have measured : Fits elapsedMs maximum (series.rawValues.getD series.values) := by
    cases kept : series.rawValues with
    | none => exact line
    | some values => rwa [kept] at raw
  have trend : Fits elapsedMs maximum (if series.smooth = true then
      Report.movingAverage series.values smoothingRadius else series.values) := by
    split
    · exact line.movingAverage smoothingRadius
    · exact line
  intro point member
  rw [Series.draw, drawSegments_eq, ite_self, List.mem_append] at member
  rcases member with asMeasured | asTrend
  · split at asMeasured
    · exact measured point (mem_drawPoints.mp asMeasured)
    · cases asMeasured
  · exact trend point (mem_drawPoints.mp asTrend)

end Smoothed

/-- The points of a series were taken at times of the samples. -/
def Timed (samples : List TelemetrySample) (values : List Point) : Prop :=
  ∀ point, some point ∈ values → ∃ sample ∈ samples, point.1 = sample.elapsedMs

section Times

variable {samples : List TelemetrySample}

/-- A series of one value for each sample stands at its samples' times. -/
theorem timed_of_each {taken : TelemetrySample → Point}
    (each : ∀ sample point, taken sample = some point → point.1 = sample.elapsedMs) :
    Timed samples (samples.map taken) := by
  intro point member
  obtain ⟨sample, among, made⟩ := List.mem_map.mp member
  exact ⟨sample, among, each sample point made⟩

/-- The direct series does. -/
theorem directSeries_timed (name : String) (color : RGBColor)
    (value : TelemetrySample → Option UInt64) (smooth : Bool) :
    Timed samples (directSeries name color samples value smooth).values := by
  refine timed_of_each (fun sample point made => ?_)
  obtain ⟨_, _, rfl⟩ := Option.map_eq_some_iff.mp made
  rfl

/-- So does any series made by a walk that takes each sample's time. -/
theorem walkedSeries_timed (name : String) (color : RGBColor) {memory : Type}
    {step : Option memory → TelemetrySample → Option memory × Point × List (Option UInt64)}
    (each : ∀ previous sample point, (step previous sample).2.1 = some point →
      point.1 = sample.elapsedMs) : Timed samples (walkedSeries name color step samples).values := by
  intro point member
  obtain ⟨index, located⟩ := List.mem_iff_getElem?.mp member
  rw [walkedSeries_values] at located
  obtain ⟨sample, there, made⟩ := Option.map_eq_some_iff.mp located
  exact ⟨sample, List.mem_of_getElem? there, each _ sample point made⟩

/-- The counters. -/
theorem counterSeries_timed (name : String) (color : RGBColor)
    (value : TelemetrySample → Option UInt64) (scale : UInt64) :
    Timed samples (counterSeries name color samples value scale).values := by
  refine walkedSeries_timed name color (fun previous sample point made => ?_)
  obtain ⟨_, _, measured⟩ := counterStep_pushes value scale previous sample
  exact (measured point made).1

/-- The fanout. -/
theorem fanoutSeries_timed : Timed samples (fanoutSeries samples).values := by
  intro point member
  obtain ⟨index, located⟩ := List.mem_iff_getElem?.mp member
  obtain ⟨sample, reading, prior, there, present, -, made⟩ := fanoutSeries_value_iff.mp located
  refine ⟨sample, List.mem_of_getElem? there, ?_⟩
  rw [fanoutPoint_elapsedMs made, fanoutReading_elapsedMs present]

/-- The expected fanout, which is constant. -/
theorem expectedFanoutSeries_timed (expected : UInt64) :
    Timed samples (expectedFanoutSeries samples expected).values := by
  refine timed_of_each (fun sample point made => ?_)
  split at made
  · cases made
  · rw [← Option.some.inj made]

/-- And the line of each worker. -/
theorem workerSeries_timed {mediaWorkers : UInt32} {workers : List Series}
    (walked : workerSeries samples mediaWorkers = .ok workers) :
    ∀ series ∈ workers, Timed samples series.values := by
  obtain ⟨-, -, rfl⟩ := (workerSeries_eq_ok samples mediaWorkers workers).mp walked
  intro series member
  obtain ⟨workerId, -, rfl⟩ := List.mem_map.mp member
  refine timed_of_each (fun sample point made => ?_)
  obtain ⟨_, _, rfl⟩ := Option.map_eq_some_iff.mp made
  rfl

end Times

section Built

variable {set : SampleSet} {expectedFanoutMilli : Option UInt64} {mediaWorkers : UInt32}
  {data : DashboardData}

/-- So every series of the ten panels stands at its samples' times. -/
theorem panelsOf_timed {panels : List Panel}
    (panelled : DashboardData.panelsOf set expectedFanoutMilli mediaWorkers = .ok panels) :
    ∀ panel ∈ panels, ∀ series ∈ panel.series, Timed set.samples series.values := by
  obtain ⟨workers, walked, rfl⟩ := panelsOf_eq_ok panelled
  have numbered := workerSeries_timed walked
  have planned (series : Series) (member : series ∈
      (expectedFanoutMilli.map (expectedFanoutSeries set.samples)).toList) :
      Timed set.samples series.values := by
    obtain ⟨expected, -, rfl⟩ := Option.map_eq_some_iff.mp (Option.mem_toList.mp member)
    exact expectedFanoutSeries_timed expected
  simp only [List.forall_mem_cons, cpuPanel, memoryPanel, packetRatePanel, payloadRatePanel,
    fanoutPanel, packetLoopPanel, queuePanel, pressurePanel, scrapePanel, pointSeries,
    directSeries_timed, counterSeries_timed, fanoutSeries_timed, true_and]
  exact ⟨by simp, by simp, by simp, by simp, planned, numbered, by simp⟩

/-- Taking crossings out leaves no point that was not there. -/
theorem gapPhaseCrossings_timed {series : Series} (timed : Timed set.samples series.values)
    (fresh : series.rawValues = none) (phases : List PhaseMarker) :
    Timed set.samples (gapPhaseCrossings series phases).values ∧
      Timed set.samples ((gapPhaseCrossings series phases).rawValues.getD []) := by
  constructor
  · intro point member
    obtain ⟨index, located⟩ := List.mem_iff_getElem?.mp member
    exact timed point (List.mem_of_getElem? ((remaining_iff series phases index point).mp located).1)
  · have raw : (gapPhaseCrossings series phases).rawValues = none ∨
        (gapPhaseCrossings series phases).rawValues = some series.values := by
      unfold gapPhaseCrossings
      rw [fresh]
      split
      · exact Or.inl fresh
      · dsimp only
        split
        · exact Or.inl fresh
        · exact Or.inr rfl
    rcases raw with same | same
    · rw [same]
      intro point member
      cases member
    · rw [same]
      exact timed

/-- A built dashboard reaches to the last of its samples. -/
theorem new_elapsedMs
    (built : DashboardData.new set expectedFanoutMilli mediaWorkers = .ok data)
    {sample : TelemetrySample} (member : sample ∈ set.samples) :
    sample.elapsedMs ≤ data.elapsedMs := by
  simp only [DashboardData.new, bind_eq_ok] at built
  obtain ⟨_, -, returned⟩ := built
  rw [← Except.ok.inj returned]
  dsimp only
  have among : sample.elapsedMs ∈ set.samples.map TelemetrySample.elapsedMs ++
      set.phases.map PhaseMarker.elapsedMs :=
    List.mem_append_left _ (List.mem_map_of_mem member)
  obtain ⟨latest, found⟩ :=
    Option.isSome_iff_exists.mp (List.isSome_max?_iff.mpr (List.ne_nil_of_mem among))
  rw [found, Option.getD_some]
  exact UInt64.le_trans ((List.max?_eq_some_iff.mp found).2 _ among) Std.left_le_max

/-- There are always ten panels, so two dashboards can share limits. -/
theorem new_panels_length
    (built : DashboardData.new set expectedFanoutMilli mediaWorkers = .ok data) :
    data.panels.length = 10 := by
  obtain ⟨panels, panelled, shown⟩ := new_eq_ok built
  obtain ⟨_, -, rfl⟩ := panelsOf_eq_ok panelled
  rw [shown]
  rfl

/-- All that a panel draws is within the dashboard's time and the panel's maximum. -/
theorem new_draw_fits
    (built : DashboardData.new set expectedFanoutMilli mediaWorkers = .ok data) {panel : Panel}
    (member : panel ∈ data.panels) :
    ∀ point ∈ panel.series.flatMap Series.draw,
      point.1 ≤ data.elapsedMs ∧ point.2 ≤ panel.maximum := by
  obtain ⟨panels, panelled, shown⟩ := new_eq_ok built
  rw [shown] at member
  obtain ⟨plain, among, rfl⟩ := List.mem_map.mp member
  intro point drawn
  obtain ⟨series, inPanel, drawn⟩ := List.mem_flatMap.mp drawn
  obtain ⟨whole, inPlain, gapped⟩ := List.mem_map.mp inPanel
  obtain ⟨line, raw⟩ := gapPhaseCrossings_timed (panelsOf_timed panelled plain among whole inPlain)
    (panelsOf_fresh panelled plain among whole inPlain) set.phases
  rw [gapped] at line raw
  have early {values : List Point} (timed : Timed set.samples values) (point : UInt64 × UInt64)
      (there : some point ∈ values) : point.1 ≤ data.elapsedMs := by
    obtain ⟨sample, taken, same⟩ := timed point there
    rw [same]
    exact new_elapsedMs built taken
  have low (point : UInt64 × UInt64)
      (there : some point ∈ series.values ++ series.rawValues.getD []) :
      point.2 ≤ Panel.maximum
        { plain with series :=
            plain.series.map (fun series => gapPhaseCrossings series set.phases) } := by
    refine largest_le_iff.mp (UInt64.le_refl _) _ (List.mem_filterMap.mpr ⟨some point, ?_, rfl⟩)
    exact List.mem_flatMap.mpr ⟨series, inPanel, there⟩
  exact Series.draw_fits
    (fun point there => ⟨early line point there, low point (List.mem_append_left _ there)⟩)
    (fun point there => ⟨early raw point there, low point (List.mem_append_right _ there)⟩)
    point drawn

end Built

section Shared

/-- A padded maximum is no less than the maximum, even where it clamps. -/
theorem le_paddedMaximum (value : UInt64) : value ≤ paddedMaximum value := by
  unfold paddedMaximum
  split
  · next zero =>
    rw [zero]
    decide
  · exact Std.right_le_max

/-- A padded maximum is never zero. -/
theorem one_le_paddedMaximum (value : UInt64) : 1 ≤ paddedMaximum value := by
  by_cases zero : value = 0
  · rw [paddedMaximum, if_pos zero]
    exact UInt64.le_refl 1
  · refine UInt64.le_trans ?_ (le_paddedMaximum value)
    rw [UInt64.le_iff_toNat_le]
    exact Nat.pos_of_ne_zero (fun none => zero (UInt64.toNat_inj.mp none))

/-- It does not matter which dashboard is named first. -/
theorem mergedMaxima_comm {left right : List UInt64} (same : left.length = right.length) :
    DashboardLimits.mergedMaxima left right = DashboardLimits.mergedMaxima right left := by
  induction left generalizing right with
  | nil =>
    obtain rfl := List.length_eq_zero_iff.mp same.symm
    rfl
  | cons first rest inductionHypothesis =>
    obtain ⟨other, others, rfl⟩ := List.exists_cons_of_length_eq_add_one same.symm
    rw [DashboardLimits.mergedMaxima, DashboardLimits.mergedMaxima, larger_comm,
      inductionHypothesis (Nat.succ.inj same)]

/-- Each maximum of the first has one in its place that is no smaller. -/
theorem le_mergedMaxima {left right : List UInt64} {index : Nat} {maximum : UInt64}
    (located : left[index]? = some maximum) :
    ∃ merged, (DashboardLimits.mergedMaxima left right)[index]? = some merged ∧
      maximum ≤ merged := by
  induction left generalizing right index with
  | nil => cases located
  | cons first rest inductionHypothesis =>
    cases right with
    | nil => exact ⟨maximum, located, UInt64.le_refl _⟩
    | cons other others =>
      cases index with
      | zero =>
        obtain rfl := Option.some.inj located
        exact ⟨_, rfl, Std.left_le_max⟩
      | succ index => exact inductionHypothesis located

/-- The shared limits leave room for all that the first dashboard draws. -/
theorem shared_covers {set : SampleSet} {expectedFanoutMilli : Option UInt64}
    {mediaWorkers : UInt32} {left : DashboardData} (right : DashboardData)
    (built : DashboardData.new set expectedFanoutMilli mediaWorkers = .ok left) {index : Nat}
    {drawn : DrawnPanel}
    (located : (left.renderSvgWithLimits (DashboardLimits.shared left right))[index]? = some drawn) :
    drawn.elapsedMs = (DashboardLimits.shared left right).elapsedMs ∧
    (DashboardLimits.shared left right).panelMaxima[index]? = some drawn.maximum ∧
    ∀ point ∈ drawn.points, point.1 ≤ drawn.elapsedMs ∧ point.2 ≤ drawn.maximum := by
  rw [DashboardData.renderSvgWithLimits, List.take_of_length_le (new_panels_length built).le,
    List.getElem?_map, List.getElem?_zipIdx, Option.map_map] at located
  obtain ⟨panel, there, rfl⟩ := Option.map_eq_some_iff.mp located
  have padded : left.limits.panelMaxima[index]? = some (paddedMaximum panel.maximum) := by
    rw [DashboardData.limits, List.getElem?_map, there]
    rfl
  obtain ⟨merged, found, above⟩ := @le_mergedMaxima _ right.limits.panelMaxima _ _ padded
  have shared : (DashboardLimits.shared left right).panelMaxima[index]? = some merged := found
  have late : left.elapsedMs ≤ (DashboardLimits.shared left right).elapsedMs :=
    UInt64.le_trans Std.left_le_max Std.left_le_max
  have lasting : max (DashboardLimits.shared left right).elapsedMs 1 =
      (DashboardLimits.shared left right).elapsedMs :=
    larger_of_le (UInt64.le_trans Std.right_le_max Std.left_le_max)
  have positive : max merged 1 = merged :=
    larger_of_le (UInt64.le_trans (one_le_paddedMaximum _) above)
  simp only [Function.comp_apply, Nat.zero_add, shared, Option.getD_some, Panel.renderPanel,
    lasting, positive, true_and]
  intro point drawn
  obtain ⟨early, low⟩ := new_draw_fits built (List.mem_of_getElem? there) point drawn
  exact ⟨UInt64.le_trans early late,
    UInt64.le_trans low (UInt64.le_trans (le_paddedMaximum _) above)⟩

/-- Two dashboards share their limits whichever is named first. -/
theorem shared_comm {left right : DashboardData}
    (same : left.panels.length = right.panels.length) :
    DashboardLimits.shared left right = DashboardLimits.shared right left := by
  have maxima := @mergedMaxima_comm left.limits.panelMaxima right.limits.panelMaxima
    (by simp [DashboardData.limits, same])
  rw [DashboardLimits.shared, DashboardLimits.shared, maxima, larger_comm]

end Shared

/-- Whatever the samples of two dashboards, all their panels are drawn over the axes
that the dashboards share, and no point that is drawn lies outside of them. The shared
axes do not depend on the order of the dashboards. -/
theorem points_within_shared_limits (first second : SampleSet)
    (firstFanout secondFanout : Option UInt64) (firstWorkers secondWorkers : UInt32)
    (left right : DashboardData)
    (leftBuilt : DashboardData.new first firstFanout firstWorkers = .ok left)
    (rightBuilt : DashboardData.new second secondFanout secondWorkers = .ok right) :
    (∀ data, data = left ∨ data = right →
      (data.renderSvgWithLimits (DashboardLimits.shared left right)).length = data.panels.length ∧
      ∀ (index : Nat) drawn,
        (data.renderSvgWithLimits (DashboardLimits.shared left right))[index]? = some drawn →
        drawn.elapsedMs = (DashboardLimits.shared left right).elapsedMs ∧
        (DashboardLimits.shared left right).panelMaxima[index]? = some drawn.maximum ∧
        ∀ point ∈ drawn.points, point.1 ≤ drawn.elapsedMs ∧ point.2 ≤ drawn.maximum) ∧
    DashboardLimits.shared left right = DashboardLimits.shared right left := by
  have leftCount := new_panels_length leftBuilt
  have rightCount := new_panels_length rightBuilt
  have commutes : DashboardLimits.shared left right = DashboardLimits.shared right left :=
    shared_comm (leftCount.trans rightCount.symm)
  refine ⟨fun data either => ⟨?_, fun index drawn located => ?_⟩, commutes⟩
  · have count : data.panels.length = 10 := by
      rcases either with rfl | rfl
      · exact leftCount
      · exact rightCount
    simp [DashboardData.renderSvgWithLimits, count]
  · rcases either with rfl | rfl
    · exact shared_covers right leftBuilt located
    · rw [commutes] at located ⊢
      exact shared_covers left rightBuilt located

/-- A processor percentage at the end of its type, between ordinary ones. -/
def busyRun : SampleSet :=
  ⟨[processorSample 1000 (some 200), processorSample 2000 (some 18446744073709551615),
    processorSample 3000 (some 7)], [], 0, []⟩

/-- One sample, and a marker long after it. -/
def idleRun : SampleSet := ⟨[processorSample 0 (some 1)], [⟨9000, .drain⟩], 0, []⟩

/-- Drawn on shared axes, both stay within them. -/
theorem busy_and_idle_within :
    ∃ left right, DashboardData.new busyRun none 1 = .ok left ∧
      DashboardData.new idleRun (some 1500) 64 = .ok right ∧
      ∀ (index : Nat) drawn,
        (left.renderSvgWithLimits (DashboardLimits.shared left right))[index]? = some drawn →
        ∀ point ∈ drawn.points, point.1 ≤ drawn.elapsedMs ∧ point.2 ≤ drawn.maximum := by
  obtain ⟨left, leftBuilt⟩ : ∃ left, DashboardData.new busyRun none 1 = .ok left := ⟨_, rfl⟩
  obtain ⟨right, rightBuilt⟩ : ∃ right, DashboardData.new idleRun (some 1500) 64 = .ok right :=
    ⟨_, rfl⟩
  obtain ⟨within, -⟩ := points_within_shared_limits busyRun idleRun none (some 1500) 1 64 left
    right leftBuilt rightBuilt
  refine ⟨left, right, leftBuilt, rightBuilt, fun index drawn located => ?_⟩
  exact ((within left (Or.inl rfl)).2 index drawn located).2.2

end SfuLoad.Report
