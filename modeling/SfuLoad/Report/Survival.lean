import SfuLoad.Report.Axes

/-!
# Reports on whatever can be decoded

No operation of a report leaves its type, divides by zero or gives up, with one
exception: a room of the smoke with the most receivers a word can hold has one
peer too many. Every other list of runs gets its report, with a row for each run
whatever is wrong with it.
-/

namespace SfuLoad.Report

open Kit.Checked Kit.Sorting Std
open Kit.Fallible (bind_eq_ok ok_bind)
open Arithmetic (Crowded)
open Model hiding checkedAdd checkedMul

variable {mode : Mode}

section Rows

/-- A row gets written if each of its cells does. -/
theorem tableRow_completes_iff {texts : List (Machine String)} :
    Completes (tableRow texts) ↔ ∀ text ∈ texts, Completes text := by
  constructor
  · intro row
    exact completes_of_mapM row.of_bind
  · intro each
    exact (Completes.mapM each).bind (fun _ _ => completes_pure _)

/-- A row without cells is rendered. -/
@[simp] theorem tableRow_nil_completes : Completes (tableRow []) :=
  tableRow_completes_iff.mpr (by simp)

/-- A row is rendered if each of its cells is. -/
@[simp] theorem tableRow_cons_completes (first : Machine String) (rest : List (Machine String)) :
    Completes (tableRow (first :: rest)) ↔ Completes first ∧ Completes (tableRow rest) := by
  rw [tableRow_completes_iff, tableRow_completes_iff, List.forall_mem_cons]

/-- A verdict is rendered, whatever it is. -/
theorem validationLabel_completes (run : RunData) : Completes (validationLabel mode run) := by
  rw [validationLabel, Arithmetic.validateRun_eq, ok_bind]
  cases Report.validateRun run with
  | error message => exact completes_pure _
  | ok done => exact completes_pure _

/-- A text around a number returns if the number does. -/
theorem completes_text {α : Type} {number : Machine α} (text : α → String)
    (returns : Completes number) : Completes (do return text (← number)) :=
  returns.bind (fun _ _ => completes_pure _)

/-- The workload's row asks for the peers of a room, and for nothing else that could fail. -/
theorem workloadRow_completes {run : RunData} (countable : ¬Crowded run.result.scenario) :
    Completes (workloadRow mode run) := by
  simp only [workloadRow, tableRow_cons_completes, tableRow_nil_completes, and_true,
    completes_pure, grouped_completes, validationLabel_completes, true_and]
  refine ⟨?_, ?_, ?_, ?_⟩
  · exact completes_text _ (completes_of_eq (Arithmetic.runPassed_eq run))
  · exact completes_text _ (completes_of_eq (Arithmetic.peersPerRoom_eq countable))
  · exact completes_text _ (completes_of_eq (Arithmetic.durationSeconds_eq _))
  · exact completes_text _ (grouped_completes _)

/-- The row of a crowded smoke cannot be computed. -/
theorem workloadRow_crowded {run : RunData} (crowded : Crowded run.result.scenario) :
    ¬Completes (workloadRow .checking run) := by
  intro row
  have peers := tableRow_completes_iff.mp row
    (do return s!"{← Arithmetic.peersPerRoom .checking run.result.scenario}") (by simp)
  exact Arithmetic.peersPerRoom_crowded crowded peers.of_bind

/-- The row of the delivered packets is rendered for every run. -/
theorem deliveryRow_completes (run : RunData) : Completes (deliveryRow mode run) := by
  simp only [deliveryRow, tableRow_cons_completes, tableRow_nil_completes, and_true,
    completes_pure, grouped_completes, true_and]
  refine ⟨?_, ?_, ?_, ?_⟩
  · exact completes_text _ (grouped_completes _)
  · exact (Arithmetic.scheduledPayloadBitsPerSecond_completes _).bind
      (fun _ _ => formatBitsPerSecond_completes _)
  · exact (Arithmetic.deliveredPayloadBitsPerSecond_completes _).bind
      (fun _ _ => formatBitsPerSecond_completes _)
  · exact completes_text _ (completes_of_eq (Arithmetic.runPassed_eq run))

/-- So is the row of the discrepancies. -/
theorem discrepancyRow_completes (run : RunData) : Completes (discrepancyRow mode run) := by
  simp [discrepancyRow]

/-- So is the row of the samples. -/
theorem sampleRow_completes (summarized : Summarized) : Completes (sampleRow mode summarized) := by
  simp [sampleRow]

/-- So is the row of the metrics, with what is missing marked. -/
theorem metricRow_completes (summarized : Summarized) : Completes (metricRow mode summarized) := by
  simp [metricRow]

end Rows

section Profile

/-- The constants of the media profile make whole numbers. -/
theorem mediaProfile_eq :
    mediaProfile mode = .ok ⟨20, 2, 61, 846, 32000, 146400, 3722400, 907, 3868800⟩ := by
  cases mode with
  | checking => rfl
  | wrapping => rfl

/-- A rate that comes out in tenths is rendered. -/
theorem formatProfilePacketRate_completes {count : UInt64} {seconds : UInt32}
    (lasting : 0 < seconds) (exact : count.toNat * 10 % seconds.toNat = 0) :
    Completes (formatProfilePacketRate mode count seconds) := by
  have bound := count.toNat_lt
  have present : seconds.toNat ≠ 0 := by
    rw [UInt32.lt_iff_toNat_lt, UInt32.toNat_zero] at lasting
    omega
  have fits : count.toNat * 10 < u128 := by
    rw [u128]
    omega
  simp only [formatProfilePacketRate, require_of _ lasting, require_of _ fits, require_of _ exact,
    div_of_ne present, ok_bind]
  split
  · rw [div_of_ne (by decide), ok_bind]
    exact grouped_completes _
  · exact formatTenths_completes _

/-- The row of a stream whose packets come at a whole number of tenths a second. -/
theorem profileRow_completes {unit payload : String} {count bps : UInt64} {seconds : UInt32}
    (lasting : 0 < seconds) (exact : count.toNat * 10 % seconds.toNat = 0) :
    Completes (tableRow [return unit, return payload, formatProfilePacketRate mode count seconds,
      return s!"{← grouped mode bps} bit/s"]) := by
  simp only [tableRow_cons_completes, tableRow_nil_completes, and_true, completes_pure, true_and]
  exact ⟨formatProfilePacketRate_completes lasting exact, completes_text _ (grouped_completes _)⟩

/-- So is the profile of a stream: its constants are such that every division comes out. -/
theorem renderMediaProfile_completes : Completes (renderMediaProfile mode) := by
  rw [renderMediaProfile, mediaProfile_eq, ok_bind]
  refine (grouped_completes _).bind (fun _ _ => ?_)
  refine Completes.bind (by simp) (fun _ _ => ?_)
  refine Completes.bind (profileRow_completes (by decide) (by decide)) (fun _ _ => ?_)
  refine Completes.bind (profileRow_completes (by decide) (by decide)) (fun _ _ => ?_)
  exact Completes.bind (profileRow_completes (by decide) (by decide)) (fun _ _ => completes_pure _)

end Profile

section Charts

/-- The axis of a chart can be computed from any values. -/
theorem chartAxisMax_completes (values : List UInt64) (minimum : UInt64) :
    Completes (chartAxisMax mode values minimum) := by
  obtain ⟨axis, returned, _⟩ := chartAxisMax_eq mode values minimum
  exact completes_of_eq returned

/-- Never is just one label left: five are split into three and two. -/
theorem chunkSize_returns {remaining : Nat} (several : 2 ≤ remaining) :
    ∃ size, chunkSize mode remaining = .ok size ∧
      2 ≤ size ∧ size ≤ remaining ∧ remaining ≠ size + 1 := by
  have five : add mode usize categoryChartPoints 1 = .ok 5 := by cases mode <;> rfl
  have three : sub mode usize categoryChartPoints 1 = .ok 3 := by cases mode <;> rfl
  rw [chunkSize, five, ok_bind, three]
  by_cases split : remaining = 5
  · exact ⟨3, if_pos split, by omega, by omega, by omega⟩
  · refine ⟨min remaining 4, if_neg split, ?_, ?_, ?_⟩
    · omega
    · omega
    · omega

/-- The panels take at least two labels each, and all of them are there. -/
theorem chartRanges_returns {labels passes start : Nat} (enough : labels ≤ start + passes)
    (small : labels < 2 ^ 32) (several : labels ≠ start + 1) :
    ∃ ranges, chartRanges mode labels passes start = .ok ranges ∧ ranges.length ≤ passes ∧
      ∀ range ∈ ranges, range.1 + 2 ≤ range.2 ∧ range.2 ≤ labels := by
  induction passes generalizing start with
  | zero =>
    refine ⟨[], ?_, Nat.le_refl _, by simp⟩
    rw [chartRanges, if_neg (by omega)]
    rfl
  | succ passes hypothesis =>
    rw [chartRanges]
    by_cases more : start < labels
    · rw [if_pos more, sub_of_le (by omega), ok_bind]
      obtain ⟨size, chosen, atLeast, atMost, left⟩ :=
        @chunkSize_returns mode (labels - start) (by omega)
      rw [chosen, ok_bind, add_of_lt (by rw [usize]; omega), ok_bind]
      obtain ⟨ranges, answered, few, each⟩ := @hypothesis (start + size) (by omega) (by omega)
      refine ⟨(start, start + size) :: ranges, ?_, ?_, ?_⟩
      · rw [answered]
        rfl
      · rw [List.length_cons]
        omega
      · intro range member
        rcases List.mem_cons.mp member with rfl | later
        · constructor
          · exact Nat.add_le_add_left atLeast start
          · omega
        · exact each range later
    · rw [if_neg more]
      exact ⟨[], rfl, Nat.zero_le _, by simp⟩

/-- A slice within a list is there, and has at least two items if its range does. -/
theorem slice_eq {α : Type} {items : List α} {range : Nat × Nat}
    (inside : range.1 + 2 ≤ range.2 ∧ range.2 ≤ items.length) :
    ∃ part, slice items range = some part ∧ 2 ≤ part.length := by
  refine ⟨_, if_pos ⟨by omega, inside.2⟩, ?_⟩
  rw [List.length_take, List.length_drop]
  omega

/-- A chart can be drawn if each of its lines has a value for each label. -/
structure Drawable (labels : List String) (series : List ChartSeries) : Prop where
  labelled : labels ≠ []
  lines : series ≠ []
  colors : series.length ≤ 2
  lengths : ∀ line ∈ series, line.values.length = labels.length

/-- A panel with at least two labels and no more lines than colors is drawn. -/
theorem renderCategoryChart_completes {title description yAxis : String} {labels : List String}
    {maximum : UInt64} {series : List ChartSeries} (several : 2 ≤ labels.length)
    (colors : series.length ≤ 2) :
    Completes (renderCategoryChart title description labels yAxis maximum series) := by
  have palette : series.length ≤ lineColors.length := colors
  rw [renderCategoryChart, require_of _ several, ok_bind, require_of _ palette]
  exact completes_ok _

/-- Each panel of a chart is such a panel. -/
theorem renderPanel_completes {title description yAxis : String} {labels : List String}
    {minimum : UInt64} {series : List ChartSeries} (drawable : Drawable labels series)
    {chunkCount : Nat} {chunk : (Nat × Nat) × Nat} (few : chunk.2 < 2 ^ 32)
    (inside : chunk.1.1 + 2 ≤ chunk.1.2 ∧ chunk.1.2 ≤ labels.length) :
    Completes (renderPanel mode title description labels yAxis minimum series chunkCount
      chunk) := by
  obtain ⟨chartLabels, labelled, several⟩ := slice_eq inside
  have parts : Completes (series.mapM (fun line => do
      let values ← expect (slice line.values chunk.1) "chart series chunk is outside its values"
      return ChartSeries.mk line.name values)) := by
    apply Completes.mapM
    intro line member
    obtain ⟨values, present, _⟩ :=
      @slice_eq _ line.values chunk.1 (by rw [drawable.lengths line member]; exact inside)
    rw [present]
    exact completes_ok _
  rw [renderPanel, labelled, expect, ok_bind]
  refine Completes.bind ?_ (fun _ _ => parts.bind (fun chartSeries answered => ?_))
  · split
    · exact completes_pure _
    · rw [add_of_lt (by rw [usize]; omega)]
      exact completes_ok _
  · refine (chartAxisMax_completes _ _).bind (fun _ _ => ?_)
    apply renderCategoryChart_completes several
    rw [length_of_mapM answered]
    exact drawable.colors

/-- So a chart is drawn if it has labels and every line has as many values. -/
theorem renderCategoryCharts_completes {title description yAxis : String} {labels : List String}
    {minimum : UInt64} {series : List ChartSeries} (drawable : Drawable labels series) :
    Completes (renderCategoryCharts mode title description labels yAxis minimum series) := by
  rw [renderCategoryCharts, require_of _ drawable.labelled, ok_bind,
    require_of _ drawable.lines, ok_bind, require_of _ drawable.lengths, ok_bind]
  dsimp only
  have present : 0 < labels.length := List.length_pos_iff.mpr drawable.labelled
  split
  · exact completes_pure _
  · split
    · exact completes_pure _
    · next several few =>
      split
      · exact completes_pure _
      · rw [maxChartScenarios, Nat.not_lt] at few
        obtain ⟨ranges, answered, count, inside⟩ :=
          @chartRanges_returns mode labels.length labels.length 0 (by omega) (by omega) (by omega)
        rw [answered, ok_bind]
        refine Completes.bind (Completes.mapM ?_) (fun _ _ => completes_pure _)
        intro chunk member
        have index := List.snd_lt_of_mem_zipIdx member
        apply renderPanel_completes drawable
        · omega
        · exact inside chunk.1 (List.fst_mem_of_mem_zipIdx member)

end Charts

section Sections

/-- A rate in thousands is a quotient by a constant. -/
theorem thousands_completes {rate : Machine UInt64} (returns : Completes rate) :
    Completes (thousands rate) := by
  refine returns.bind (fun value _ => ?_)
  rw [div_of_ne (by decide)]
  exact completes_ok _

/-- The section of the delivered packets is rendered for any runs, if there are some. -/
theorem renderDelivery_completes {runs : List RunData} (present : runs ≠ []) :
    Completes (renderDelivery mode runs) := by
  have labelled : runs.map (fun run => chartLabel run.result.scenario) ≠ [] := by simpa using present
  obtain ⟨scheduledRates, scheduled, _⟩ := @mapM_returns _ _ (fun run =>
    thousands (Arithmetic.scheduledPayloadBitsPerSecond mode run.result)) runs
    (fun run _ => thousands_completes (Arithmetic.scheduledPayloadBitsPerSecond_completes _))
  obtain ⟨observedRates, observed, _⟩ := @mapM_returns _ _ (fun run =>
    thousands (Arithmetic.deliveredPayloadBitsPerSecond mode run.result)) runs
    (fun run _ => thousands_completes (Arithmetic.deliveredPayloadBitsPerSecond_completes _))
  rw [renderDelivery, scheduled, ok_bind, observed, ok_bind]
  refine Completes.bind ?_ (fun _ _ => ?_)
  · split
    · refine (renderCategoryCharts_completes ⟨labelled, by simp, by simp, by simp⟩).bind
        (fun _ _ => ?_)
      refine (renderCategoryCharts_completes ⟨labelled, by simp, by simp, ?_⟩).bind
        (fun _ _ => completes_pure _)
      simp [length_of_mapM scheduled, length_of_mapM observed]
    · exact completes_pure _
  · exact (Completes.mapM (fun run _ => deliveryRow_completes run)).bind
      (fun _ _ => completes_pure _)

/-- The chart of the processor is drawn, or replaced by a notice. -/
theorem renderCpuOverview_completes {summaries : List Summarized} {labels : List String}
    (matching : summaries.length = labels.length) :
    Completes (renderCpuOverview mode summaries labels) := by
  rw [renderCpuOverview, require_of _ matching, ok_bind]
  dsimp only
  generalize (summaries.zip labels).filterMap cpuPoint = points
  obtain ⟨averages, averaged, _⟩ := @mapM_returns _ _
    (fun point : String × UInt64 × UInt64 => roundedDiv mode point.2.1 1000) points
    (fun point _ => roundedDiv_completes (by decide) _)
  obtain ⟨peaks, peaked, _⟩ := @mapM_returns _ _
    (fun point : String × UInt64 × UInt64 => roundedDiv mode point.2.2 1000) points
    (fun point _ => roundedDiv_completes (by decide) _)
  rw [averaged, ok_bind, peaked, ok_bind]
  split
  · exact completes_pure _
  · next some =>
    have labelled : points.map Prod.fst ≠ [] := by
      simpa [List.isEmpty_iff] using some
    refine (renderCategoryCharts_completes ⟨labelled, by simp, by simp, ?_⟩).bind
      (fun _ _ => completes_pure _)
    simp [length_of_mapM averaged, length_of_mapM peaked]

/-- So the section of the telemetry is rendered for any runs. -/
theorem renderTelemetry_completes (runs : List RunData) :
    Completes (renderTelemetry mode runs) := by
  obtain ⟨summaries, summarized, _⟩ := @mapM_returns _ _ (fun run : RunData => do
      let summary ← Arithmetic.telemetrySummary mode run.samples run.result.deliveredPackets
      return (scenarioLabel run.result.scenario, summary)) runs
    (fun run _ => by rw [Arithmetic.telemetrySummary_eq]; exact completes_ok _)
  rw [renderTelemetry, summarized, ok_bind]
  refine Completes.bind (Completes.mapM (fun _ _ => sampleRow_completes _)) (fun _ _ => ?_)
  refine Completes.bind ?_ (fun _ _ => ?_)
  · split
    · apply renderCpuOverview_completes
      rw [length_of_mapM summarized, List.length_map]
    · exact completes_pure _
  · refine Completes.bind ?_ (fun _ _ => completes_pure _)
    exact (Completes.mapM (fun _ _ => metricRow_completes _)).bind (fun _ _ => completes_pure _)

/-- And the table of verdicts. -/
theorem renderStatus_completes (runs : List RunData) (failures : List LoadFailure)
    (artifactUrl : Option String) : Completes (renderStatus mode runs failures artifactUrl) := by
  unfold renderStatus
  rw [Arithmetic.exactStatus_eq, ok_bind]
  exact completes_pure _

end Sections

/-- A workload row that names its run, and calls it failed if its scenario is not
valid. -/
def Shows (run : RunData) (row : String) : Prop :=
  ∃ verdict rest, row = "| " ++ verdict ++ " | " ++ scenarioLabel run.result.scenario ++ rest ∧
    (run.result.scenario.validate ≠ .ok () → verdict = "FAIL")

/-- The report gets written, with a row for each run. -/
def Survives (sorter : Sorter) (debug : ScenarioResult → String) (runs : List RunData)
    (failures : List LoadFailure) (artifactUrl : Option String) : Prop :=
  ∃ lines, reportLines .checking sorter debug runs failures artifactUrl = .ok lines ∧
    ∃ shown before rows after, shown.Perm runs ∧ List.Forall₂ Shows shown rows ∧
      lines = before ++ rows ++ after

section Report

variable {sorter : Sorter} {debug : ScenarioResult → String} {runs : List RunData}
  {failures : List LoadFailure} {artifactUrl : Option String}

/-- A row starts with its first two cells. -/
theorem cells_eq (first second : String) (others : List String) :
    ∃ rest, cells (first :: second :: others) = "| " ++ first ++ " | " ++ second ++ rest := by
  refine ⟨" | ".intercalate ("" :: others) ++ " |", ?_⟩
  have onward : " | ".intercalate (second :: others) =
      second ++ " | ".intercalate ("" :: others) := by
    rw [← String.intercalate_cons_append, String.append_empty]
  rw [cells, String.intercalate_cons_cons, onward]
  simp only [String.append_assoc]

/-- A run of an invalid scenario has not passed. -/
theorem runPassed_of_invalid {run : RunData} (invalid : run.result.scenario.validate ≠ .ok ()) :
    Report.runPassed run = false := by
  cases answered : run.result.scenario.validate with
  | error message =>
    rw [Report.runPassed, validateRun, ScenarioResult.validate, answered]
    rfl
  | ok done => exact absurd answered invalid

/-- So does a row that is computed. -/
theorem tableRow_starts {first second row : String} {others : List (Machine String)}
    (rendered : tableRow (.ok first :: .ok second :: others) = .ok row) :
    ∃ rest, row = "| " ++ first ++ " | " ++ second ++ rest := by
  obtain ⟨texts, computed, written⟩ := (bind_eq_ok _ _ _).mp rendered
  rw [List.mapM_cons, id, ok_bind, List.mapM_cons, id, ok_bind] at computed
  obtain ⟨tail, laterComputed, joined⟩ := (bind_eq_ok _ _ _).mp computed
  obtain ⟨others, _, laterJoined⟩ := (bind_eq_ok _ _ _).mp laterComputed
  rw [← Except.ok.inj written, ← Except.ok.inj joined, ← Except.ok.inj laterJoined]
  exact cells_eq first second others

/-- The row of a run shows its verdict and its scenario. -/
theorem workloadRow_shows {run : RunData} {row : String}
    (rendered : workloadRow mode run = .ok row) : Shows run row := by
  rw [workloadRow, Arithmetic.runPassed_eq] at rendered
  obtain ⟨rest, written⟩ := tableRow_starts rendered
  refine ⟨passFail (Report.runPassed run), rest, written, ?_⟩
  intro invalid
  rw [runPassed_of_invalid invalid]
  rfl

/-- So the workloads have such a row for each run, in the runs' order. -/
theorem renderWorkloads_shows (countable : ∀ run ∈ runs, ¬Crowded run.result.scenario) :
    ∃ before rows after, renderWorkloads mode runs = .ok (before ++ rows ++ after) ∧
      List.Forall₂ Shows runs rows := by
  obtain ⟨rows, computed, each⟩ := @mapM_returns _ _ (workloadRow mode) runs
    (fun run member => workloadRow_completes (countable run member))
  rw [renderWorkloads, computed, ok_bind]
  exact ⟨_, rows, [""], rfl, each.imp (fun _ _ => workloadRow_shows)⟩

/-- A room with one peer too many stops a checking build at the workloads. -/
theorem renderWorkloads_crowded {run : RunData} (among : run ∈ runs)
    (crowded : Crowded run.result.scenario) : ¬Completes (renderWorkloads .checking runs) :=
  fun rendered => workloadRow_crowded crowded (completes_of_mapM rendered.of_bind run among)

/-- The rows stand in the whole report. -/
theorem renderLines_shows (countable : ∀ run ∈ runs, ¬Crowded run.result.scenario) :
    ∃ before rows after, renderLines mode runs failures artifactUrl = .ok (before ++ rows ++ after) ∧
      List.Forall₂ Shows runs rows := by
  obtain ⟨status, stated⟩ := @renderStatus_completes mode runs failures artifactUrl
  cases runs with
  | nil =>
    have written : Completes (renderLines mode [] failures artifactUrl) := by
      rw [renderLines, stated, ok_bind]
      exact completes_pure _
    obtain ⟨lines, answered⟩ := written
    exact ⟨lines, [], [], by rw [answered, List.append_nil, List.append_nil], .nil⟩
  | cons run rest =>
    obtain ⟨before, rows, after, workloads, each⟩ := @renderWorkloads_shows mode _ countable
    obtain ⟨profile, profiled⟩ := @renderMediaProfile_completes mode
    obtain ⟨delivery, delivered⟩ :=
      @renderDelivery_completes mode (run :: rest) (List.cons_ne_nil run rest)
    obtain ⟨discrepancies, listed⟩ : Completes (renderDiscrepancies mode (run :: rest)) :=
      (Completes.mapM (fun _ _ => discrepancyRow_completes _)).bind (fun _ _ => completes_pure _)
    obtain ⟨telemetry, summarized⟩ : Completes
        (if (run :: rest).any (fun run => run.samples.isSome) then renderTelemetry mode (run :: rest)
          else return []) := by
      split
      · exact renderTelemetry_completes _
      · exact completes_pure _
    refine ⟨paragraph "# o-sfu load report" ++ status ++
      (if failures.isEmpty then [] else renderFailures failures) ++ before, rows,
      after ++ profile ++ renderScenarioLegend ++ delivery ++ discrepancies ++ telemetry, ?_, each⟩
    rw [renderLines, stated, ok_bind]
    simp only [List.isEmpty_cons, Bool.false_eq_true, if_false, workloads, profiled, delivered,
      listed, summarized, ok_bind, List.append_assoc]
    rfl

/-- And the room stops the whole report. -/
theorem renderLines_crowded {run : RunData} (among : run ∈ runs)
    (crowded : Crowded run.result.scenario) :
    ¬Completes (renderLines .checking runs failures artifactUrl) := by
  obtain ⟨status, stated⟩ := @renderStatus_completes .checking runs failures artifactUrl
  intro rendered
  rw [renderLines, stated, ok_bind, if_neg (by simp [List.ne_nil_of_mem among])] at rendered
  exact renderWorkloads_crowded among crowded rendered.of_bind

end Report

section Order

variable {sorter : Sorter} {debug : ScenarioResult → String} {runs : List RunData}
  {failures : List LoadFailure} {artifactUrl : Option String}

/-- Runs by their scenarios' keys. -/
def compareKeys (left right : RunData) : Ordering :=
  compareScenarios left.result.scenario right.result.scenario

attribute [local instance] lexOrd in

/-- Keys are compared word by word, so comparing them is transitive. -/
instance : TransCmp compareKeys :=
  inferInstanceAs (TransCmp (compareOn (fun run : RunData => scenarioKey run.result.scenario)))

/-- So is comparing what is left of two runs of one key. -/
instance : TransCmp (compareRest debug) := by
  unfold compareRest
  infer_instance

/-- So is comparing two failures. -/
instance : TransCmp compareFailures := by
  unfold compareFailures
  infer_instance

/-- The order the comparisons stand for. -/
def orderRuns (debug : ScenarioResult → String) : RunData → RunData → Ordering :=
  compareLex compareKeys (compareRest debug)

/-- So is comparing two runs. -/
instance : TransCmp (orderRuns debug) := by
  unfold orderRuns
  infer_instance

/-- Where the peers can be counted, runs compare as in plain arithmetic. -/
theorem compareRuns_eq {left right : RunData}
    (leftCounted : Arithmetic.peersPerRoom mode left.result.scenario =
      .ok left.result.scenario.peersPerRoom)
    (rightCounted : Arithmetic.peersPerRoom mode right.result.scenario =
      .ok right.result.scenario.peersPerRoom) :
    compareRuns mode debug left right = .ok (orderRuns debug left right) := by
  rw [compareRuns, Arithmetic.scenarioKey_eq leftCounted, ok_bind,
    Arithmetic.scenarioKey_eq rightCounted, ok_bind]
  rfl

/-- Without a crowded smoke every run is shown. -/
theorem survives_of_countable (countable : ∀ run ∈ runs, ¬Crowded run.result.scenario) :
    Survives sorter debug runs failures artifactUrl := by
  have counted : ∀ run ∈ runs, Arithmetic.peersPerRoom .checking run.result.scenario =
      .ok run.result.scenario.peersPerRoom :=
    fun run member => Arithmetic.peersPerRoom_eq (countable run member)
  obtain ⟨sorted, returned, _⟩ := @Sorter.returns sorter _ (orderRuns debug) _
    (compareRuns .checking debug) runs (fun left inLeft right inRight =>
      compareRuns_eq (counted left inLeft) (counted right inRight))
  have perm := sorter.rearranges returned
  obtain ⟨before, rows, after, written, each⟩ := @renderLines_shows .checking sorted
    (sorter.sorted compareFailures failures) artifactUrl
    (fun run member => countable run (perm.mem_iff.mp member))
  refine ⟨before ++ rows ++ after, ?_, sorted, before, rows, after, perm, each, rfl⟩
  rw [reportLines, returned, ok_bind, sorter.sortUnstableBy_eq compareFailures, ok_bind]
  exact written

/-- A crowded smoke stops the report, whatever the sort compares. -/
theorem reportLines_crowded {run : RunData} (among : run ∈ runs)
    (crowded : Crowded run.result.scenario) :
    ¬Completes (reportLines .checking sorter debug runs failures artifactUrl) := by
  rintro ⟨lines, written⟩
  obtain ⟨sorted, returned, written⟩ := (bind_eq_ok _ _ _).mp written
  obtain ⟨failed, _, written⟩ := (bind_eq_ok _ _ _).mp written
  exact renderLines_crowded ((sorter.rearranges returned).mem_iff.mpr among) crowded ⟨lines, written⟩

end Order

/-- A report survives its runs exactly if none of them is a smoke with the most
receivers a word can hold. -/
theorem report_survives_iff (sorter : Sorter) (debug : ScenarioResult → String)
    (runs : List RunData) (failures : List LoadFailure) (artifactUrl : Option String) :
    Survives sorter debug runs failures artifactUrl ↔
      ∀ run ∈ runs, ∀ packets, run.result.scenario ≠ .smoke 4294967295 packets := by
  constructor
  · rintro ⟨lines, written, _⟩ run among packets same
    exact reportLines_crowded among (same ▸ .smoke packets) ⟨lines, written⟩
  · intro countable
    apply survives_of_countable
    intro run among crowded
    cases same : run.result.scenario with
    | smoke receivers packets =>
      rw [same] at crowded
      cases crowded with
      | smoke packets => exact countable run among packets same
    | audioMesh rooms peers seconds =>
      rw [same] at crowded
      cases crowded
    | videoGallery rooms peers publishers seconds =>
      rw [same] at crowded
      cases crowded
    | mixedConference rooms peers audioPublishers videoPublishers seconds =>
      rw [same] at crowded
      cases crowded

/-- A decoded result of a smoke with as many receivers as its word can hold. -/
def crowdedRun : RunData where
  source := "runs/smoke"
  result := {
    schemaVersion := 4
    profile := "opus-fanout-smoke-v3"
    oSfuRevision := none
    scenario := .smoke 4294967295 1
    serverPolicy := ⟨1, 0, 0, 4, 10, 8000000, 10000000⟩
    plan := ⟨1, 4294967295, 1, 80, 4294967295, 343597383600⟩
    offeredPackets := 1
    offeredPayloadBytes := 80
    deliveredPackets := 0
    deliveredPayloadBytes := 0
    correctness := .zero
    elapsedMs := 1
    maxSendLagMs := 0 }
  samples := none

/-- Its row counts one peer more than fits. -/
theorem crowded_smoke_stops_the_report :
    ¬Survives insertion (fun _ => "") [crowdedRun] [] none := by
  rintro ⟨lines, written, _⟩
  exact reportLines_crowded (List.mem_singleton_self crowdedRun) (.smoke 1) ⟨lines, written⟩

end SfuLoad.Report
