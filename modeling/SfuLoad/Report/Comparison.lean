import SfuLoad.Report.Render

/-!
# The comparison of two revisions, line by line

A comparison states its verdicts, lists what kept inputs from being compared, and
then describes the pairs: their workload, their exact work, graphs with one line
for each revision, and tables of values with the change between them.
-/

namespace SfuLoad.Report.Comparison

open Kit.Checked Kit.Sorting
open Model hiding checkedAdd checkedMul

/-- The first twelve characters of a full revision; otherwise a word in its place. -/
def shortRevision (revision : Revision) (fallback : String) : String :=
  if revision.valid && 12 ≤ revision.label.toList.length then
    String.ofList (revision.label.toList.take 12)
  else fallback

section Formats

variable (mode : Mode)

/-- CPU time in seconds with six digits. -/
def formatCpuTime (micros : UInt64) : Machine String := do
  let seconds ← div micros.toNat 1000000
  let fraction ← rem micros.toNat 1000000
  return s!"{← grouped mode (UInt64.ofNat seconds)}.{zeroPadded 6 fraction} CPU s/1M"

/-- A rate of deliveries. -/
def formatDeliveriesPerSecond (value : UInt64) : Machine String :=
  return s!"{← grouped mode value} deliveries/s"

/-- A change in tenths of a percent of the baseline. -/
def percentageDelta (baseline magnitude : UInt64) : Machine (Option UInt64) :=
  if baseline = 0 then return none
  else do
    let scaled ← mul mode u128 magnitude.toNat 1000
    return some (clamped (← div scaled baseline.toNat))

/-- The distance between two values with its sign. -/
def formatChange (baseline comparison : UInt64) (format : UInt64 → Machine String) :
    Machine String := do
  let sign := if baseline < comparison then "+" else if comparison < baseline then "-" else ""
  let magnitude ←
    (if baseline < comparison then sub mode u64 comparison.toNat baseline.toNat
    else sub mode u64 baseline.toNat comparison.toNat)
  let absolute ← format (UInt64.ofNat magnitude)
  match ← percentageDelta mode baseline (UInt64.ofNat magnitude) with
  | none => return s!"{sign}{absolute} (n/a)"
  | some tenths =>
    let percentSign := if magnitude = 0 then "" else sign
    return s!"{sign}{absolute} ({percentSign}{← formatTenths tenths.toNat}%)"

/-- The change from one value to another, where both are there. -/
def formatDelta (baseline comparison : Option UInt64) (format : UInt64 → Machine String) :
    Machine String :=
  match baseline, comparison with
  | some baseline, some comparison => formatChange mode baseline comparison format
  | _, _ => return "n/a"

/-- Thousandths rounded to whole units; half a unit goes up. -/
def roundMilli (value : UInt64) : Machine UInt64 :=
  return UInt64.ofNat (← div (Kit.Saturating.saturatingAdd value 500).toNat 1000)

/-- Mebibytes, rounded up. -/
def bytesToMebibytes (value : UInt64) : Machine UInt64 :=
  return UInt64.ofNat (← divCeil value.toNat (1024 * 1024))

end Formats

/-- The table of verdicts that a comparison starts with. -/
def renderStatus (baseline comparison : Side) (status : ComparisonStatus)
    (artifactUrl : Option String) : List String :=
  ["| Exact work | Workloads | Revisions | Performance samples | Scenarios | Failed inputs | " ++
      "Baseline revision | Comparison revision |",
    "| --- | --- | --- | --- | ---: | ---: | --- | --- |"] ++
  paragraph (cells [
    passFail status.exact,
    if status.workloadsMatch then "IDENTICAL" else "MISMATCH",
    if status.revisionsValid then "VALID" else "INVALID",
    if status.performanceValid then "VALID" else "INVALID",
    s!"{max baseline.runs.length comparison.runs.length}",
    s!"{baseline.failures.length + comparison.failures.length}",
    escapeTable (revision baseline.runs).label,
    escapeTable (revision comparison.runs).label]) ++
  paragraph ("Every delta is comparison minus baseline. CPU time covers setup, warmup, measured " ++
    "work and drain.") ++
  paragraph ("Both revisions use the same hosted runner and CPU affinity. Timing and resource " ++
    "deltas remain trend evidence until a dedicated runner provides a controlled testbed.") ++
  (match artifactUrl with
    | some url => paragraph s!"[Download both revisions, telemetry and logs]({url})"
    | none => [])

/-- A failed input of one side. -/
def failureLine (role : String) (failure : LoadFailure) : String :=
  s!"- {role} input `{escapeTable failure.source}`: {escapeTable failure.error}"

/-- What keeps the sides from being compared; without any of it there is no section. -/
def renderIssues (baseline comparison : Side) (pairing : Pairing) : List String :=
  let baselineRevision := revision baseline.runs
  let comparisonRevision := revision comparison.runs
  let same := baselineRevision.label = comparisonRevision.label
  if baseline.failures.isEmpty ∧ comparison.failures.isEmpty ∧ pairing.issues.isEmpty ∧
      ¬(baselineRevision.valid = false ∨ comparisonRevision.valid = false ∨ same) then []
  else
    paragraph "## Comparison issues" ++
    baseline.failures.map (failureLine "Baseline") ++
    comparison.failures.map (failureLine "Comparison") ++
    pairing.issues.map (fun issue => s!"- {escapeTable issue}") ++
    (if baselineRevision.valid then []
      else ["- Baseline results do not contain one full revision SHA."]) ++
    (if comparisonRevision.valid then []
      else ["- Comparison results do not contain one full revision SHA."]) ++
    (if baselineRevision.valid ∧ comparisonRevision.valid ∧ same then
      ["- Baseline and comparison revisions are identical."] else []) ++
    [""]

section Pairs

variable (mode : Mode)

/-- What both runs of a pair have in common. -/
def identityRow (pair : RunPair) : Machine String :=
  let result := pair.baseline.result
  tableRow [
    return scenarioLabel result.scenario,
    return escapeTable result.profile,
    grouped mode result.plan.routes,
    grouped mode result.plan.expectedDeliveries,
    return s!"{← Arithmetic.durationSeconds result.scenario} s"]

/-- The section of the workloads that are compared. -/
def renderWorkloadIdentity (pairs : List RunPair) : Machine (List String) := do
  let rows ← pairs.mapM (identityRow mode)
  return paragraph "## Workload identity" ++ renderConsumerContext ++
    ["| Scenario | Profile | Total media consumers | Expected deliveries | Duration |",
      "| --- | --- | ---: | ---: | ---: |"] ++
    rows ++ [""]

/-- Whether a run's results are those of its plan, or why not. -/
def exactVerdict (run : RunData) : Machine String := do
  match ← Arithmetic.validateRun mode run with
  | .error error => return escapeTable s!"FAIL: {error}"
  | .ok () => return "PASS"

/-- The delivered work of one run. -/
def renderExactRow (role : String) (run : RunData) : Machine String :=
  let result := run.result
  let correctness := result.correctness
  tableRow [
    return scenarioLabel result.scenario,
    return role,
    grouped mode result.plan.expectedDeliveries,
    grouped mode result.deliveredPackets,
    grouped mode correctness.missingPackets,
    grouped mode correctness.duplicatePackets,
    grouped mode correctness.outOfOrderPackets,
    grouped mode correctness.unexpectedPackets,
    grouped mode correctness.payloadMismatches,
    exactVerdict mode run]

/-- The section of the delivered work, two rows for each pair. -/
def renderExactDelivery (pairs : List RunPair) : Machine (List String) := do
  let rows ← pairs.mapM (fun pair => do
    return [← renderExactRow mode "Baseline" pair.baseline,
      ← renderExactRow mode "Comparison" pair.comparison])
  return paragraph "## Exact delivery correctness" ++
    ["| Scenario | Variant | Expected | Delivered | Missing | Duplicate | Out of order | " ++
      "Unexpected | Payload mismatch | Exact |",
      "| --- | --- | ---: | ---: | ---: | ---: | ---: | ---: | ---: | --- |"] ++
    rows.flatten ++ [""]

end Pairs

section Metrics

variable (mode : Mode)

/-- A value that is computed for a run with the summary of its telemetry. -/
abbrev Reading := RunData → TelemetrySummary → Machine (Option UInt64)

/-- One graph: its title, its axis and the value it shows of both runs of a pair. -/
structure Graph where
  title : String
  yAxis : String
  minimum : UInt64
  value : Reading

/-- A value that may be missing, changed to the unit of a graph. -/
def converted (convert : UInt64 → Machine UInt64) (value : Option UInt64) :
    Machine (Option UInt64) :=
  match value with
  | none => return none
  | some value => return some (← convert value)

/-- The graphs of a comparison. -/
def graphs : List Graph := [
  ⟨"Receiver delivery throughput", "deliveries/s", 0,
    fun run _ => return some (Arithmetic.achievedDeliveriesPerSecond run.result)⟩,
  ⟨"Receiver-observed RTP payload", "RTP payload kbit/s", 0,
    fun run _ =>
      return some (← thousands (Arithmetic.deliveredPayloadBitsPerSecond mode run.result))⟩,
  ⟨"SFU CPU time per million deliveries", "CPU ms / 1M deliveries", 0,
    fun _ summary => converted (fun micros => return UInt64.ofNat (← divCeil micros.toNat 1000))
      summary.serverCpuMicrosPerMillionDeliveries⟩,
  ⟨"Generator send lag", "max send lag ms", 0,
    fun run _ => return some run.result.maxSendLagMs⟩,
  ⟨"SFU packet-loop delay", "max loop delay ms", 0,
    fun _ summary => return summary.packetLoopDelayMs⟩,
  ⟨"SFU average CPU", "CPU (%)", 100,
    fun _ summary => converted roundMilli summary.serverCpuPercentMilli⟩,
  ⟨"SFU peak resident memory", "RSS MiB", 0,
    fun _ summary => converted bytesToMebibytes summary.serverRssBytes⟩]

/-- A pair's label and its two values, unless one is missing. -/
def pairedValues (value : Reading) (metric : PairMetrics) :
    Machine (String × Option (UInt64 × UInt64)) := do
  let baseline ← value metric.pair.baseline metric.baseline
  let comparison ← value metric.pair.comparison metric.comparison
  return (chartLabel metric.pair.baseline.result.scenario,
    do return (← baseline, ← comparison))

/-- One graph over all pairs of one workload. Pairs that miss a value are listed below it. -/
def renderPairedLines (metrics : List PairMetrics) (graph : Graph) : Machine (List String) := do
  let matching := metrics.filter (fun metric => metric.pair.workloadMatches)
  let values ← matching.mapM (pairedValues graph.value)
  let omittedLabels := (values.filter (fun value => value.2.isNone)).map Prod.fst
  let paired := values.filterMap (fun value => value.2.map (fun both => (value.1, both)))
  let notice :=
    if omittedLabels.isEmpty then []
    else paragraph (s!"The {graph.title} graph omits scenarios without paired data: " ++
      ", ".intercalate omittedLabels ++ ".")
  if paired.isEmpty then
    return notice ++ paragraph s!"The {graph.title} graph has no paired data."
  else
    let chart ← renderCategoryCharts mode graph.title
      "Two lines compare both revisions on one scenario axis."
      (paired.map Prod.fst) graph.yAxis graph.minimum
      [⟨"baseline", paired.map (fun point => point.2.1)⟩,
        ⟨"comparison", paired.map (fun point => point.2.2)⟩]
    return notice ++ chart

/-- The section of the graphs, with a line for each side. -/
def renderGraphs (metrics : List PairMetrics) (baseline comparison : Revision) :
    Machine (List String) := do
  let charts ← (graphs mode).mapM (renderPairedLines mode metrics)
  let baselineName := shortRevision baseline "baseline"
  let comparisonName := shortRevision comparison "comparison"
  return paragraph "## Comparison graphs" ++
    paragraph (s!"Every graph uses one scenario axis. The first line is baseline " ++
      s!"`{baselineName}`. The second line is comparison `{comparisonName}`. Coincident lines " ++
      "mean both plotted values are equal and the tables retain both numbers.") ++
    charts.flatten

/-- One kind of row: what it shows of both runs of a pair, and how. -/
structure Metric where
  name : String
  value : Reading
  format : UInt64 → Machine String

/-- The rows of the performance table. -/
def performanceMetrics : List Metric := [
  ⟨"SFU CPU time per million deliveries",
    fun _ summary => return summary.serverCpuMicrosPerMillionDeliveries, formatCpuTime mode⟩,
  ⟨"Receiver deliveries",
    fun run _ => return some (Arithmetic.achievedDeliveriesPerSecond run.result),
    formatDeliveriesPerSecond mode⟩,
  ⟨"Receiver-observed RTP payload",
    fun run _ => return some (← Arithmetic.deliveredPayloadBitsPerSecond mode run.result),
    formatBitsPerSecond mode⟩,
  ⟨"Generator max send lag", fun run _ => return some run.result.maxSendLagMs,
    formatMilliseconds mode⟩,
  ⟨"Packet-loop max delay", fun _ summary => return summary.packetLoopDelayMs,
    formatMilliseconds mode⟩]

/-- The rows of the resource table. -/
def resourceMetrics : List Metric := [
  ⟨"SFU CPU average", fun _ summary => return summary.serverCpuPercentMilli, formatCpuPercent⟩,
  ⟨"SFU CPU peak", fun _ summary => return summary.serverCpuPeakPercentMilli,
    formatCpuPercent⟩,
  ⟨"SFU RSS peak", fun _ summary => return summary.serverRssBytes, formatMebibytes mode⟩,
  ⟨"RTC CPU average", fun _ summary => return summary.rtcCpuPercentMilli, formatCpuPercent⟩,
  ⟨"RTC RSS peak", fun _ summary => return summary.rtcRssBytes, formatMebibytes mode⟩,
  ⟨"SFU forwarded packets", fun _ summary => return summary.forwardedPacketsPerSecond,
    formatPacketsPerSecond mode⟩,
  ⟨"SFU sampled egress payload", fun _ summary => return summary.egressPayloadBitsPerSecond,
    formatBitsPerSecond mode⟩]

/-- One value of both runs of a pair, and its change. -/
def renderMetricRow (pair : PairMetrics) (metric : Metric) : Machine String := do
  let baseline ← metric.value pair.pair.baseline pair.baseline
  let comparison ← metric.value pair.pair.comparison pair.comparison
  tableRow [
    return scenarioLabel pair.pair.baseline.result.scenario,
    return metric.name,
    formatOptional baseline metric.format,
    formatOptional comparison metric.format,
    formatDelta mode baseline comparison metric.format]

/-- The rows of all pairs of one workload. -/
def renderMetricRows (metrics : List PairMetrics) (shown : List Metric) :
    Machine (List String) := do
  let matching := metrics.filter (fun metric => metric.pair.workloadMatches)
  let rows ← matching.mapM (fun pair => shown.mapM (renderMetricRow mode pair))
  return ["| Scenario | Metric | Baseline | Comparison | Delta |",
    "| --- | --- | ---: | ---: | ---: |"] ++ rows.flatten ++ [""]

/-- The section of the performance. -/
def renderPerformanceTable (metrics : List PairMetrics) : Machine (List String) :=
  return paragraph "## Performance deltas" ++
    (← renderMetricRows mode metrics (performanceMetrics mode))

/-- The section of the resources. -/
def renderResourceTable (metrics : List PairMetrics) : Machine (List String) :=
  return paragraph "## Resource deltas" ++
    paragraph ("CPU averages are weighted by sample interval. RSS and CPU peaks are sampled " ++
      "maxima.") ++
    (← renderMetricRows mode metrics (resourceMetrics mode))

end Metrics

section Sides

variable (mode : Mode)

attribute [local instance] lexOrd in
/-- Scenarios by their keys, each counted for every comparison. -/
def compareSpecs (left right : ScenarioSpec) : Machine Ordering := do
  let leftKey ← Arithmetic.scenarioKey mode left
  let rightKey ← Arithmetic.scenarioKey mode right
  return compare leftKey rightKey

/-- The comparison of two loaded sides. The scenarios are sorted once, for the
pairing. -/
def renderSides (sorter : Sorter) (baseline comparison : Side) (artifactUrl : Option String) :
    Machine String := do
  let specs ← sorter.sortUnstableBy (compareSpecs mode)
    ((baseline.runs ++ comparison.runs).map (fun run => run.result.scenario))
  let sort (_ : List ScenarioSpec) : List ScenarioSpec := specs
  let pairing := pairRuns sort baseline.runs comparison.runs
  let metrics := pairing.pairs.map pairMetrics
  let opening := paragraph "# o-sfu revision comparison" ++
    renderStatus baseline comparison (comparisonStatus sort baseline comparison) artifactUrl ++
    renderIssues baseline comparison pairing
  let described ← (if pairing.pairs.isEmpty then
      return paragraph "No scenario pair was available for comparison."
    else do
      let identity ← renderWorkloadIdentity mode pairing.pairs
      let profile ← renderMediaProfile mode
      let exact ← renderExactDelivery mode pairing.pairs
      let graphs ←
        renderGraphs mode metrics (revision baseline.runs) (revision comparison.runs)
      let performance ← renderPerformanceTable mode metrics
      let resources ← renderResourceTable mode metrics
      return identity ++ profile ++ renderScenarioLegend ++ exact ++ graphs ++ performance ++
        resources)
  let output := String.join ((opening ++ described).map (· ++ "\n"))
  ensureSummarySize output
  return output

end Sides

end SfuLoad.Report.Comparison
