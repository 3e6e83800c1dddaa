import SfuLoad.Kit.Sorter
import SfuLoad.Report.Formats

/-!
# The report, line by line

A report is a list of lines: a status, the inputs that failed, one row for each
run in several tables, the profile of one stream, and charts of at most twelve
scenarios in panels of at most four. Whatever is computed on the way is computed
with the machine's operations.
-/

namespace SfuLoad.Report

open Kit.Checked Kit.Sorting
open Kit.Saturating (checkedAdd checkedMul)
open Model hiding checkedAdd checkedMul

/-- How many scenarios a panel of a chart shows. -/
def categoryChartPoints : Nat := 4

/-- How long a report may be. -/
def githubSummaryLimitBytes : Nat := 1024 * 1024

/-- How many scenarios are drawn. -/
def maxChartScenarios : Nat := 12

/-- The greatest number that a chart shows exactly. -/
def maxMermaidInteger : UInt64 := 9007199254740991

/-- The lines of a chart, by color. -/
def lineColors : List (String × String) := [("Blue", "#388BFD"), ("Orange", "#B86E00")]

/-- A line with an empty one after it. -/
def paragraph (line : String) : List String := [line, ""]

/-- A row of a table. -/
def cells (texts : List String) : String :=
  "| " ++ " | ".intercalate texts ++ " |"

/-- A row whose cells are computed from left to right. -/
def tableRow (texts : List (Machine String)) : Machine String :=
  return cells (← texts.mapM id)

/-- How a verdict reads. -/
def passFail (passed : Bool) : String :=
  if passed then "PASS" else "FAIL"

/-- The revision of some runs, in words. -/
def revisionLabel (runs : List RunData) : String :=
  (revision runs).label

/-- The table of the inputs that failed. -/
def renderFailures (failures : List LoadFailure) : List String :=
  paragraph "## Input failures" ++
  ["| Input | Error |", "| --- | --- |"] ++
  failures.map (fun failure => cells [escapeTable failure.source, escapeTable failure.error]) ++
  [""]

/-- What the reader is told about consumers. -/
def renderConsumerContext : List String :=
  paragraph ("Reports count each simultaneous source-to-receiver forwarding relationship as one " ++
    "media consumer. Each audio or camera publication creates one consumer for every other peer " ++
    "in its room. Publishers do not consume their own publication. A two-RID simulcast camera " ++
    "remains one consumer per receiver because each receiver selects one RID.") ++
  paragraph ("For example, 10 audio publishers among 60 total peers create " ++
    "`10 × (60 - 1) = 590` consumers. The count would be 600 only for 60 listeners separate " ++
    "from the 10 publishers. " ++
    "[mediasoup documents](https://mediasoup.org/documentation/v3/scalability/) that one " ++
    "single-core worker typically handles over roughly 500 consumers depending on host CPU " ++
    "capability. That figure is topology context, not a portable capacity threshold.")

/-- What the labels of scenarios mean. -/
def renderScenarioLegend : List String :=
  paragraph "## Scenario label legend" ++
  paragraph ("Tables use hyphenated IDs. Graphs use `S` for smoke, `A` for audio mesh, `V` for " ++
    "video gallery and `M` for mixed conference.") ++
  ["- `smoke-2r-50p` or `S 2r/50p` means 2 receivers get 50 packets from one publisher.",
    "- `audio-mesh-2x12-60s` or `A 2x12/60s` means 2 rooms with 12 peers per room. " ++
    "Every peer publishes audio for 60 seconds.",
    "- `video-gallery-1x64-10p-60s` or `V 1x64/10p/60s` means 1 room with 64 peers. " ++
    "10 peers per room publish video for 60 seconds."] ++
  paragraph ("- `mixed-conference-1x20-5a-4v-10s` or `M 1x20/5a/4v/10s` means 1 room with " ++
    "20 peers. 5 publish audio and the first 4 of those also publish video for 10 seconds.")

section Tables

variable (mode : Mode)

/-- The table of verdicts that a report starts with. -/
def renderStatus (runs : List RunData) (failures : List LoadFailure)
    (artifactUrl : Option String) : Machine (List String) := do
  let exact ← Arithmetic.exactStatus mode runs failures
  return ["| Exact work | Scenarios | Failed inputs | Telemetry | o-sfu revision |",
      "| --- | ---: | ---: | --- | --- |"] ++
    paragraph (cells [exact, s!"{runs.length}", s!"{failures.length}", telemetryStatus runs,
      escapeTable (revisionLabel runs)]) ++
    paragraph (s!"Completed performance samples: **{pacingStatus runs}**. A sample is invalid " ++
      "when send lag exceeds one media interval.") ++
    (match artifactUrl with
      | some url => paragraph s!"[Download raw results and logs]({url})"
      | none => [])

/-- Why a run is not what was planned, or that it is. -/
def validationLabel (run : RunData) : Machine String := do
  match ← Arithmetic.validateRun mode run with
  | .error error => return escapeTable error
  | .ok () => return "ok"

/-- The workload of a run. -/
def workloadRow (run : RunData) : Machine String :=
  let result := run.result
  let scenario := result.scenario
  tableRow [
    return passFail (← Arithmetic.runPassed mode run),
    return scenarioLabel scenario,
    return s!"{scenario.roomCount}",
    return s!"{← Arithmetic.peersPerRoom mode scenario}",
    return publisherLabel scenario,
    grouped mode result.plan.streams,
    grouped mode result.plan.routes,
    grouped mode result.plan.offeredPackets,
    grouped mode result.plan.expectedDeliveries,
    return s!"{← Arithmetic.durationSeconds scenario} s",
    return s!"{← grouped mode result.maxSendLagMs} ms",
    return pacingLabel result,
    return escapeTable result.profile,
    validationLabel mode run]

/-- The table of the workloads. -/
def renderWorkloads (runs : List RunData) : Machine (List String) := do
  let rows ← runs.mapM (workloadRow mode)
  return paragraph "## Workloads" ++ renderConsumerContext ++
    ["| Exact | Scenario | Rooms | Peers/room | Publications/room | Streams | " ++
      "Total media consumers | Offered packets | Expected deliveries | Duration | " ++
      "Max send lag | Pacing | Profile | Validation |",
      "| --- | --- | ---: | ---: | ---: | ---: | ---: | ---: | ---: | ---: | ---: | " ++
      "--- | --- | --- |"] ++
    rows ++ [""]

/-- What went wrong with the packets of a run. -/
def discrepancyRow (run : RunData) : Machine String :=
  let correctness := run.result.correctness
  tableRow [
    return scenarioLabel run.result.scenario,
    grouped mode correctness.missingPackets,
    grouped mode correctness.duplicatePackets,
    grouped mode correctness.outOfOrderPackets,
    grouped mode correctness.unexpectedPackets,
    grouped mode correctness.payloadMismatches,
    grouped mode correctness.discrepancyCount]

/-- The table of what went wrong. -/
def renderDiscrepancies (runs : List RunData) : Machine (List String) := do
  let rows ← runs.mapM (discrepancyRow mode)
  return paragraph "## Packet discrepancies" ++
    ["| Scenario | Missing | Duplicate | Out of order | Unexpected | Payload mismatch | Total |",
      "| --- | ---: | ---: | ---: | ---: | ---: | ---: |"] ++
    rows ++ [""]

end Tables

section Profile

variable (mode : Mode)

/-- What a function answers, given up where it answers with an error. -/
def answered {α : Type} : Except String α → Machine α
  | .ok value => .ok value
  | .error message => .error (.refused message)

/-- The rate of one stream's payload, which must come out in whole bits. -/
def payloadRateForProfile (packetCount : UInt64) (payloadBytes : Nat) (seconds : UInt32) :
    Machine UInt64 := do
  require (0 < seconds) "media profile duration must be positive"
  let payload ← expect (if payloadBytes < u64 then some (UInt64.ofNat payloadBytes) else none)
    "payload size exceeds u64"
  let bits ← expect ((checkedMul packetCount payload).bind (fun bytes => checkedMul bytes 8))
    "media profile bitrate overflowed"
  require (bits.toNat % seconds.toNat = 0) "media profile bitrate is not an exact integer"
  return UInt64.ofNat (← div bits.toNat seconds.toNat)

/-- The rate of one stream's packets, which must come out in whole tenths. -/
def formatProfilePacketRate (packetCount : UInt64) (seconds : UInt32) : Machine String := do
  require (0 < seconds) "media profile duration must be positive"
  let tenths := packetCount.toNat * 10
  require (tenths < u128) "media profile packet rate overflowed"
  require (tenths % seconds.toNat = 0) "media profile packet rate needs more than one decimal"
  let tenths ← div tenths seconds.toNat
  if tenths % 10 = 0 then grouped mode (clamped (← div tenths 10))
  else formatTenths tenths

/-- The numbers of one stream of each kind. -/
structure MediaProfile where
  audioPacketizationMs : Nat
  profileSeconds : UInt32
  lowPackets : UInt64
  highPackets : UInt64
  audioBps : UInt64
  lowBps : UInt64
  highBps : UInt64
  cameraPackets : UInt64
  cameraBps : UInt64
deriving DecidableEq

/-- What one stream sends, from the constants of the program. Each division must come out. -/
def mediaProfile : Machine MediaProfile := do
  require (1000 % audioPacketsPerSecond.toNat = 0)
    "audio packet rate must contain whole milliseconds"
  let audioPacketizationMs ← div 1000 audioPacketsPerSecond.toNat
  require (videoKeyframeInterval.toNat % videoFramesPerSecond.toNat = 0)
    "video keyframe interval must contain complete seconds"
  let seconds ← expect
    (if videoFramesPerSecond = 0 then none
      else some (videoKeyframeInterval.toNat / videoFramesPerSecond.toNat))
    "video keyframe interval is shorter than one second"
  require (seconds < u32) "video profile duration exceeds u32"
  let profileSeconds := UInt32.ofNat seconds
  require (0 < profileSeconds) "video profile duration must be positive"
  let (lowPackets, highPackets) ← answered (← Arithmetic.videoPacketsPerLayer mode profileSeconds)
  let audioBytes ← expect
    (if audioPacketPayloadBytes < u64 then some (UInt64.ofNat audioPacketPayloadBytes) else none)
    "audio payload size exceeds u64"
  let audioBps ← expect
    ((checkedMul audioBytes audioPacketsPerSecond.toUInt64).bind
      (fun bytes => checkedMul bytes 8))
    "audio profile bitrate overflowed"
  let lowBps ← payloadRateForProfile lowPackets videoLowPacketPayloadBytes profileSeconds
  let highBps ← payloadRateForProfile highPackets videoHighPacketPayloadBytes profileSeconds
  let cameraPackets ← expect (checkedAdd lowPackets highPackets)
    "camera profile packet count overflowed"
  let cameraBps ← expect (checkedAdd lowBps highBps) "camera profile bitrate overflowed"
  return ⟨audioPacketizationMs, profileSeconds, lowPackets, highPackets, audioBps, lowBps,
    highBps, cameraPackets, cameraBps⟩

/-- The table of what one stream sends. -/
def renderMediaProfile : Machine (List String) := do
  let profile ← mediaProfile mode
  let audioBps ← grouped mode profile.audioBps
  let audioRow ← tableRow [
    return "One Opus audio RTP stream",
    return s!"{audioPacketPayloadBytes} B every {profile.audioPacketizationMs} ms",
    return s!"{audioPacketsPerSecond}",
    return s!"{audioBps} bit/s"]
  let lowRow ← tableRow [
    return "One VP8 low RID RTP stream",
    return s!"{videoLowPacketPayloadBytes} B packets, {videoFramesPerSecond} fps",
    formatProfilePacketRate mode profile.lowPackets profile.profileSeconds,
    return s!"{← grouped mode profile.lowBps} bit/s"]
  let highRow ← tableRow [
    return "One VP8 high RID RTP stream",
    return s!"{videoHighPacketPayloadBytes} B packets, {videoFramesPerSecond} fps",
    formatProfilePacketRate mode profile.highPackets profile.profileSeconds,
    return s!"{← grouped mode profile.highBps} bit/s"]
  let cameraRow ← tableRow [
    return "One VP8 camera publication, two RTP streams",
    return s!"{profile.profileSeconds}-second GOP",
    formatProfilePacketRate mode profile.cameraPackets profile.profileSeconds,
    return s!"{← grouped mode profile.cameraBps} bit/s"]
  return paragraph "## Per-stream media load" ++
    paragraph ("Rates are deterministic RTP payload only. They exclude RTP headers, SRTP, UDP, " ++
      "IP, RTCP and retransmissions. One camera publication contains two RTP streams, one per " ++
      "RID.") ++
    paragraph ("Fixed payload sizes approximate average active-media output. Browser VBR, DTX " ++
      "and congestion control vary. The profile is a production high-load envelope, not a " ++
      "prediction of average meeting bandwidth.") ++
    ["| Media unit | Payload model | RTP packets/s | RTP payload bitrate |",
      "| --- | --- | ---: | ---: |", audioRow, lowRow, highRow, cameraRow, ""] ++
    paragraph (s!"The audio model is continuous active full-band speech at {audioBps} bit/s " ++
      s!"with the {profile.audioPacketizationMs} ms Opus packetization default. The VP8 profile " ++
      s!"uses {videoFramesPerSecond} frames/s and one keyframe every {profile.profileSeconds} " ++
      "seconds. Each first keyframe fragment carries the complete ten-byte VP8 uncompressed " ++
      "prefix with the keyframe sync code and 320 by 180 low or 1,280 by 720 high dimensions. " ++
      "Both VP8 RID rates form a high-bitrate simulcast stress envelope. The largest RTP " ++
      s!"payload is {videoHighPacketPayloadBytes} B, which leaves 180 B beneath the 1,280 B " ++
      "IPv6 effective MTU for transport headers and negotiated RTP extensions. " ++
      "[Opus RTP guidance](https://www.rfc-editor.org/rfc/rfc7587.html), " ++
      "[VP8 keyframe prefix](https://www.rfc-editor.org/rfc/rfc6386.html#section-9.1), " ++
      "[VP8 RTP fragmentation](https://www.rfc-editor.org/rfc/rfc7741.html#section-4.4), " ++
      "[UDP message sizing](https://www.rfc-editor.org/rfc/rfc8085.html#section-3.2) and " ++
      "[WebRTC bitrate units]" ++
      "(https://www.w3.org/TR/webrtc/#dom-rtcrtpencodingparameters-maxbitrate).")

end Profile

section Charts

variable (mode : Mode)

/-- A line of a chart, a value for each label. -/
structure ChartSeries where
  name : String
  values : List UInt64
deriving DecidableEq

/-- The axis leaves a tenth of headroom, rounded up to the second digit. -/
def chartAxisMax (values : List UInt64) (minimum : UInt64) : Machine UInt64 := do
  let maximum := values.max?.getD 0
  if maximum = 0 then return max minimum 1
  else if maximum ≤ minimum then return minimum
  else
    let padded ← divCeil (← mul mode u128 maximum.toNat 11) 10
    let padded := min (if padded < u64 then UInt64.ofNat padded else maxMermaidInteger)
      maxMermaidInteger
    let step ← pow mode u64 10 ((← ilog10 padded.toNat) - 1)
    let steps ← divCeil padded.toNat step
    return max (max (min (clamped (steps * step)) maxMermaidInteger) maximum) minimum

/-- The labels of the next panel: four of them, but three where five are left. -/
def chunkSize (remaining : Nat) : Machine Nat := do
  if remaining = (← add mode usize categoryChartPoints 1) then sub mode usize categoryChartPoints 1
  else return min remaining categoryChartPoints

/-- The panels of a chart, from a label on. A pass takes at least one label. -/
def chartRanges (labels : Nat) : Nat → Nat → Machine (List (Nat × Nat))
  | passes, start =>
    if start < labels then
      match passes with
      | 0 => .error .unfinished
      | passes + 1 => do
        let remaining ← sub mode usize labels start
        let size ← chunkSize mode remaining
        let stop ← add mode usize start size
        return (start, stop) :: (← chartRanges labels passes stop)
    else return []

/-- The items from a position up to another, if there are that many. -/
def slice {α : Type} (items : List α) (range : Nat × Nat) : Option (List α) :=
  if range.1 ≤ range.2 ∧ range.2 ≤ items.length then
    some ((items.drop range.1).take (range.2 - range.1))
  else none

/-- A text in quotation marks. -/
def quoted (text : String) : String :=
  "\"" ++ text ++ "\""

/-- One panel, drawn by its text. -/
def renderCategoryChart (title description : String) (labels : List String) (yAxis : String)
    (maximum : UInt64) (series : List ChartSeries) : Machine (List String) := do
  require (2 ≤ labels.length) "category line chart needs at least two labels"
  require (series.length ≤ lineColors.length) "chart has more lines than its color palette"
  let legend := (series.zip lineColors).map (fun (line, color, hex) =>
    s!"{color} (`{hex}`) = {line.name}")
  return paragraph description ++
    paragraph (s!"Series colors: " ++ ". ".intercalate legend ++ ".") ++
    ["```mermaid", "---", "config:", "  themeVariables:", "    xyChart:",
      "      plotColorPalette: " ++ quoted (", ".intercalate (lineColors.map Prod.snd)),
      "---", "xychart-beta",
      s!"    accTitle: {title}", s!"    accDescr: {description}", "    title " ++ quoted title,
      "    x-axis [" ++ ", ".intercalate (labels.map quoted) ++ "]",
      "    y-axis " ++ quoted yAxis ++ s!" 0 --> {maximum}"] ++
    series.map (fun line =>
      "    line [" ++ ", ".intercalate (line.values.map toString) ++ "]") ++
    paragraph "```"

/-- One panel of a chart. -/
def renderPanel (title description : String) (labels : List String) (yAxis : String)
    (minimum : UInt64) (series : List ChartSeries) (chunkCount : Nat)
    (chunk : (Nat × Nat) × Nat) : Machine (List String) := do
  let (range, chunkIndex) := chunk
  let chartLabels ← expect (slice labels range) "chart label chunk is outside its labels"
  let chartTitle ← (if chunkCount = 1 then pure title
    else do return s!"{title} ({← add mode usize chunkIndex 1}/{chunkCount})")
  let chartSeries ← series.mapM (fun line => do
    let values ← expect (slice line.values range) "chart series chunk is outside its values"
    return ChartSeries.mk line.name values)
  let maximum ← chartAxisMax mode (chartSeries.flatMap ChartSeries.values) minimum
  renderCategoryChart chartTitle description chartLabels yAxis maximum chartSeries

/-- A chart in panels of a few labels each, all with the same axis. -/
def renderCategoryCharts (title description : String) (labels : List String) (yAxis : String)
    (minimum : UInt64) (series : List ChartSeries) : Machine (List String) := do
  require (labels ≠ []) "chart labels cannot be empty"
  require (series ≠ []) "chart series cannot be empty"
  require (∀ line ∈ series, line.values.length = labels.length)
    "chart series lengths must match chart labels"
  let omitted (reason : String) : List String :=
    paragraph s!"The {title} chart is omitted because {reason}. The tabular metrics remain available."
  if labels.length = 1 then return omitted "fewer than two scenarios have chartable values"
  else if maxChartScenarios < labels.length then
    return omitted s!"it contains more than {maxChartScenarios} scenarios"
  else if series.any (fun line => line.values.any (fun value => maxMermaidInteger < value)) then
    return omitted "a value exceeds Mermaid's exact-integer range"
  else
    let ranges ← chartRanges mode labels.length labels.length 0
    let chunkCount := ranges.length
    let panels ← ranges.zipIdx.mapM
      (renderPanel mode title description labels yAxis minimum series chunkCount)
    return (if 1 < chunkCount then
        paragraph (s!"The {title} chart is split into {chunkCount} panels. " ++
          "Each panel uses its own y-axis scale.")
      else []) ++ panels.flatten

end Charts

section Delivery

variable (mode : Mode)

/-- The delivered packets of a run. -/
def deliveryRow (run : RunData) : Machine String :=
  let result := run.result
  tableRow [
    return scenarioLabel result.scenario,
    grouped mode result.plan.expectedDeliveries,
    grouped mode result.deliveredPackets,
    return s!"{← grouped mode (Arithmetic.achievedDeliveriesPerSecond result)}/s",
    do formatBitsPerSecond mode (← Arithmetic.scheduledPayloadBitsPerSecond mode result),
    do formatBitsPerSecond mode (← Arithmetic.deliveredPayloadBitsPerSecond mode result),
    return passFail (← Arithmetic.runPassed mode run)]

/-- A rate in thousands. -/
def thousands (rate : Machine UInt64) : Machine UInt64 :=
  return UInt64.ofNat (← div (← rate).toNat 1000)

/-- The section of the delivered packets: its charts and its table. -/
def renderDelivery (runs : List RunData) : Machine (List String) := do
  let labels := runs.map (fun run => chartLabel run.result.scenario)
  let deliveryRates := runs.map (fun run => Arithmetic.achievedDeliveriesPerSecond run.result)
  let scheduledRates ← runs.mapM (fun run =>
    thousands (Arithmetic.scheduledPayloadBitsPerSecond mode run.result))
  let observedRates ← runs.mapM (fun run =>
    thousands (Arithmetic.deliveredPayloadBitsPerSecond mode run.result))
  let charts ← (if runs.length ≤ maxChartScenarios then do
      let rates ← renderCategoryCharts mode "Observed receiver deliveries per second"
        "The line compares receiver-observed delivery rates across scenarios."
        labels "deliveries/s" 0 [⟨"observed deliveries", deliveryRates⟩]
      let payload ← renderCategoryCharts mode "Scheduled sender and receiver-observed RTP payload"
        ("The first line is scheduled sender RTP payload. The second line is " ++
          "receiver-observed RTP payload.")
        labels "RTP payload kbit/s" 0
        [⟨"scheduled sender", scheduledRates⟩, ⟨"receiver observed", observedRates⟩]
      return rates ++ payload
    else return paragraph (s!"Visual charts are omitted when more than {maxChartScenarios} " ++
      "scenarios are reported."))
  let rows ← runs.mapM (deliveryRow mode)
  return paragraph "## Exact delivery" ++ charts ++
    ["| Scenario | Expected | Delivered | Delivery rate | Scheduled sender payload | " ++
      "Receiver-observed payload | Exact |",
      "| --- | ---: | ---: | ---: | ---: | ---: | --- |"] ++
    rows ++ [""]

end Delivery

section Telemetry

variable (mode : Mode)

/-- A run's label in tables and the summary of its telemetry. -/
abbrev Summarized := String × TelemetrySummary

/-- What was sampled of a run. -/
def sampleRow (summarized : Summarized) : Machine String :=
  let (label, summary) := summarized
  tableRow [
    return label,
    return s!"{summary.samples}",
    return s!"{summary.unavailable}",
    formatOptional summary.elapsedMs (formatMilliseconds mode),
    return observed summary.serverTicksObserved,
    return observed summary.rtcTicksObserved]

/-- The metrics of a run, those it lacks marked as such. -/
def metricRow (summarized : Summarized) : Machine String :=
  let (label, summary) := summarized
  tableRow [
    return label,
    formatOptional summary.serverCpuPercentMilli formatCpuPercent,
    formatOptional summary.serverCpuPeakPercentMilli formatCpuPercent,
    formatOptional summary.deliveriesPerServerCpuSecond (formatDeliveryEfficiency mode),
    formatOptional summary.forwardedPacketsPerSecond (formatPacketsPerSecond mode),
    formatOptional summary.egressPayloadBitsPerSecond (formatBitsPerSecond mode),
    formatPacketLoopHealth mode summary,
    formatOptional summary.serverRssBytes (formatMebibytes mode),
    formatOptional summary.rtcCpuPercentMilli formatCpuPercent,
    formatOptional summary.rtcRssBytes (formatMebibytes mode)]

/-- The table of the metrics. -/
def renderMetricTable (summaries : List Summarized) : Machine (List String) := do
  let rows ← summaries.mapM (metricRow mode)
  return paragraph ("CPU and counter metrics cover the whole sample window including setup, " ++
      "warmup and drain.") ++
    ["| Scenario | SFU CPU avg | SFU CPU peak | Efficiency | Forwarded | Sample egress | " ++
      "Loop heartbeat delay | SFU RSS | RTC CPU avg | RTC RSS |",
      "| --- | ---: | ---: | ---: | ---: | ---: | ---: | ---: | ---: | ---: |"] ++
    rows ++ [""]

/-- Average and peak of a run that has both. -/
def cpuPoint (summarized : Summarized × String) : Option (String × UInt64 × UInt64) := do
  let average ← summarized.1.2.serverCpuPercentMilli
  let peak ← summarized.1.2.serverCpuPeakPercentMilli
  return (summarized.2, average, peak)

/-- The chart of the processor, where both processes were seen. The other runs are listed. -/
def renderCpuOverview (summaries : List Summarized) (labels : List String) :
    Machine (List String) := do
  require (summaries.length = labels.length) "CPU chart labels must match telemetry summaries"
  let points := (summaries.zip labels).filterMap cpuPoint
  let omittedLabels :=
    ((summaries.zip labels).filter (fun point => (cpuPoint point).isNone)).map Prod.snd
  let averages ← points.mapM (fun point => roundedDiv mode point.2.1 1000)
  let peaks ← points.mapM (fun point => roundedDiv mode point.2.2 1000)
  let notice :=
    if omittedLabels.isEmpty then []
    else paragraph ("CPU chart requires an interval-weighted average and sampled peak. Omitted " ++
      s!"scenarios: " ++ ", ".intercalate omittedLabels ++ ".")
  if points.isEmpty then return notice
  else
    let chart ← renderCategoryCharts mode "SFU CPU average and peak"
      ("The first line is the whole-window weighted average. The second line is the sampled " ++
        "peak.")
      (points.map Prod.fst) "CPU (%)" 100
      [⟨"weighted average", averages⟩, ⟨"sampled peak", peaks⟩]
    return notice ++ chart

/-- The rows of one run that lost telemetry: one for each error that was kept. -/
def issueRows (run : RunData) : List String :=
  match run.samples.filter (fun set => 0 < set.unavailable) with
  | none => []
  | some set =>
    let row (error : String) : String :=
      cells [scenarioLabel run.result.scenario, escapeTable run.source, s!"{set.unavailable}", error]
    if set.errors.isEmpty then [row "unavailable telemetry record"]
    else set.errors.map (fun error => row (escapeTable error))

/-- The table of what was lost, if anything was. -/
def renderTelemetryIssues (runs : List RunData) : List String :=
  let rows := runs.flatMap issueRows
  if rows.isEmpty then []
  else paragraph "## Telemetry issues" ++
    ["| Scenario | Input | Unavailable | Error |", "| --- | --- | ---: | --- |"] ++ rows ++ [""]

/-- The section of the telemetry. -/
def renderTelemetry (runs : List RunData) : Machine (List String) := do
  let summaries ← runs.mapM (fun run => do
    let summary ← Arithmetic.telemetrySummary mode run.samples run.result.deliveredPackets
    return (scenarioLabel run.result.scenario, summary))
  let sampleRows ← summaries.mapM (sampleRow mode)
  let overview ← (if runs.length ≤ maxChartScenarios then
      renderCpuOverview mode summaries (runs.map (fun run => chartLabel run.result.scenario))
    else return [])
  let metrics ← renderMetricTable mode summaries
  return paragraph "## Process telemetry" ++
    paragraph ("CPU averages are weighted by sample interval. CPU graphs require explicit " ++
      "milli-percent samples.") ++
    ["| Scenario | Samples | Unavailable | Last sample | SFU ticks | RTC ticks |",
      "| --- | ---: | ---: | ---: | --- | --- |"] ++
    sampleRows ++ [""] ++ overview ++ metrics ++ renderTelemetryIssues runs

end Telemetry

section Report

variable (mode : Mode)

/-- The lines of a report on sorted inputs. -/
def renderLines (runs : List RunData) (failures : List LoadFailure)
    (artifactUrl : Option String) : Machine (List String) := do
  let status ← renderStatus mode runs failures artifactUrl
  let failed := if failures.isEmpty then [] else renderFailures failures
  if runs.isEmpty then
    return paragraph "# o-sfu load report" ++ status ++ failed ++
      paragraph "No valid result files were available."
  else
    let workloads ← renderWorkloads mode runs
    let profile ← renderMediaProfile mode
    let delivery ← renderDelivery mode runs
    let discrepancies ← renderDiscrepancies mode runs
    let telemetry ←
      (if runs.any (fun run => run.samples.isSome) then renderTelemetry mode runs else return [])
    return paragraph "# o-sfu load report" ++ status ++ failed ++ workloads ++ profile ++
      renderScenarioLegend ++ delivery ++ discrepancies ++ telemetry

/-- Failures are sorted by path and text. -/
def compareFailures : LoadFailure → LoadFailure → Ordering :=
  compareLex (compareOn LoadFailure.source) (compareOn LoadFailure.error)

/-- What decides between runs whose scenarios have the same key. The last
comparison is of their debug texts. -/
def compareRest (debug : ScenarioResult → String) : RunData → RunData → Ordering :=
  compareLex (compareOn (fun run => run.result.profile)) <|
  compareLex (compareOn RunData.source) <|
  compareLex (compareOn (fun run => run.result.deliveredPackets)) <|
  compareLex (compareOn (fun run => run.result.elapsedMs)) <|
  compareOn (fun run => debug run.result)

attribute [local instance] lexOrd in

/-- Runs are sorted by scenario, then by path and what else tells them apart. -/
def compareRuns (debug : ScenarioResult → String) (left right : RunData) : Machine Ordering := do
  let leftKey ← Arithmetic.scenarioKey mode left.result.scenario
  let rightKey ← Arithmetic.scenarioKey mode right.result.scenario
  return (compare leftKey rightKey).then (compareRest debug left right)

/-- A report that is too long is an error. -/
def ensureSummarySize (summary : String) : Machine Unit :=
  require (summary.utf8ByteSize ≤ githubSummaryLimitBytes)
    "report exceeds GitHub's one MiB job-summary limit"

/-- The lines of a report on inputs in any order. -/
def reportLines (sorter : Sorter) (debug : ScenarioResult → String) (runs : List RunData)
    (failures : List LoadFailure) (artifactUrl : Option String) : Machine (List String) := do
  let runs ← sorter.sortUnstableBy (compareRuns mode debug) runs
  let failures ← sorter.sortUnstableBy
    (fun left right => .ok (compareFailures left right)) failures
  renderLines mode runs failures artifactUrl

/-- The lines of a report, joined. -/
def renderReport (sorter : Sorter) (debug : ScenarioResult → String) (runs : List RunData)
    (failures : List LoadFailure) (artifactUrl : Option String) : Machine String := do
  let lines ← reportLines mode sorter debug runs failures artifactUrl
  let output := String.join (lines.map (· ++ "\n"))
  ensureSummarySize output
  return output

end Report

end SfuLoad.Report
