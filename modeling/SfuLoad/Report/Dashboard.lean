import SfuLoad.Kit.Saturating
import SfuLoad.Kit.Fallible
import SfuLoad.Kit.Walk
import SfuLoad.Report.Samples

/-!
# Dashboard series

Ten panels turn a sample set into named series. A series is built by one of four
closures that walk the samples with a memory of the previous one; smoothed series
also record when the interval behind each value started. Afterwards the values
whose interval holds a phase marker are taken out of the smoothed lines and kept
in the raw ones. Drawing is outside the model.
-/

namespace SfuLoad.Report

open Kit.Fallible Kit.Saturating Kit.Walk Model

/-- A color of the plotting library. -/
structure RGBColor where
  red : UInt8
  green : UInt8
  blue : UInt8
deriving DecidableEq

/-- The color of a panel's first line, as a rule. -/
def colorBlue : RGBColor := ⟨56, 139, 253⟩

/-- Of the RTC generator beside the server. -/
def colorOrange : RGBColor := ⟨219, 109, 40⟩

/-- Of what was forwarded. -/
def colorGreen : RGBColor := ⟨35, 134, 54⟩

/-- Of backlogs and pressure. -/
def colorPurple : RGBColor := ⟨130, 80, 223⟩

/-- Of what should not be high. -/
def colorRed : RGBColor := ⟨207, 34, 46⟩

/-- Of scrapes. -/
def colorViolet : RGBColor := ⟨111, 66, 193⟩

/-- What the values of a panel are measured in. -/
inductive PanelUnit where
  | cpu
  | mebibytes
  | packetsPerSecond
  | megabitsPerSecond
  | multiplier
  | milliseconds
  | count
  | percent
deriving DecidableEq

/-- A value and the time it was taken at, if there was one. -/
abbrev Point := Option (UInt64 × UInt64)

/-- A line of a panel. The raw values are there when some were taken off the line, and the
interval starts when it may lose values. -/
structure Series where
  name : String
  color : RGBColor
  rawValues : Option (List Point)
  values : List Point
  intervalStartsMs : Option (List (Option UInt64))
  pointsOnly : Bool
  smooth : Bool
deriving DecidableEq

/-- A chart with the lines it shows. -/
structure Panel where
  title : String
  unit : PanelUnit
  series : List Series
deriving DecidableEq

/-- What a dashboard is drawn from. -/
structure DashboardData where
  elapsedMs : UInt64
  phases : List PhaseMarker
  panels : List Panel
deriving DecidableEq

/-- One value's start: the time of the last value before it. -/
def previousValueStep (previous : Option UInt64) (value : Point) :
    Option UInt64 × Option UInt64 :=
  match value with
  | some (elapsedMs, _) => (some elapsedMs, previous)
  | none => (previous, none)

/-- For each value the time of the value before it. -/
def previousValueStarts (values : List Point) : List (Option UInt64) :=
  walk previousValueStep none values

/-- A line of one value of each sample. Only a smoothed one has interval starts. -/
def directSeries (name : String) (color : RGBColor) (samples : List TelemetrySample)
    (value : TelemetrySample → Option UInt64) (smooth : Bool) : Series :=
  let values := samples.map (fun sample =>
    (value sample).map (fun value => (sample.elapsedMs, value)))
  { name := name
    color := color
    rawValues := none
    values := values
    intervalStartsMs := if smooth then some (previousValueStarts values) else none
    pointsOnly := false
    smooth := smooth }

/-- The same, drawn as points. -/
def pointSeries (name : String) (color : RGBColor) (samples : List TelemetrySample)
    (value : TelemetrySample → Option UInt64) : Series :=
  { directSeries name color samples value false with pointsOnly := true }

/-- A 128-bit quotient, clamped to 64 bits. -/
def clamped (quotient : Nat) : UInt64 := UInt64.ofNat (min quotient limit)

/-- The positive time between two samples. -/
def positiveElapsed (elapsedMs previousMs : UInt64) : Option UInt64 :=
  (checkedSub elapsedMs previousMs).filter (fun elapsed => 0 < elapsed)

/-- The rate between two counter readings; nothing over no time or after a reset. -/
def ratePoint (scale : UInt64) (prior current : UInt64 × UInt64) : Point := do
  let elapsed ← positiveElapsed current.1 prior.1
  let delta ← checkedSub current.2 prior.2
  return (current.1, clamped (delta.toNat * scale.toNat / elapsed.toNat))

/-- One call of the counter closure: the reading it keeps, its value, and what it
pushes onto the starts. -/
def counterStep (value : TelemetrySample → Option UInt64) (scale : UInt64)
    (previous : Option (UInt64 × UInt64)) (sample : TelemetrySample) :
    Option (UInt64 × UInt64) × Point × List (Option UInt64) :=
  let current := (value sample).map (fun value => (sample.elapsedMs, value))
  match previous, current with
  | some prior, some reading =>
      let point := ratePoint scale prior reading
      (current, point, [point.map (fun _ => prior.1)])
  | _, _ => (current, none, [none])

/-- A smoothed series made by a closure: its values in place, and the starts in
the order they were pushed. -/
def walkedSeries {memory : Type} (name : String) (color : RGBColor)
    (step : Option memory → TelemetrySample → Option memory × Point × List (Option UInt64))
    (samples : List TelemetrySample) : Series :=
  let calls := walk step none samples
  { name := name
    color := color
    rawValues := none
    values := calls.map Prod.fst
    intervalStartsMs := some (calls.flatMap Prod.snd)
    pointsOnly := false
    smooth := true }

/-- A line of the growth of a counter between samples. -/
def counterSeries (name : String) (color : RGBColor) (samples : List TelemetrySample)
    (value : TelemetrySample → Option UInt64) (scale : UInt64) : Series :=
  walkedSeries name color (counterStep value scale) samples

/-- What the fanout closure keeps of a sample. -/
structure FanoutReading where
  elapsedMs : UInt64
  ingress : UInt64
  forwarded : UInt64
deriving DecidableEq

/-- The sample's reading, if it carries both counters. -/
def fanoutReading (sample : TelemetrySample) : Option FanoutReading := do
  return ⟨sample.elapsedMs, ← sample.ingressPackets, ← sample.forwardedPackets⟩

/-- The forwarded packets per ingress packet between two readings. -/
def fanoutPoint (prior current : FanoutReading) : Point := do
  let _elapsed ← positiveElapsed current.elapsedMs prior.elapsedMs
  let ingress ← checkedSub current.ingress prior.ingress
  let forwarded ← checkedSub current.forwarded prior.forwarded
  if 0 < ingress then
    return (current.elapsedMs, clamped (forwarded.toNat * 1000 / ingress.toNat))
  else none

/-- One call of the fanout closure. Without a reading it returns at once: nothing
is kept and nothing is pushed. -/
def fanoutStep (previous : Option FanoutReading) (sample : TelemetrySample) :
    Option FanoutReading × Point × List (Option UInt64) :=
  match fanoutReading sample with
  | none => (previous, none, [])
  | some reading =>
    match previous with
    | some prior =>
        let point := fanoutPoint prior reading
        (some reading, point, [point.map (fun _ => prior.elapsedMs)])
    | none => (some reading, none, [none])

/-- The line of the observed fanout. -/
def fanoutSeries (samples : List TelemetrySample) : Series :=
  walkedSeries "Observed" colorGreen fanoutStep samples

/-- The values of one worker. -/
abbrev WorkerValues := List Point

/-- One worker's entry of one sample: its series so far, padded up to this sample
where the worker is new, takes the value in its last place. -/
def pushWorker (sampleIndex : Nat) (sample : TelemetrySample) (mediaWorkers : Nat)
    (workers : List (Option WorkerValues)) (worker : WorkerTelemetry) :
    Except String (List (Option WorkerValues)) := do
  let slot ← context workers[worker.mediaWorkerId.toNat]?
    (s!"telemetry sample at {sample.elapsedMs} ms contains worker {worker.mediaWorkerId} " ++
      s!"outside result policy of {mediaWorkers} media workers")
  let values := slot.getD (List.replicate (sampleIndex + 1) none)
  let current ← context values.getLast? "worker series has no current sample"
  ensure (current = none)
    s!"telemetry sample at {sample.elapsedMs} ms repeats worker {worker.mediaWorkerId}"
  return workers.set worker.mediaWorkerId.toNat
    (some (values.dropLast ++ [some (sample.elapsedMs, worker.egressBitrateBps)]))

/-- One sample: every known worker gets an empty place, then the reported ones
are filled in. -/
def pushSample (mediaWorkers : Nat) (workers : List (Option WorkerValues))
    (indexed : TelemetrySample × Nat) : Except String (List (Option WorkerValues)) := do
  let (sample, sampleIndex) := indexed
  ensure (sample.workers.length ≤ mediaWorkers)
    (s!"telemetry sample at {sample.elapsedMs} ms contains {sample.workers.length} workers " ++
      s!"but result policy allows {mediaWorkers} media workers")
  sample.workers.foldlM (pushWorker sampleIndex sample mediaWorkers)
    (workers.map (fun slot => slot.map (fun values => values ++ [none])))

/-- Six colors in turn. -/
def workerColor (index : Nat) : RGBColor :=
  match index % 6 with
  | 0 => colorBlue
  | 1 => colorOrange
  | 2 => colorGreen
  | 3 => colorPurple
  | 4 => colorRed
  | _ => colorViolet

/-- One line for each worker. Workers out of order and workers beyond the policy's are
errors. -/
def workerSeries (samples : List TelemetrySample) (mediaWorkers : UInt32) :
    Except String (List Series) := do
  let mediaWorkers := mediaWorkers.toNat
  ensure (0 < mediaWorkers) "result policy has no media workers"
  ensure (mediaWorkers ≤ maxTelemetryWorkers)
    s!"dashboard supports at most {maxTelemetryWorkers} media workers"
  let workers ← samples.zipIdx.foldlM (pushSample mediaWorkers)
    (List.replicate mediaWorkers none)
  return workers.zipIdx.filterMap (fun (slot, workerId) => slot.map (fun values =>
    { name := s!"Worker {workerId}"
      color := workerColor workerId
      rawValues := none
      values := values
      intervalStartsMs := some (previousValueStarts values)
      pointsOnly := false
      smooth := true }))

/-- The time of a scrape that succeeded. -/
def successfulScrapeDuration (sample : TelemetrySample) : Option UInt64 :=
  if sample.isGap then none else sample.scrapeDurationMs

/-- The time of one that failed. -/
def unavailableScrapeDuration (sample : TelemetrySample) : Option UInt64 :=
  if sample.isGap then sample.scrapeDurationMs else none

/-- The deepest command backlog of the workers. -/
def maxCommandBacklog (sample : TelemetrySample) : Option UInt64 :=
  (sample.workers.map WorkerTelemetry.commandBacklogDepth).max?

/-- The deepest mailbox. -/
def maxRelayBacklog (sample : TelemetrySample) : Option UInt64 :=
  (sample.workers.map WorkerTelemetry.relayMailboxDepth).max?

/-- The highest pressure. -/
def maxWorkerPressure (sample : TelemetrySample) : Option UInt64 :=
  (sample.workers.map (fun worker => worker.workerPressureScore.toUInt64)).max?

/-- The CPU of both processes, smoothed. -/
def cpuPanel (samples : List TelemetrySample) : Panel where
  title := "Process CPU"
  unit := .cpu
  series :=
    [directSeries "SFU" colorBlue samples TelemetrySample.serverCpuPercentMilli true,
     directSeries "RTC generator" colorOrange samples TelemetrySample.rtcCpuPercentMilli true]

/-- The memory of both processes. -/
def memoryPanel (samples : List TelemetrySample) : Panel where
  title := "Resident memory"
  unit := .mebibytes
  series :=
    [directSeries "SFU" colorBlue samples TelemetrySample.serverRssBytes false,
     directSeries "RTC generator" colorOrange samples TelemetrySample.rtcRssBytes false]

/-- Packets that came in, were forwarded and went out. -/
def packetRatePanel (samples : List TelemetrySample) : Panel where
  title := "RTP packets / second"
  unit := .packetsPerSecond
  series :=
    [counterSeries "Ingress" colorBlue samples TelemetrySample.ingressPackets 1000,
     counterSeries "Forwarded local" colorGreen samples TelemetrySample.forwardedPackets 1000,
     counterSeries "Egress" colorOrange samples TelemetrySample.egressPackets 1000]

/-- The payload of these packets. -/
def payloadRatePanel (samples : List TelemetrySample) : Panel where
  title := "RTP payload Mbit / second"
  unit := .megabitsPerSecond
  series :=
    [counterSeries "Ingress" colorBlue samples TelemetrySample.ingressPayloadBytes 8000,
     counterSeries "Forwarded local" colorGreen samples TelemetrySample.forwardedPayloadBytes 8000,
     counterSeries "Egress" colorOrange samples TelemetrySample.egressPayloadBytes 8000]

/-- The planned ratio, drawn flat over the successful samples. -/
def expectedFanoutSeries (samples : List TelemetrySample) (expected : UInt64) : Series where
  name := "Expected"
  color := colorPurple
  rawValues := none
  values := samples.map (fun sample =>
    if sample.isGap then none else some (sample.elapsedMs, expected))
  intervalStartsMs := none
  pointsOnly := false
  smooth := false

/-- The observed fanout, and the expected one if there is one. -/
def fanoutPanel (samples : List TelemetrySample) (expectedFanoutMilli : Option UInt64) :
    Panel where
  title := "Local fanout multiplier"
  unit := .multiplier
  series := fanoutSeries samples :: (expectedFanoutMilli.map (expectedFanoutSeries samples)).toList

/-- What each worker sent. -/
def workerBitratePanel (samples : List TelemetrySample) (mediaWorkers : UInt32) :
    Except String Panel := do
  return ⟨"Worker egress Mbit / second", .megabitsPerSecond, ← workerSeries samples mediaWorkers⟩

/-- The delay of the slowest packet loop. -/
def packetLoopPanel (samples : List TelemetrySample) : Panel where
  title := "Packet-loop delay"
  unit := .milliseconds
  series :=
    [directSeries "Maximum worker" colorRed samples TelemetrySample.packetLoopDelayMs false]

/-- The queues of the workers. -/
def queuePanel (samples : List TelemetrySample) : Panel where
  title := "Queue depth"
  unit := .count
  series :=
    [directSeries "Maximum command backlog" colorPurple samples maxCommandBacklog false,
     directSeries "Maximum relay mailbox" colorRed samples maxRelayBacklog false]

/-- The pressure of the workers. -/
def pressurePanel (samples : List TelemetrySample) : Panel where
  title := "Worker pressure score"
  unit := .percent
  series := [directSeries "Maximum worker" colorPurple samples maxWorkerPressure false]

/-- How long the scrapes took. -/
def scrapePanel (samples : List TelemetrySample) : Panel where
  title := "Telemetry scrape duration"
  unit := .milliseconds
  series :=
    [directSeries "Successful scrape" colorViolet samples successfulScrapeDuration false,
     pointSeries "Unavailable scrape" colorRed samples unavailableScrapeDuration]

/-- Some phase marker lies behind the start and not behind the value. -/
def crosses (phases : List PhaseMarker) (startMs elapsedMs : UInt64) : Bool :=
  phases.any (fun marker => startMs < marker.elapsedMs && marker.elapsedMs ≤ elapsedMs)

/-- Positions whose value and start, paired by position, enclose a marker. -/
def crossings (values : List Point) (starts : List (Option UInt64)) (phases : List PhaseMarker) :
    List Nat :=
  (values.zip starts).zipIdx.filterMap (fun ((value, start), index) =>
    match value, start with
    | some (elapsedMs, _), some startMs =>
        if crosses phases startMs elapsedMs then some index else none
    | _, _ => none)

/-- Take the values whose interval holds a phase marker off a line, and keep the line as it
was in its raw values. A line without such a value stays as it is. -/
def gapPhaseCrossings (series : Series) (phases : List PhaseMarker) : Series :=
  match series.intervalStartsMs with
  | none => series
  | some starts =>
    let crossed := crossings series.values starts phases
    if crossed.isEmpty then series
    else { series with
      rawValues := some (series.rawValues.getD series.values)
      values := crossed.foldl (fun values index => values.set index none) series.values }

namespace DashboardData

/-- The panels before phase crossings are taken out. -/
def panelsOf (set : SampleSet) (expectedFanoutMilli : Option UInt64) (mediaWorkers : UInt32) :
    Except String (List Panel) := do
  let workerBitrate ← workerBitratePanel set.samples mediaWorkers
  return [cpuPanel set.samples, memoryPanel set.samples, packetRatePanel set.samples,
    payloadRatePanel set.samples, fanoutPanel set.samples expectedFanoutMilli, workerBitrate,
    packetLoopPanel set.samples, queuePanel set.samples, pressurePanel set.samples,
    scrapePanel set.samples]

/-- The data of a sample set: its panels with the phase crossings taken out, over a time that
is never zero. -/
def new (set : SampleSet) (expectedFanoutMilli : Option UInt64) (mediaWorkers : UInt32) :
    Except String DashboardData := do
  let times := set.samples.map TelemetrySample.elapsedMs ++ set.phases.map PhaseMarker.elapsedMs
  let elapsedMs := max (times.max?.getD 1) 1
  let panels ← panelsOf set expectedFanoutMilli mediaWorkers
  return ⟨elapsedMs, set.phases, panels.map (fun panel =>
    { panel with series := panel.series.map (fun series => gapPhaseCrossings series set.phases) })⟩

end DashboardData

end SfuLoad.Report
