import SfuLoad.Kit.Lines
import SfuLoad.Report.Samples
import SfuLoad.Telemetry.Records
import Mathlib.Algebra.Ring.Nat
import Mathlib.Data.List.Chain
import Mathlib.Data.List.Dedup

/-!
# Reading a telemetry file

The reader goes line by line and never fails: what it cannot use it counts as
unavailable, with the first few errors kept, and a scrape it cannot use leaves a
gap when its time is known. Records without a status are those of an older schema
and are read field by field. JSON text itself is decoded elsewhere. Counts never
leave the range of their words.
-/

namespace SfuLoad.Report

open Kit.Fallible Kit.Json Kit.Lines Model Telemetry

/-- How records become text, text a JSON value, and a JSON value a record. -/
structure Serde where
  toWriter : TelemetryRecord → Text
  fromStr : Text → Except String Value
  fromValue : Value → Except String TelemetryRecord

/-- Why a record has no measurement, in its own words if it has some. -/
def telemetryError (value : Value) : String :=
  ((value.get "message").bind Value.asStr).getD
    "telemetry record contains no usable process data"

/-- A number in an object in an object. -/
def nestedU64 (value : Value) (object field : String) : Option UInt64 :=
  (value.get object).bind (·.getU64 field)

/-- A number of the traffic in one direction. -/
def trafficU64 (value : Value) (direction field : String) : Option UInt64 :=
  (value.get "traffic").bind (nestedU64 · direction field)

namespace WorkerTelemetry

/-- A worker of an older record, all of whose fields must be there. -/
def fromValue (value : Value) : Option WorkerTelemetry := do
  let mediaWorkerId ← value.getU64 "mediaWorkerId"
  let egressBitrateBps ← value.getU64 "egressBitrateBps"
  let commandBacklogDepth ← value.getU64 "commandBacklogDepth"
  let relayMailboxDepth ← value.getU64 "relayMailboxDepth"
  let workerPressureScore ← value.getU64 "workerPressureScore"
  if workerPressureScore.toNat < 2 ^ 8 then
    some ⟨mediaWorkerId, egressBitrateBps, commandBacklogDepth, relayMailboxDepth,
      workerPressureScore.toUInt8⟩
  else none

/-- No worker's number is too large, and no two workers have the same. -/
def valid (workers : List WorkerTelemetry) : Bool :=
  workers.all (fun worker => worker.mediaWorkerId.toNat < maxTelemetryWorkers) &&
    (workers.map WorkerTelemetry.mediaWorkerId).dedup.length == workers.length

/-- The workers of an older record. -/
def fromValues (values : List Value) : Option (List WorkerTelemetry) :=
  if values.length > maxTelemetryWorkers then none
  else do
    let workers ← values.mapM fromValue
    if valid workers then some workers else none

/-- The workers a value lists; it may list none. -/
def listed (value : Value) : Option (List WorkerTelemetry) :=
  match value.get "workers" with
  | some workers => workers.asArray.bind fromValues
  | none => some []

/-- A worker of a current record. -/
def fromSample (worker : WorkerPressureSample) : WorkerTelemetry where
  mediaWorkerId := worker.mediaWorkerId
  egressBitrateBps := worker.egressBitrateBps
  commandBacklogDepth := worker.commandBacklogDepth
  relayMailboxDepth := worker.relayMailboxDepth
  workerPressureScore := worker.workerPressureScore

/-- The workers of a current record. -/
def fromCurrent (values : List WorkerPressureSample) : Option (List WorkerTelemetry) :=
  if values.length > maxTelemetryWorkers then none
  else
    let workers := values.map fromSample
    if valid workers then some workers else none

end WorkerTelemetry

namespace TelemetrySample

/-- The gap that an older record leaves when it cannot be used. -/
def gapFromValue (value : Value) : Option TelemetrySample := do
  let elapsedMs ← value.getU64 "elapsedMs"
  return .gap elapsedMs (value.getBool "finalSample") (value.getU64 "scrapeDurationMs")

/-- The sample of a current measurement. One worker whose packet loop did not answer leaves
no delay for the sample. -/
def fromCurrent (elapsedMs scrapeDurationMs : UInt64) (finalSample : Option Bool)
    (measurement : Measurement) : Option TelemetrySample := do
  let packetLoopUnresponsive :=
    measurement.workers.any (fun worker => worker.packetLoopDelayMs.isNone)
  let packetLoopDelayMs :=
    if packetLoopUnresponsive then none
    else (measurement.workers.filterMap WorkerPressureSample.packetLoopDelayMs).max?
  let workers ← WorkerTelemetry.fromCurrent measurement.workers
  return {
    elapsedMs := elapsedMs
    isGap := false
    finalSample := finalSample
    scrapeDurationMs := some scrapeDurationMs
    clockTicksPerSecond := some measurement.clockTicksPerSecond
    serverCpuTicks := some measurement.server.cpuTicks
    serverStartTimeTicks := some measurement.server.startTimeTicks
    serverRssBytes := some measurement.serverRssBytes
    rtcCpuTicks := measurement.rtc.map ProcessSample.cpuTicks
    rtcRssBytes := measurement.rtcRssBytes
    serverCpuPercentMilli := measurement.serverCpuPercentMilli
    rtcCpuPercentMilli := measurement.rtcCpuPercentMilli
    ingressPackets := some measurement.traffic.ingress.packets
    ingressPayloadBytes := some measurement.traffic.ingress.payloadBytes
    egressPackets := some measurement.traffic.egress.packets
    forwardedPackets := some measurement.traffic.forwardedLocalRtc.packets
    egressPayloadBytes := some measurement.traffic.egress.payloadBytes
    forwardedPayloadBytes := some measurement.traffic.forwardedLocalRtc.payloadBytes
    workers := workers
    packetLoopDelayMs := packetLoopDelayMs
    packetLoopUnresponsive := packetLoopUnresponsive }

/-- Whether a sample of the older schema holds any measurement. -/
def usable (sample : TelemetrySample) : Bool :=
  sample.serverCpuTicks.isSome || sample.serverRssBytes.isSome || sample.rtcCpuTicks.isSome ||
    sample.rtcRssBytes.isSome || sample.serverCpuPercentMilli.isSome ||
    sample.rtcCpuPercentMilli.isSome || sample.ingressPackets.isSome ||
    sample.ingressPayloadBytes.isSome || sample.egressPackets.isSome ||
    sample.forwardedPackets.isSome || sample.egressPayloadBytes.isSome ||
    sample.forwardedPayloadBytes.isSome || !sample.workers.isEmpty ||
    sample.packetLoopDelayMs.isSome || sample.packetLoopUnresponsive ||
    sample.scrapeDurationMs.isSome

/-- The sample of an older record. -/
def fromValue (value : Value) : Option TelemetrySample := do
  let workers ← WorkerTelemetry.listed value
  let listed := ((value.get "workers").bind Value.asArray).getD []
  let packetLoopUnresponsive :=
    listed.any (fun worker => (worker.get "packetLoopDelayMs").any Value.isNull)
  let elapsedMs ← value.getU64 "elapsedMs"
  let sample : TelemetrySample :=
    { elapsedMs := elapsedMs
      isGap := false
      finalSample := value.getBool "finalSample"
      scrapeDurationMs := value.getU64 "scrapeDurationMs"
      clockTicksPerSecond := value.getU64 "clockTicksPerSecond"
      serverCpuTicks := nestedU64 value "server" "cpuTicks"
      serverStartTimeTicks := nestedU64 value "server" "startTimeTicks"
      serverRssBytes := (nestedU64 value "server" "rssBytes").or (value.getU64 "serverRssBytes")
      rtcCpuTicks := nestedU64 value "rtc" "cpuTicks"
      rtcRssBytes := (nestedU64 value "rtc" "rssBytes").or (value.getU64 "rtcRssBytes")
      serverCpuPercentMilli := value.getU64 "serverCpuPercentMilli"
      rtcCpuPercentMilli := value.getU64 "rtcCpuPercentMilli"
      ingressPackets := trafficU64 value "ingress" "packets"
      ingressPayloadBytes := trafficU64 value "ingress" "payloadBytes"
      egressPackets := trafficU64 value "egress" "packets"
      forwardedPackets := trafficU64 value "forwardedLocalRtc" "packets"
      egressPayloadBytes := trafficU64 value "egress" "payloadBytes"
      forwardedPayloadBytes := trafficU64 value "forwardedLocalRtc" "payloadBytes"
      workers := workers
      packetLoopDelayMs :=
        if packetLoopUnresponsive then none
        else (listed.filterMap (·.getU64 "packetLoopDelayMs")).max?
      packetLoopUnresponsive := packetLoopUnresponsive }
  if sample.usable then some sample else none

end TelemetrySample

/-- A marker is the next phase, not earlier than the one before. -/
def PhaseMarker.new (elapsedMs : UInt64) (phase : ScenarioPhase) (previous : Option PhaseMarker) :
    Except String PhaseMarker := do
  let ordinal := previous.elim 0 (fun marker => marker.phase.ordinal + 1)
  let expected ← context ScenarioPhase.ordered[ordinal]?
    "telemetry contains more than four phase markers"
  ensure (phase = expected)
    s!"telemetry phase is out of order: expected {expected}, got {phase}"
  ensure (¬ previous.any (fun previous => elapsedMs < previous.elapsedMs))
    "telemetry phase elapsed time moved backwards"
  return ⟨elapsedMs, phase⟩

namespace SampleSet

/-- Nothing has been read. -/
def empty : SampleSet := ⟨[], [], 0, []⟩

/-- Keep an error if there is room for it. -/
def retainError (self : SampleSet) (error : String) : SampleSet :=
  if self.errors.length < maxTelemetryErrors then { self with errors := self.errors ++ [error] }
  else self

/-- One more line that could not be used. -/
def lose (self : SampleSet) (error : String) : SampleSet :=
  { self with unavailable := self.unavailable + 1 }.retainError error

/-- One more sample, when there is one. -/
def push (self : SampleSet) (sample : Option TelemetrySample) : SampleSet :=
  { self with samples := self.samples ++ sample.toList }

/-- A decoded record, and the gap to leave for it if it is lost. -/
def take (self : SampleSet) (record : TelemetryRecord) (finalSample : Option Bool)
    (gap : Option TelemetrySample) : SampleSet :=
  match record.outcome with
  | .sample measurement =>
    match TelemetrySample.fromCurrent record.elapsedMs record.scrapeDurationMs finalSample
        measurement with
    | some sample => self.push (some sample)
    | none => (self.lose "telemetry sample contains invalid worker data").push gap
  | .error message => (self.lose message).push gap
  | .phase phase =>
    match PhaseMarker.new record.elapsedMs phase self.phases.getLast? with
    | .ok marker => { self with phases := self.phases ++ [marker] }
    | .error message => self.lose message

/-- A record with a status, and whether it asks for phases. -/
def parseCurrentRecord (self : SampleSet) (serde : Serde) (value : Value) : SampleSet × Bool :=
  let finalSample := value.getBool "finalSample"
  let gap := TelemetrySample.gapFromValue value
  match serde.fromValue value with
  | .error error => ((self.lose s!"malformed telemetry record: {error}").push gap, false)
  | .ok record =>
    (self.take record finalSample gap, telemetrySchemaVersion ≤ record.schemaVersion)

/-- A record without a status. -/
def parseLegacyRecord (self : SampleSet) (value : Value) : SampleSet :=
  match TelemetrySample.fromValue value with
  | some sample => self.push (some sample)
  | none => (self.lose (telemetryError value)).push (TelemetrySample.gapFromValue value)

end SampleSet

/-- The state of the reader between two lines. -/
structure ParseState where
  set : SampleSet
  records : Nat
  phasesRequired : Bool

/-- Before the first line. -/
def ParseState.initial : ParseState := ⟨.empty, 0, false⟩

/-- One line that is not blank: a phase, a sample, a gap or an error. -/
def parseLine (serde : Serde) (state : ParseState) (line : Text) : ParseState :=
  if maxTelemetrySamples ≤ state.records then
    { state with set := state.set.lose "telemetry sample limit reached" }
  else
    match serde.fromStr line with
    | .error error =>
      { state with
        set := state.set.lose s!"malformed telemetry record: {error}"
        records := state.records + 1 }
    | .ok value =>
      if (value.get "status").isNone then
        { state with set := state.set.parseLegacyRecord value, records := state.records + 1 }
      else
        let (set, phasesRequired) := state.set.parseCurrentRecord serde value
        ⟨set, state.records + 1, state.phasesRequired || phasesRequired⟩

/-- Phases are all there or none is expected. -/
def ParseState.checkPhases (self : ParseState) : SampleSet :=
  if (self.phasesRequired || !self.set.phases.isEmpty) &&
      self.set.phases.length != ScenarioPhase.count then
    self.set.lose "telemetry phase sequence is incomplete"
  else self.set

/-- Every line that is not empty. -/
def parseLines (serde : Serde) (payload : Text) : ParseState :=
  (((lines payload).map trim).filter (fun line => !line.isEmpty)).foldl (parseLine serde) .initial

/-- A telemetry file. The samples are sorted by time at the end; the markers are checked
against their order, not sorted. -/
def parseSamples (serde : Serde) (payload : Text) : SampleSet :=
  let set := (parseLines serde payload).checkPhases
  { set with
    samples := set.samples.mergeSort (fun earlier later => earlier.elapsedMs ≤ later.elapsedMs) }

/-- The first and the last sample, when they measure the whole window. -/
def wholeWindowEndpoints (samples : List TelemetrySample) :
    Option (TelemetrySample × TelemetrySample) := do
  let initial ← samples.head?
  let finalSample ← samples.getLast?
  if !initial.isGap && initial.finalSample = some false && !finalSample.isGap &&
      finalSample.finalSample = some true && initial.elapsedMs < finalSample.elapsedMs then
    some (initial, finalSample)
  else none

/-- Earlier or at the same time. -/
instance : IsTrans PhaseMarker (fun earlier later => earlier.elapsedMs ≤ later.elapsedMs) :=
  ⟨fun _ _ _ => UInt64.le_trans⟩

/-- A new marker carries what it was given, and is not earlier than the last. -/
theorem PhaseMarker.new_eq_ok {elapsedMs : UInt64} {phase : ScenarioPhase}
    {previous : Option PhaseMarker} {marker : PhaseMarker} :
    PhaseMarker.new elapsedMs phase previous = .ok marker ↔
      previous.elim 0 (fun marker => marker.phase.ordinal + 1) = phase.ordinal ∧
      (∀ last ∈ previous, last.elapsedMs ≤ elapsedMs) ∧ marker = ⟨elapsedMs, phase⟩ := by
  simp only [PhaseMarker.new, bind_eq_ok, context_eq_ok, ensure_eq_ok]
  constructor
  · rintro ⟨expected, located, _, rfl, _, onward, returned⟩
    refine ⟨(ScenarioPhase.ordered_getElem?_eq_some _ _).mp located, ?_,
      (Except.ok.inj returned).symm⟩
    rintro last rfl
    simpa using onward
  · rintro ⟨next, onward, rfl⟩
    refine ⟨phase, (ScenarioPhase.ordered_getElem?_eq_some _ _).mpr next, (), rfl, (), ?_, rfl⟩
    cases previous with
    | none => simp
    | some last => simpa using onward last rfl

/-- What the reader keeps of markers and gaps as it goes. Samples are sorted at the end. -/
structure SampleSet.Growing (set : SampleSet) : Prop where
  phases : set.phases.Pairwise (fun earlier later => earlier.elapsedMs ≤ later.elapsedMs)
  gaps : ∀ sample ∈ set.samples, sample.isGap = true →
    sample = .gap sample.elapsedMs sample.finalSample sample.scrapeDurationMs

namespace SampleSet

variable {set : SampleSet}

/-- A loss leaves the samples. -/
@[simp] theorem lose_samples (set : SampleSet) (error : String) :
    (set.lose error).samples = set.samples := by
  unfold lose retainError
  split <;> rfl

/-- A loss leaves the markers. -/
@[simp] theorem lose_phases (set : SampleSet) (error : String) :
    (set.lose error).phases = set.phases := by
  unfold lose retainError
  split <;> rfl

/-- A loss counts as one, whether its error is kept or not. -/
@[simp] theorem lose_unavailable (set : SampleSet) (error : String) :
    (set.lose error).unavailable = set.unavailable + 1 := by
  unfold lose retainError
  split <;> rfl

/-- The bounds of a set survive a loss. -/
theorem Growing.lose (growing : set.Growing) (error : String) : (set.lose error).Growing :=
  ⟨by simpa using growing.phases, by simpa using growing.gaps⟩

/-- A sample is a measurement, or a gap that holds none. -/
theorem Growing.push (growing : set.Growing) {sample : Option TelemetrySample}
    (bare : ∀ pushed ∈ sample, pushed.isGap = true →
      pushed = .gap pushed.elapsedMs pushed.finalSample pushed.scrapeDurationMs) :
    (set.push sample).Growing := by
  refine ⟨growing.phases, fun other member => ?_⟩
  rcases List.mem_append.mp member with before | new
  · exact growing.gaps other before
  · exact bare other (Option.mem_toList.mp new)

/-- A gap has a time and no measurement. -/
theorem gapFromValue_bare {value : Value} {gap : TelemetrySample}
    (found : gap ∈ TelemetrySample.gapFromValue value) :
    gap = .gap gap.elapsedMs gap.finalSample gap.scrapeDurationMs := by
  simp only [TelemetrySample.gapFromValue, Option.mem_def, Option.bind_eq_bind,
    Option.bind_eq_some_iff] at found
  obtain ⟨elapsedMs, _, returned⟩ := found
  obtain rfl := Option.some.inj returned
  rfl

/-- A decoded sample is no gap, and has the time it was decoded at. -/
theorem fromCurrent_isGap {elapsedMs scrapeDurationMs : UInt64} {finalSample : Option Bool}
    {measurement : Measurement} {sample : TelemetrySample}
    (decoded : TelemetrySample.fromCurrent elapsedMs scrapeDurationMs finalSample measurement =
      some sample) : sample.elapsedMs = elapsedMs ∧ sample.finalSample = finalSample ∧
        sample.isGap = false := by
  simp only [TelemetrySample.fromCurrent, Option.bind_eq_bind, Option.bind_eq_some_iff] at decoded
  obtain ⟨_, _, returned⟩ := decoded
  obtain rfl := Option.some.inj returned
  exact ⟨rfl, rfl, rfl⟩

/-- Neither is one decoded field by field. -/
theorem fromValue_isGap {value : Value} {sample : TelemetrySample}
    (decoded : TelemetrySample.fromValue value = some sample) : sample.isGap = false := by
  simp only [TelemetrySample.fromValue, Option.bind_eq_bind, Option.bind_eq_some_iff] at decoded
  obtain ⟨_, _, _, _, returned⟩ := decoded
  rw [← Option.some.inj (Option.ite_none_right_eq_some.mp returned).2]

/-- What one line can do to the set: a measurement, an accepted marker, or a loss
that may leave a gap. -/
inductive LineStep (set : SampleSet) : SampleSet → Prop where
  | measured (sample : TelemetrySample) (whole : sample.isGap = false) :
      LineStep set (set.push (some sample))
  | marked (elapsedMs : UInt64) (phase : ScenarioPhase) (marker : PhaseMarker)
      (accepted : PhaseMarker.new elapsedMs phase set.phases.getLast? = .ok marker) :
      LineStep set { set with phases := set.phases ++ [marker] }
  | lost (error : String) (gap : Option TelemetrySample)
      (bare : ∀ sample ∈ gap, sample = .gap sample.elapsedMs sample.finalSample
        sample.scrapeDurationMs) :
      LineStep set ((set.lose error).push gap)

/-- A loss that leaves no gap. -/
theorem LineStep.only_lost (set : SampleSet) (error : String) : LineStep set (set.lose error) := by
  have step := @LineStep.lost set error none (by simp)
  rwa [push, Option.toList_none, List.append_nil] at step

/-- A scrape is a step: a sample, or a gap and a loss. -/
theorem take_step (set : SampleSet) (record : TelemetryRecord) (finalSample : Option Bool)
    {gap : Option TelemetrySample} (bare : ∀ sample ∈ gap, sample = .gap sample.elapsedMs
      sample.finalSample sample.scrapeDurationMs) :
    LineStep set (set.take record finalSample gap) := by
  unfold SampleSet.take
  cases record.outcome with
  | sample measurement =>
    dsimp only
    split
    · next sample decoded => exact .measured sample (fromCurrent_isGap decoded).2.2
    · exact .lost _ gap bare
  | error message => exact .lost message gap bare
  | phase phase =>
    dsimp only
    split
    · next marker accepted => exact .marked _ phase marker accepted
    · exact .only_lost set _

/-- A step keeps what the reader keeps. -/
theorem LineStep.growing {set next : SampleSet} (step : LineStep set next)
    (growing : set.Growing) : next.Growing := by
  cases step with
  | measured sample whole =>
    refine growing.push (fun pushed same gapped => ?_)
    obtain rfl := Option.some.inj same
    rw [whole] at gapped
    cases gapped
  | marked elapsedMs phase marker accepted =>
    obtain ⟨_, onward, rfl⟩ := PhaseMarker.new_eq_ok.mp accepted
    refine ⟨?_, growing.gaps⟩
    rw [← List.isChain_iff_pairwise, List.isChain_append]
    refine ⟨List.isChain_iff_pairwise.mpr growing.phases, List.isChain_singleton _, ?_⟩
    intro last lastLocated first firstLocated
    obtain rfl := Option.some.inj firstLocated
    exact onward last lastLocated
  | lost error gap bare => exact (growing.lose error).push (fun pushed same _ => bare pushed same)

end SampleSet

/-- Every line takes one step. -/
theorem parseLine_step (serde : Serde) (state : ParseState) (line : Text) :
    SampleSet.LineStep state.set (parseLine serde state line).set := by
  unfold parseLine
  split
  · exact .only_lost _ _
  split
  · exact .only_lost _ _
  · next value decoded =>
    split
    · dsimp only
      unfold SampleSet.parseLegacyRecord
      split
      · next sample usable => exact .measured sample (SampleSet.fromValue_isGap usable)
      · exact .lost _ _ (fun _ found => SampleSet.gapFromValue_bare found)
    · dsimp only
      unfold SampleSet.parseCurrentRecord
      dsimp only
      split
      · exact .lost _ _ (fun _ found => SampleSet.gapFromValue_bare found)
      · exact SampleSet.take_step _ _ _ (fun _ found => SampleSet.gapFromValue_bare found)

/-- The check at the end keeps the bounds. -/
theorem checkPhases_growing {state : ParseState} (growing : state.set.Growing) :
    state.checkPhases.Growing := by
  unfold ParseState.checkPhases
  split
  · exact growing.lose _
  · exact growing

/-- The order samples are sorted in has no cycles. -/
theorem elapsed_trans (first second third : TelemetrySample)
    (before : decide (first.elapsedMs ≤ second.elapsedMs) = true)
    (after : decide (second.elapsedMs ≤ third.elapsedMs) = true) :
    decide (first.elapsedMs ≤ third.elapsedMs) = true := by
  simp only [decide_eq_true_eq] at before after ⊢
  exact UInt64.le_trans before after

/-- Any two samples can be sorted by time. -/
theorem elapsed_total (first second : TelemetrySample) :
    (decide (first.elapsedMs ≤ second.elapsedMs) ||
      decide (second.elapsedMs ≤ first.elapsedMs)) = true := by
  simpa using UInt64.le_total first.elapsedMs second.elapsedMs

/-- Whatever the text is, what is read from it is in order. -/
theorem parseSamples_ordered (serde : Serde) (payload : Text) :
    (parseSamples serde payload).Ordered := by
  have growing : ∀ (lines : List Text) (state : ParseState), state.set.Growing →
      (lines.foldl (parseLine serde) state).set.Growing := by
    intro lines
    induction lines with
    | nil => exact fun _ growing => growing
    | cons line rest inductionHypothesis =>
      exact fun state growing =>
        inductionHypothesis _ ((parseLine_step serde state line).growing growing)
  have read := growing (((lines payload).map trim).filter (fun line => !line.isEmpty)) .initial
    ⟨List.Pairwise.nil, fun _ member => by cases member⟩
  have checked : (parseLines serde payload).checkPhases.Growing := checkPhases_growing read
  refine ⟨?_, checked.phases, fun sample member => ?_⟩
  · exact (List.pairwise_mergeSort elapsed_trans elapsed_total _).imp of_decide_eq_true
  · exact checked.gaps sample (List.mem_mergeSort.mp member)

end SfuLoad.Report
