import SfuLoad.Report.Parse
import SfuLoad.Telemetry.Run
import Mathlib.Data.List.Induction

/-!
# The reader follows the sampler

A file the sampler wrote is read record by record. Its phase records come in the
sampler's own order, which is the order the reader asks for; its scrapes come in
time order, so sorting them changes nothing. The two may be out of order with each
other, and the reader never compares them.
-/

namespace SfuLoad.Report

open Kit.Fallible Kit.Json Kit.Lines Kit.Runs Model Telemetry

/-- A record is written on one line, which decodes to the record. -/
structure Serde.Faithful (serde : Serde) (record : TelemetryRecord) : Prop where
  line : Braced (serde.toWriter record)
  value : serde.fromStr (serde.toWriter record) = .ok record.toValue
  decoded : serde.fromValue record.toValue = .ok record

/-- The text of a file of records. -/
def Serde.file (serde : Serde) (records : List TelemetryRecord) : Text :=
  records.flatMap (fun record => serde.toWriter record ++ ['\n'])

/-- The marker a phase record makes. -/
def marker (record : TelemetryRecord) : Option PhaseMarker :=
  record.marked.map (fun phase => ⟨record.elapsedMs, phase⟩)

/-- The sample a scrape's record makes, a gap if the scrape failed. -/
def decodedSample (record : TelemetryRecord) : Option TelemetrySample :=
  match record.outcome with
  | .sample measurement =>
    TelemetrySample.fromCurrent record.elapsedMs record.scrapeDurationMs
      (some record.finalSample) measurement
  | .error _ =>
    some (.gap record.elapsedMs (some record.finalSample) (some record.scrapeDurationMs))
  | .phase _ => none

/-- Workers the reader accepts: not too many, with small and distinct numbers. -/
structure FewWorkers (workers : List WorkerPressureSample) : Prop where
  few : workers.length ≤ maxTelemetryWorkers
  small : ∀ worker ∈ workers, worker.mediaWorkerId.toNat < maxTelemetryWorkers
  distinct : (workers.map WorkerPressureSample.mediaWorkerId).Nodup

/-- Whether a record has few enough workers can be computed. -/
instance (workers : List WorkerPressureSample) : Decidable (FewWorkers workers) :=
  decidable_of_iff
    (workers.length ≤ maxTelemetryWorkers ∧
      (∀ worker ∈ workers, worker.mediaWorkerId.toNat < maxTelemetryWorkers) ∧
      (workers.map WorkerPressureSample.mediaWorkerId).Nodup)
    ⟨fun ⟨few, small, distinct⟩ => ⟨few, small, distinct⟩,
      fun few => ⟨few.few, few.small, few.distinct⟩⟩

/-- A file the reader can follow: it is short enough, every record decodes to
itself, workers are acceptable, and phases are in order, also in time. -/
structure Readable (serde : Serde) (records : List TelemetryRecord) : Prop where
  few : records.length ≤ maxTelemetrySamples
  faithful : ∀ record ∈ records, serde.Faithful record
  workers : ∀ record ∈ records, FewWorkers record.outcome.workers
  order : (records.filterMap marker).map PhaseMarker.phase <+: ScenarioPhase.ordered
  times : (records.filterMap marker).Pairwise
    (fun earlier later => earlier.elapsedMs ≤ later.elapsedMs)

/-- What the reader knows after reading these records. -/
structure Replayed (records : List TelemetryRecord) (state : ParseState) : Prop where
  count : state.records = records.length
  samples : List.Forall₂ (fun record sample => decodedSample record = some sample)
    (scrapes records) state.set.samples
  phases : state.set.phases = records.filterMap marker
  unavailable : state.set.unavailable =
    records.countP (fun record => record.outcome.isError)

/-- What is readable stays so without its last record. -/
theorem Readable.of_append {serde : Serde} {records : List TelemetryRecord}
    {last : TelemetryRecord} (readable : Readable serde (records ++ [last])) :
    Readable serde records where
  few := by
    have few := readable.few
    rw [List.length_append] at few
    omega
  faithful := fun record member => readable.faithful record (List.mem_append_left _ member)
  workers := fun record member => readable.workers record (List.mem_append_left _ member)
  order := by
    have order := readable.order
    rw [List.filterMap_append, List.map_append] at order
    exact (List.prefix_append _ _).trans order
  times := by
    have times := readable.times
    rw [List.filterMap_append] at times
    exact (List.pairwise_append.mp times).1

/-- The next marker of an ordered list is accepted. -/
theorem new_of_ordered {before : List PhaseMarker} {next : PhaseMarker}
    (order : (before ++ [next]).map PhaseMarker.phase <+: ScenarioPhase.ordered)
    (times : (before ++ [next]).Pairwise
      (fun earlier later => earlier.elapsedMs ≤ later.elapsedMs)) :
    PhaseMarker.new next.elapsedMs next.phase before.getLast? = .ok next := by
  have located : ∀ index (marker : PhaseMarker), (before ++ [next])[index]? = some marker →
      index = marker.phase.ordinal := by
    intro index marker here
    apply (ScenarioPhase.ordered_getElem?_eq_some marker.phase index).mp
    obtain ⟨rest, whole⟩ := order
    have inside := (List.getElem?_eq_some_iff.mp here).1
    rw [← whole, List.getElem?_append_left (by simpa using inside), List.getElem?_map, here]
    rfl
  have nextOrdinal := located before.length next (by simp)
  rw [PhaseMarker.new_eq_ok]
  refine ⟨?_, fun last lastLocated => ?_, rfl⟩
  · cases ended : before.getLast? with
    | none => simpa [List.getLast?_eq_none_iff.mp ended] using nextOrdinal
    | some last =>
      obtain ⟨earlier, rfl⟩ := List.getLast?_eq_some_iff.mp ended
      have lastOrdinal := located earlier.length last (by simp)
      rw [← nextOrdinal, Option.elim_some, ← lastOrdinal, List.length_append]
      rfl
  · exact (List.pairwise_append.mp times).2.2 last (List.mem_of_getLast? lastLocated) next
      (List.mem_singleton_self next)

/-- Acceptable workers are accepted. -/
theorem fromCurrent_of_few (elapsedMs scrapeDurationMs : UInt64) (finalSample : Option Bool)
    {measurement : Measurement} (workers : FewWorkers measurement.workers) :
    ∃ sample, TelemetrySample.fromCurrent elapsedMs scrapeDurationMs finalSample measurement =
      some sample := by
  have accepted : WorkerTelemetry.fromCurrent measurement.workers =
      some (measurement.workers.map WorkerTelemetry.fromSample) := by
    have ids : (measurement.workers.map WorkerTelemetry.fromSample).map
        WorkerTelemetry.mediaWorkerId =
        measurement.workers.map WorkerPressureSample.mediaWorkerId := by
      rw [List.map_map]
      rfl
    have valid : WorkerTelemetry.valid (measurement.workers.map WorkerTelemetry.fromSample) := by
      simp only [WorkerTelemetry.valid, ids, workers.distinct.dedup, List.length_map,
        beq_self_eq_true, Bool.and_true, List.all_map, List.all_eq_true]
      exact fun worker member => decide_eq_true (workers.small worker member)
    rw [WorkerTelemetry.fromCurrent, if_neg (Nat.not_lt.mpr workers.few)]
    exact if_pos valid
  simp [TelemetrySample.fromCurrent, accepted]

/-- The gap a reader would leave for a record. -/
def gapOf (record : TelemetryRecord) : TelemetrySample :=
  .gap record.elapsedMs (some record.finalSample) (some record.scrapeDurationMs)

/-- A record that cannot be used leaves its gap, whatever else it holds. -/
theorem gapFromValue_toValue (record : TelemetryRecord) :
    TelemetrySample.gapFromValue record.toValue = some (gapOf record) := by
  simp [TelemetrySample.gapFromValue, Value.getU64, Value.getBool, gapOf]

/-- A faithful line is taken as the record it was written for. -/
theorem parseLine_of_written {serde : Serde} {record : TelemetryRecord}
    (faithful : serde.Faithful record) {state : ParseState}
    (room : state.records < maxTelemetrySamples) :
    parseLine serde state (serde.toWriter record) =
      ⟨state.set.take record (some record.finalSample) (some (gapOf record)), state.records + 1,
        state.phasesRequired || decide (telemetrySchemaVersion ≤ record.schemaVersion)⟩ := by
  have finalSample : record.toValue.getBool "finalSample" = some record.finalSample := by
    simp [Value.getBool]
  simp [parseLine, Nat.not_le.mpr room, faithful.value, SampleSet.parseCurrentRecord,
    faithful.decoded, gapFromValue_toValue, finalSample]

/-- A record of a readable file adds its sample, its marker or its error. -/
theorem take_of_readable {serde : Serde} {records : List TelemetryRecord} {last : TelemetryRecord}
    {set : SampleSet} (readable : Readable serde (records ++ [last]))
    (phases : set.phases = records.filterMap marker) :
    let taken := set.take last (some last.finalSample) (some (gapOf last))
    taken.samples = set.samples ++ (decodedSample last).toList ∧
    taken.phases = set.phases ++ (marker last).toList ∧
    taken.unavailable = set.unavailable + (if last.outcome.isError then 1 else 0) ∧
    (decodedSample last).isNone = last.outcome.isPhase := by
  cases outcome : last.outcome with
  | sample measurement =>
    have workers := readable.workers last (by simp)
    rw [outcome] at workers
    obtain ⟨sample, decoded⟩ := fromCurrent_of_few last.elapsedMs last.scrapeDurationMs
      (some last.finalSample) workers
    simp [SampleSet.take, outcome, decoded, SampleSet.push, decodedSample, marker,
      TelemetryRecord.marked, TelemetryOutcome.isError, TelemetryOutcome.isPhase]
  | error message =>
    simp [SampleSet.take, outcome, SampleSet.push, decodedSample, marker, gapOf,
      TelemetryRecord.marked, TelemetryOutcome.isError, TelemetryOutcome.isPhase]
  | phase phase =>
    have marks : (records ++ [last]).filterMap marker =
        set.phases ++ [⟨last.elapsedMs, phase⟩] := by
      simp [marker, TelemetryRecord.marked, outcome, phases]
    have accepted := new_of_ordered (marks ▸ readable.order) (marks ▸ readable.times)
    simp [SampleSet.take, outcome, accepted, decodedSample, marker, TelemetryRecord.marked,
      TelemetryOutcome.isError, TelemetryOutcome.isPhase]

/-- One line of a readable file. -/
theorem replayed_append {serde : Serde} {records : List TelemetryRecord} {last : TelemetryRecord}
    {state : ParseState} (readable : Readable serde (records ++ [last]))
    (replayed : Replayed records state) :
    Replayed (records ++ [last]) (parseLine serde state (serde.toWriter last)) := by
  have room : state.records < maxTelemetrySamples := by
    have few := readable.few
    rw [List.length_append, List.length_singleton] at few
    rw [replayed.count]
    omega
  rw [parseLine_of_written (readable.faithful last (by simp)) room]
  obtain ⟨samples, phases, unavailable, kind⟩ := take_of_readable readable replayed.phases
  constructor
  case count => simp [replayed.count]
  case samples =>
    rw [samples, scrapes_append]
    refine List.rel_append replayed.samples ?_
    cases decoded : decodedSample last with
    | none => simp [← kind, decoded]
    | some sample => simp [← kind, decoded]
  case phases =>
    rw [phases, replayed.phases, List.filterMap_append]
    cases located : marker last <;> simp [located]
  case unavailable =>
    rw [unavailable, replayed.unavailable, List.countP_append]
    simp [List.countP_cons]

/-- What the reader knows at the end of a readable file. -/
theorem replayed_of_readable {serde : Serde} (records : List TelemetryRecord)
    (readable : Readable serde records) :
    Replayed records ((records.map serde.toWriter).foldl (parseLine serde) .initial) := by
  induction records using List.reverseRecOn with
  | nil => exact ⟨rfl, .nil, rfl, rfl⟩
  | append_singleton records last inductionHypothesis =>
    rw [List.map_append, List.foldl_append]
    exact replayed_append readable (inductionHypothesis readable.of_append)

/-- The lines of a written file are the records as they were written. -/
theorem lines_of_file {serde : Serde} (records : List TelemetryRecord)
    (faithful : ∀ record ∈ records, serde.Faithful record) :
    ((lines (serde.file records)).map trim).filter (fun line => !line.isEmpty) =
      records.map serde.toWriter := by
  have braced : ∀ line ∈ records.map serde.toWriter, Braced line := by
    intro line member
    obtain ⟨record, inside, rfl⟩ := List.mem_map.mp member
    exact (faithful record inside).line
  have read := lines_of_written (records.map serde.toWriter) braced
  rw [List.flatMap_map] at read
  rw [Serde.file, read, List.map_congr_left (fun line member => (braced line member).trim),
    List.map_id', List.filter_eq_self]
  intro line member
  obtain ⟨inner, rfl⟩ := (braced line member).braces
  rfl

/-- The markers that are read tell the phases that were marked. -/
theorem marker_phases (records : List TelemetryRecord) :
    (records.filterMap marker).map PhaseMarker.phase =
      records.filterMap TelemetryRecord.marked := by
  rw [List.map_filterMap]
  congr 1
  funext record
  cases marked : record.marked <;> simp [marker, marked]

/-- They stand at the times of their records. -/
theorem marker_times (records : List TelemetryRecord) :
    (records.filterMap marker).map PhaseMarker.elapsedMs =
      (phaseRecords records).map TelemetryRecord.elapsedMs := by
  induction records with
  | nil => rfl
  | cons record rest inductionHypothesis =>
    cases outcome : record.outcome <;>
      simpa [phaseRecords, marker, TelemetryRecord.marked, outcome, TelemetryOutcome.isPhase]
        using inductionHypothesis

/-- What the report tells of a scrape without looking at what it measured. -/
theorem decodedSample_eq_some {record : TelemetryRecord} {sample : TelemetrySample}
    (decoded : decodedSample record = some sample) :
    (sample.elapsedMs, sample.finalSample, sample.isGap) =
      (record.elapsedMs, some record.finalSample, record.outcome.isError) := by
  unfold decodedSample at decoded
  cases outcome : record.outcome with
  | sample measurement =>
    rw [outcome] at decoded
    obtain ⟨elapsedMs, finalSample, isGap⟩ := SampleSet.fromCurrent_isGap decoded
    rw [elapsedMs, finalSample, isGap]
    rfl
  | error message =>
    rw [outcome] at decoded
    rw [← Option.some.inj decoded]
    rfl
  | phase phase =>
    rw [outcome] at decoded
    cases decoded

/-- The endpoints are those of a first scrape and a last one, both successful. -/
theorem wholeWindowEndpoints_isSome {samples : List TelemetrySample}
    {initial final : TelemetrySample} (first : samples.head? = some initial)
    (last : samples.getLast? = some final) :
    (wholeWindowEndpoints samples).isSome = true ↔
      initial.isGap = false ∧ initial.finalSample = some false ∧ final.isGap = false ∧
      final.finalSample = some true ∧ initial.elapsedMs < final.elapsedMs := by
  simp only [wholeWindowEndpoints, first, last, Option.bind_eq_bind, Option.bind_some]
  split_ifs with whole <;> simp_all [and_assoc]

/-- What was read agrees with what was written and with the sampler's summary. -/
structure Agrees (written : List TelemetryRecord) (summary : Telemetry.TelemetrySummary)
    (read : SampleSet) : Prop where
  phases : read.phases.map PhaseMarker.phase = ScenarioPhase.ordered
  phaseTimes : read.phases.Pairwise (fun earlier later => earlier.elapsedMs ≤ later.elapsedMs)
  sampleCount : read.samples.countP (fun sample => !sample.isGap) = summary.sampleCount
  unavailable : read.unavailable = summary.errorCount
  samples : List.Forall₂ (fun record sample => decodedSample record = some sample)
    (scrapes written) read.samples
  endpoints : ∃ first last, written.head? = some first ∧ written.getLast? = some last ∧
    first.outcome.isPhase = false ∧ first.finalSample = false ∧
    last.outcome.isPhase = false ∧ last.finalSample = true ∧
    ((wholeWindowEndpoints read.samples).isSome = true ↔
      first.outcome.isSample = true ∧ last.outcome.isSample = true ∧
      first.elapsedMs < last.elapsedMs)

/-- Scrapes were written in time order, so their samples are already sorted. -/
theorem samples_sorted {written : List TelemetryRecord} {samples : List TelemetrySample}
    (decoded : List.Forall₂ (fun record sample => decodedSample record = some sample)
      (scrapes written) samples)
    (times : (scrapes written).Pairwise
      (fun earlier later => earlier.elapsedMs ≤ later.elapsedMs)) :
    samples.mergeSort (fun earlier later => earlier.elapsedMs ≤ later.elapsedMs) = samples := by
  apply List.mergeSort_of_pairwise
  have same : samples.map TelemetrySample.elapsedMs =
      (scrapes written).map TelemetryRecord.elapsedMs :=
    map_eq_of_forall₂ _ _ decoded (fun record _ sample found =>
      congrArg Prod.fst (decodedSample_eq_some found))
  have sorted : (samples.map TelemetrySample.elapsedMs).Pairwise (· ≤ ·) := by
    rw [same]
    exact List.pairwise_map.mpr times
  exact (List.pairwise_map.mp sorted).imp decide_eq_true

/-- The samples that hold measurements are the successful scrapes. -/
theorem countP_samples {written : List TelemetryRecord} {samples : List TelemetrySample}
    (decoded : List.Forall₂ (fun record sample => decodedSample record = some sample)
      (scrapes written) samples) :
    samples.countP (fun sample => !sample.isGap) =
      written.countP (fun record => record.outcome.isSample) := by
  have same : samples.map (fun sample => !sample.isGap) =
      (scrapes written).map (fun record => !record.outcome.isError) :=
    map_eq_of_forall₂ _ _ decoded (fun record _ sample found =>
      congrArg (fun key => !key.2.2) (decodedSample_eq_some found))
  have counted := congrArg (List.countP id) same
  rw [List.countP_map, List.countP_map, scrapes, List.countP_filter] at counted
  refine counted.trans (List.countP_congr (fun record _ => ?_))
  cases outcome : record.outcome <;>
    simp [outcome, TelemetryOutcome.isSample, TelemetryOutcome.isError, TelemetryOutcome.isPhase]

/-- A complete file opens and closes with a scrape, and only the last is final. -/
theorem ends_of_complete {written : List TelemetryRecord} (complete : System.Complete written) :
    ∃ first last, written.head? = some first ∧ written.getLast? = some last ∧
      first.outcome.isPhase = false ∧ first.finalSample = false ∧
      last.outcome.isPhase = false ∧ last.finalSample = true := by
  obtain ⟨first, opening, firstKind⟩ := complete.first
  obtain ⟨last, ending, lastKind, finalSample⟩ := complete.last
  refine ⟨first, last, opening, ending, firstKind, ?_, lastKind, finalSample⟩
  apply complete.before
  have several := complete.several
  cases written with
  | nil => cases opening
  | cons record rest =>
    obtain rfl := Option.some.inj opening
    cases rest with
    | nil => simp at several
    | cons second rest => simp

/-- A file that opens with a scrape opens with that sample. -/
theorem scrapes_head? {written : List TelemetryRecord} {first : TelemetryRecord}
    (opening : written.head? = some first) (kind : first.outcome.isPhase = false) :
    (scrapes written).head? = some first := by
  cases written with
  | nil => cases opening
  | cons record rest =>
    obtain rfl := Option.some.inj opening
    simp [scrapes, kind]

/-- A file that ends with a scrape ends with that sample. -/
theorem scrapes_getLast? {written : List TelemetryRecord} {last : TelemetryRecord}
    (ending : written.getLast? = some last) (kind : last.outcome.isPhase = false) :
    (scrapes written).getLast? = some last := by
  obtain ⟨before, rfl⟩ := List.getLast?_eq_some_iff.mp ending
  simp [scrapes_append, kind]

/-- What is no phase is a sample unless it is an error. -/
theorem isError_eq_false_iff {outcome : TelemetryOutcome} (kind : outcome.isPhase = false) :
    outcome.isError = false ↔ outcome.isSample = true := by
  cases outcome with
  | phase phase => cases kind
  | sample measurement => exact ⟨fun _ => rfl, fun _ => rfl⟩
  | error message => simp [TelemetryOutcome.isError, TelemetryOutcome.isSample]

/-- The endpoints of a complete file's samples come from its first and last record. -/
theorem endpoints_of_ends {written : List TelemetryRecord} {samples : List TelemetrySample}
    {first last : TelemetryRecord} (opening : written.head? = some first)
    (ending : written.getLast? = some last) (firstKind : first.outcome.isPhase = false)
    (notFinal : first.finalSample = false) (lastKind : last.outcome.isPhase = false)
    (finalSample : last.finalSample = true)
    (decoded : List.Forall₂ (fun record sample => decodedSample record = some sample)
      (scrapes written) samples) :
    (wholeWindowEndpoints samples).isSome = true ↔
      first.outcome.isSample = true ∧ last.outcome.isSample = true ∧
      first.elapsedMs < last.elapsedMs := by
  have same : samples.map (fun sample => (sample.elapsedMs, sample.finalSample, sample.isGap)) =
      (scrapes written).map (fun record =>
        (record.elapsedMs, some record.finalSample, record.outcome.isError)) :=
    map_eq_of_forall₂ _ _ decoded (fun record _ sample found => decodedSample_eq_some found)
  have heads := congrArg List.head? same
  have lasts := congrArg List.getLast? same
  rw [List.head?_map, List.head?_map, scrapes_head? opening firstKind, Option.map_some,
    Option.map_eq_some_iff] at heads
  rw [List.getLast?_map, List.getLast?_map, scrapes_getLast? ending lastKind, Option.map_some,
    Option.map_eq_some_iff] at lasts
  obtain ⟨initial, initialLocated, initialKey⟩ := heads
  obtain ⟨final, finalLocated, finalKey⟩ := lasts
  simp only [Prod.mk.injEq] at initialKey finalKey
  rw [wholeWindowEndpoints_isSome initialLocated finalLocated, initialKey.1, initialKey.2.1,
    initialKey.2.2, finalKey.1, finalKey.2.1, finalKey.2.2, notFinal, finalSample,
    isError_eq_false_iff firstKind, isError_eq_false_iff lastKind]
  exact ⟨fun ⟨sampled, _, last, _, onward⟩ => ⟨sampled, last, onward⟩,
    fun ⟨sampled, last, onward⟩ => ⟨sampled, rfl, last, rfl, onward⟩⟩

/-- The file of a run that returned a summary can be followed. -/
theorem readable_of_journal {serde : Serde} {time : UInt64} {sampler : SamplerState}
    {pending : List UInt64} (journal : Journal time sampler pending)
    (few : sampler.output.length ≤ maxTelemetrySamples)
    (workers : ∀ record ∈ sampler.output, FewWorkers record.outcome.workers)
    (faithful : ∀ record ∈ sampler.output, serde.Faithful record) :
    Readable serde sampler.output where
  few := few
  faithful := faithful
  workers := workers
  order := by
    rw [marker_phases, journal.order]
    exact List.take_prefix _ _
  times := by
    apply List.pairwise_map.mp
    rw [marker_times]
    exact (List.pairwise_append.mp journal.markTimes).1

/-- Four phases in order pass the last check. -/
theorem checkPhases_of_phases {state : ParseState} {markers : List PhaseMarker}
    (read : state.set.phases = markers)
    (phases : markers.map PhaseMarker.phase = ScenarioPhase.ordered) :
    state.checkPhases = state.set := by
  have counted : state.set.phases.length = ScenarioPhase.count := by
    rw [read, ← List.length_map (f := PhaseMarker.phase), phases]
    rfl
  simp [ParseState.checkPhases, counted]

/-- For every run of the sampler that returns a summary, the reader agrees with it.
Proof: the run's invariant makes its file readable, the reader follows a readable
file record by record, and neither the last check nor the sort changes anything. -/
theorem reader_agrees_with_sampler (serde : Serde) {serverPid rtcPid : UInt32}
    {clockTicksPerSecond : UInt64} {startedAt : Nat} {actions : List Action} {final : System}
    {summary : Telemetry.TelemetrySummary}
    (ran : run System.step (System.initial serverPid rtcPid clockTicksPerSecond startedAt)
      actions = some final)
    (returned : final.stage = .returned (.ok summary))
    (few : final.sampler.output.length ≤ maxTelemetrySamples)
    (workers : ∀ record ∈ final.sampler.output, FewWorkers record.outcome.workers)
    (faithful : ∀ record ∈ final.sampler.output, serde.Faithful record) :
    Agrees final.sampler.output summary
      (parseSamples serde (serde.file final.sampler.output)) := by
  have sound := System.run_sound ran
  obtain ⟨counted, rfl, complete⟩ := sound.complete summary returned
  have journal := sound.journal
  have replayed := replayed_of_readable _ (readable_of_journal journal few workers faithful)
  rw [← lines_of_file _ faithful] at replayed
  change Replayed _ (parseLines serde (serde.file final.sampler.output)) at replayed
  have phases : (final.sampler.output.filterMap marker).map PhaseMarker.phase =
      ScenarioPhase.ordered := by
    rw [marker_phases, journal.order, counted]
    rfl
  have kept := checkPhases_of_phases replayed.phases phases
  have sorted := samples_sorted replayed.samples journal.scrapeTimes
  obtain ⟨first, last, opening, ending, firstKind, notFinal, lastKind, finalSample⟩ :=
    ends_of_complete complete
  have read : parseSamples serde (serde.file final.sampler.output) =
      (parseLines serde (serde.file final.sampler.output)).set := by
    unfold parseSamples
    dsimp only
    rw [kept, sorted]
  rw [read]
  exact
    { phases := replayed.phases ▸ phases
      phaseTimes := by
        rw [replayed.phases]
        exact (readable_of_journal journal few workers faithful).times
      sampleCount := (countP_samples replayed.samples).trans journal.samples.symm
      unavailable := replayed.unavailable.trans journal.errors.symm
      samples := replayed.samples
      endpoints := ⟨first, last, opening, ending, firstKind, notFinal, lastKind, finalSample,
        endpoints_of_ends opening ending firstKind notFinal lastKind finalSample
          replayed.samples⟩ }

mutual

/-- A value's compact text, for strings without escapes. -/
def compact : Value → Text
  | .null => "null".toList
  | .bool true => "true".toList
  | .bool false => "false".toList
  | .number (.posInt value) => (toString value.toNat).toList
  | .number (.negInt value) => (toString value).toList
  | .number (.float _) => "0.0".toList
  | .string value => '"' :: value.toList ++ ['"']
  | .array values => '[' :: compactValues values ++ [']']
  | .object fields => '{' :: compactFields fields ++ ['}']

/-- The text of an array's items. -/
def compactValues : List Value → Text
  | [] => []
  | [value] => compact value
  | value :: rest => compact value ++ ',' :: compactValues rest

/-- The text of an object's fields. -/
def compactFields : List (String × Value) → Text
  | [] => []
  | [(name, value)] => '"' :: name.toList ++ ['"', ':'] ++ compact value
  | (name, value) :: rest =>
    '"' :: name.toList ++ ['"', ':'] ++ compact value ++ ',' :: compactFields rest

end

/-- Compact text, decoded where it is that of one of these records. -/
def compactSerde (records : List TelemetryRecord) : Serde where
  toWriter := fun record => compact record.toValue
  fromStr := fun line =>
    match records.find? (fun record => compact record.toValue = line) with
    | some record => .ok record.toValue
    | none => .error "expected value"
  fromValue := fun value =>
    match records.find? (fun record => compact record.toValue = compact value) with
    | some record => .ok record
    | none => .error "missing field"

/-- Records whose compact texts are lines of their own decode to themselves. -/
theorem compactSerde_faithful {records : List TelemetryRecord}
    (checked : ∀ record ∈ records,
      '\n' ∉ compact record.toValue ∧
      '{' :: (compact record.toValue).tail.dropLast ++ ['}'] = compact record.toValue ∧
      records.find? (fun other => compact other.toValue = compact record.toValue) =
        some record) : ∀ record ∈ records, (compactSerde records).Faithful record := by
  intro record member
  obtain ⟨whole, braces, found⟩ := checked record member
  refine ⟨⟨whole, _, braces.symm⟩, ?_, ?_⟩
  · simp only [compactSerde, found]
  · simp only [compactSerde, found]

/-- A scrape at which the server has used this many ticks. -/
def steadyScrape (cpuTicks : UInt64) : Scrape where
  server := .ok (some ⟨cpuTicks, 4096, 7⟩)
  rtc := .ok (some ⟨cpuTicks, 4096, 9⟩)
  traffic := .ok ⟨⟨1, 10⟩, ⟨2, 20⟩, ⟨2, 20⟩⟩
  workers := .ok [⟨0, 800, some 1, 0, 0, 3⟩]

/-- A run with a mark that is overtaken by a scrape, and a scrape that fails. -/
def shortRun : List Action :=
  let second := 1000000000
  [.start, .scraped (steadyScrape 10) (.ok ()),
   .advance 500000000, .mark .setup, .advance second, .tick, .send,
   .scraped { steadyScrape 20 with traffic := .error "connection refused" } (.ok ()),
   .receive (.ok ()),
   .mark .warmup, .send, .receive (.ok ()),
   .advance second, .mark .measured, .send, .receive (.ok ()),
   .advance second, .mark .drain, .send, .receive (.ok ()),
   .advance second, .finish, .receive (.ok ()), .scraped (steadyScrape 90) (.ok ())]

/-- Where that run ends. -/
def shortRunEnd : System :=
  (run System.step (System.initial 1 2 100 0) shortRun).get (by decide +kernel)

/-- The reader sees four phases, two samples and one lost scrape. -/
theorem overtaken_mark_is_read :
    Agrees shortRunEnd.sampler.output ⟨2, 1, ["connection refused"]⟩
      (parseSamples (compactSerde shortRunEnd.sampler.output)
        ((compactSerde shortRunEnd.sampler.output).file shortRunEnd.sampler.output)) := by
  have ran : run System.step (System.initial 1 2 100 0) shortRun = some shortRunEnd :=
    (Option.some_get _).symm
  exact reader_agrees_with_sampler _ ran (by decide +kernel) (by decide +kernel)
    (by decide +kernel) (compactSerde_faithful (by decide +kernel))

end SfuLoad.Report
