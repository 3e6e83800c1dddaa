import SfuLoad.Telemetry.Sampler

/-!
# The sampler's journal

What holds of the records written so far at any moment: scrapes stand in time
order, phases stand in their own order, and the times of marks, those written and
those still on their way, never go back. Phases and scrapes need not be in order
with each other, since a mark takes its time before it is received.
-/

namespace SfuLoad.Telemetry

open Model

/-- The records of scrapes, successful or not. -/
def scrapes (records : List TelemetryRecord) : List TelemetryRecord :=
  records.filter (fun record => !record.outcome.isPhase)

/-- The phase a record marks. -/
def TelemetryRecord.marked (self : TelemetryRecord) : Option ScenarioPhase :=
  match self.outcome with
  | .phase reached => some reached
  | _ => none

/-- The records of phases. -/
def phaseRecords (records : List TelemetryRecord) : List TelemetryRecord :=
  records.filter (fun record => record.outcome.isPhase)

/-- A further record is a further scrape unless it marks a phase. -/
theorem scrapes_append (records : List TelemetryRecord) (last : TelemetryRecord) :
    scrapes (records ++ [last]) =
      scrapes records ++ if last.outcome.isPhase then [] else [last] := by
  rw [scrapes, List.filter_append, ← scrapes]
  cases kind : last.outcome.isPhase <;> simp [kind]

/-- A further record is a further phase if it marks one. -/
theorem phaseRecords_append (records : List TelemetryRecord) (last : TelemetryRecord) :
    phaseRecords (records ++ [last]) =
      phaseRecords records ++ if last.outcome.isPhase then [last] else [] := by
  rw [phaseRecords, List.filter_append, ← phaseRecords]
  cases kind : last.outcome.isPhase <;> simp [kind]

/-- What holds of the records at a time, with marks still pending. -/
structure Journal (time : UInt64) (sampler : SamplerState) (pending : List UInt64) : Prop where
  order : sampler.output.filterMap TelemetryRecord.marked =
    ScenarioPhase.ordered.take sampler.phases.count
  markTimes : ((phaseRecords sampler.output).map TelemetryRecord.elapsedMs ++ pending).Pairwise
    (· ≤ ·)
  scrapeTimes : (scrapes sampler.output).Pairwise
    (fun earlier later => earlier.elapsedMs ≤ later.elapsedMs)
  past : ∀ record ∈ sampler.output, record.elapsedMs ≤ time
  pendingPast : ∀ markMs ∈ pending, markMs ≤ time
  samples : sampler.sampleCount =
    sampler.output.countP (fun record => record.outcome.isSample)
  errors : sampler.errorCount =
    sampler.output.countP (fun record => record.outcome.isError)

namespace Journal

variable {time : UInt64} {sampler : SamplerState} {pending : List UInt64}

/-- A sampler that has recorded nothing. -/
theorem empty (time : UInt64) (serverPid rtcPid : UInt32) (clockTicksPerSecond : UInt64)
    (startedAt : Nat) :
    Journal time (.started serverPid rtcPid clockTicksPerSecond startedAt) [] where
  order := rfl
  markTimes := List.Pairwise.nil
  scrapeTimes := List.Pairwise.nil
  past := by simp [SamplerState.started]
  pendingPast := by simp
  samples := rfl
  errors := rfl

/-- What is written stays in order while time passes. -/
theorem later (journal : Journal time sampler pending) {after : UInt64} (passed : time ≤ after) :
    Journal after sampler pending :=
  { journal with
    past := fun record member => UInt64.le_trans (journal.past record member) passed
    pendingPast := fun markMs member => UInt64.le_trans (journal.pendingPast markMs member) passed }

/-- A new mark takes the present time, after all the others. -/
theorem pend (journal : Journal time sampler pending) :
    Journal time sampler (pending ++ [time]) :=
  { journal with
    markTimes := by
      rw [← List.append_assoc, List.pairwise_append]
      refine ⟨journal.markTimes, List.pairwise_singleton _ _, fun markMs member now last => ?_⟩
      rw [List.mem_singleton.mp last]
      rcases List.mem_append.mp member with written | waiting
      · obtain ⟨record, inside, rfl⟩ := List.mem_map.mp written
        exact journal.past record (List.mem_of_mem_filter inside)
      · exact journal.pendingPast markMs waiting
    pendingPast := fun markMs member => by
      rcases List.mem_append.mp member with before | now
      · exact journal.pendingPast markMs before
      · rw [List.mem_singleton.mp now]
        exact UInt64.le_refl _ }

/-- Marks may be given up. -/
theorem forget (journal : Journal time sampler pending) {fewer : List UInt64}
    (sub : fewer.Sublist pending) : Journal time sampler fewer :=
  { journal with
    markTimes := journal.markTimes.sublist ((List.Sublist.refl _).append sub)
    pendingPast := fun markMs member => journal.pendingPast markMs (sub.subset member) }

/-- The first pending mark is written down as the next phase. -/
theorem mark {markMs : UInt64} (journal : Journal time sampler (markMs :: pending))
    {phase : ScenarioPhase} {io : Except String Unit} {after : SamplerState}
    (recorded : sampler.recordPhase phase markMs io = .ok after) : Journal time after pending := by
  obtain ⟨counted, rfl⟩ := SamplerState.recordPhase_eq_ok recorded
  constructor
  · rw [List.filterMap_append, journal.order, List.take_add_one]
    congr 1
    rw [(ScenarioPhase.ordered_getElem?_eq_some phase _).mpr counted]
    rfl
  · rw [phaseRecords_append, List.map_append, List.append_assoc]
    exact journal.markTimes
  · rw [scrapes_append]
    exact (List.append_nil _).symm ▸ journal.scrapeTimes
  · intro record member
    rcases List.mem_append.mp member with before | new
    · exact journal.past record before
    · rw [List.mem_singleton.mp new]
      exact journal.pendingPast markMs List.mem_cons_self
  · exact fun other member => journal.pendingPast other (List.mem_cons_of_mem _ member)
  · rw [List.countP_append]
    exact journal.samples
  · rw [List.countP_append]
    exact journal.errors

/-- A scrape that began after the others is written down. -/
theorem scrape (journal : Journal time sampler pending) {finalSample : Bool}
    {elapsedMs durationMs : UInt64} {answers : Scrape} {io : Except String Unit}
    {after : SamplerState}
    (recorded : sampler.record finalSample elapsedMs durationMs answers io = .ok after)
    (begun : elapsedMs ≤ time)
    (latest : ∀ record ∈ scrapes sampler.output, record.elapsedMs ≤ elapsedMs) :
    Journal time after pending := by
  obtain ⟨outcome, output, _, phases, counted⟩ := SamplerState.record_eq_ok recorded
  have noPhase : outcome.isPhase = false :=
    TelemetryOutcome.isPhase_eq_false (counted.imp And.left And.left)
  have noMark : TelemetryRecord.marked
      ⟨telemetrySchemaVersion, elapsedMs, durationMs, finalSample, outcome⟩ = none := by
    cases outcome <;> simp_all [TelemetryRecord.marked, TelemetryOutcome.isPhase]
  constructor
  · rw [output, phases, List.filterMap_append, journal.order]
    simp [noMark]
  · rw [output, phaseRecords_append]
    simpa [noPhase] using journal.markTimes
  · rw [output, scrapes_append, if_neg (by simp [noPhase]), List.pairwise_append]
    refine ⟨journal.scrapeTimes, List.pairwise_singleton _ _, fun record member new last => ?_⟩
    rw [List.mem_singleton.mp last]
    exact latest record member
  · intro record member
    rw [output] at member
    rcases List.mem_append.mp member with before | new
    · exact journal.past record before
    · rw [List.mem_singleton.mp new]
      exact begun
  · exact journal.pendingPast
  · rw [output, List.countP_append]
    rcases counted with ⟨kind, samples, _⟩ | ⟨kind, samples, _⟩
    · rw [samples, journal.samples]
      simp [kind]
    · have other : outcome.isSample = false := by
        cases outcome <;> simp_all [TelemetryOutcome.isSample, TelemetryOutcome.isError]
      rw [samples, journal.samples]
      simp [other]
  · rw [output, List.countP_append]
    rcases counted with ⟨kind, _, errors⟩ | ⟨kind, _, errors⟩
    · have other : outcome.isError = false := by
        cases outcome <;> simp_all [TelemetryOutcome.isSample, TelemetryOutcome.isError]
      rw [errors, journal.errors]
      simp [other]
    · rw [errors, journal.errors]
      simp [kind]

end Journal

end SfuLoad.Telemetry
