import SfuLoad.Kit.Averages
import SfuLoad.Report.Replay
import SfuLoad.Report.Summary
import Mathlib.Algebra.Order.Field.Rat
import Mathlib.Tactic.NormNum

/-!
# Reported processor use

The sampler floors each percentage over the time since a sample it remembers,
which neither a failed capture nor one at the same millisecond replaces. The
report gives each percentage the time since the previous successful sample. Both
choose the same intervals, so the reported average is the rate of the raw ticks
from the first sample to the last, less than two units off.
-/

namespace SfuLoad.Report

open Kit.Averages Kit.Fallible Kit.Lines Kit.Saturating Model Telemetry

/-- One record of a sampler: a scrape with its answers, or a phase. -/
inductive Entry where
  | capture (finalSample : Bool) (elapsedMs scrapeDurationMs : UInt64) (scrape : Scrape)
  | mark (phase : ScenarioPhase) (elapsedMs : UInt64)

namespace Entry

/-- The time of a scrape. -/
def captureMs : Entry → Option UInt64
  | .capture _ elapsedMs _ _ => some elapsedMs
  | .mark _ _ => none

/-- The sampler after writing an entry. -/
def write (sampler : SamplerState) : Entry → Except String SamplerState
  | .capture finalSample elapsedMs scrapeDurationMs scrape =>
      sampler.record finalSample elapsedMs scrapeDurationMs scrape (.ok ())
  | .mark phase elapsedMs => sampler.recordPhase phase elapsedMs (.ok ())

end Entry

/-- The rate from the remembered sample to a new one fits a word. -/
def RateFits (sampler : SamplerState) (elapsedMs : UInt64) (server : ProcessSample) : Prop :=
  ∀ previous, sampler.previousServer = some previous →
    (server.cpuTicks.toNat - previous.process.cpuTicks.toNat) * 100000000 /
      (sampler.clockTicksPerSecond.toNat *
        (elapsedMs.toNat - previous.elapsedMs.toNat)) ≤ limit

/-- Every rate that a successful capture computes along the entries fits a word. -/
def RatesFit (start : SamplerState) (entries : List Entry) : Prop :=
  ∀ before finalSample elapsedMs scrapeDurationMs scrape after,
    entries = before ++ .capture finalSample elapsedMs scrapeDurationMs scrape :: after →
    ∀ sampler, before.foldlM Entry.write start = .ok sampler →
    ∀ measurement, (sampler.capture finalSample elapsedMs scrape).1 = .ok (.sample measurement) →
      RateFits sampler elapsedMs measurement.server

/-- The time of a record that is no phase. -/
def scrapeMs (record : TelemetryRecord) : Option UInt64 :=
  if record.outcome.isPhase then none else some record.elapsedMs

/-- The samples a reader without limits would make of the records. -/
def samplesOf (records : List TelemetryRecord) : List TelemetrySample :=
  records.filterMap decodedSample

/-- The sampler's memory agrees with the report's walk over the samples so far. -/
structure Remembered (clockTicksPerSecond : UInt64) (initial : TelemetrySample)
    (rest : List TelemetrySample) (previous : TimedProcessSample) : Prop where
  walk : ∃ startTicks weighed, initial.serverCpuTicks = some startTicks ∧
    rest.foldlM (weigh TelemetrySample.serverCpuPercentMilli) ⟨initial.elapsedMs, 0, 0⟩ =
      some weighed ∧
    weighed.previousElapsedMs = previous.elapsedMs ∧
    initial.elapsedMs ≤ previous.elapsedMs ∧
    weighed.totalWeight = previous.elapsedMs.toNat - initial.elapsedMs.toNat ∧
    weighed.weightedSum ≤ limit * weighed.totalWeight ∧
    (0 < weighed.totalWeight → 0 < clockTicksPerSecond) ∧
    startTicks ≤ previous.process.cpuTicks ∧
    Floored clockTicksPerSecond.toNat
      ((previous.process.cpuTicks.toNat - startTicks.toNat) * 100000000)
      weighed.weightedSum weighed.totalWeight

/-- What the sampler has written and what it remembers. -/
structure Tracked (sampler : SamplerState) : Prop where
  fresh : samplesOf sampler.output = [] → sampler.previousServer = none
  remembered : ∀ initial rest, samplesOf sampler.output = initial :: rest →
    initial.isGap = false → ∃ previous, sampler.previousServer = some previous ∧
      Remembered sampler.clockTicksPerSecond initial rest previous
  latest : ∀ last, (samplesOf sampler.output).getLast? = some last →
    last.serverCpuPercentMilli.isSome → ∃ previous, sampler.previousServer = some previous ∧
      previous.elapsedMs = last.elapsedMs ∧
      last.serverCpuTicks = some previous.process.cpuTicks

/-- A sampler that has just started remembers no sample. -/
theorem started_tracked (serverPid rtcPid : UInt32) (clockTicksPerSecond : UInt64)
    (startedAt : Nat) :
    Tracked (.started serverPid rtcPid clockTicksPerSecond startedAt) where
  fresh := fun _ => rfl
  remembered := fun _ _ written => by cases written
  latest := fun _ written => by cases written

section sampler
variable {sampler after : SamplerState}

/-- A percentage is missing without a remembered sample or over no time, and
otherwise the clamped rate since that sample. -/
theorem cpuPercentMilli_eq_ok {previous : Option TimedProcessSample} {elapsedMs : UInt64}
    {process : ProcessSample} {clockTicksPerSecond : UInt64} {percent : Option UInt64}
    (computed : cpuPercentMilli previous elapsedMs process clockTicksPerSecond = .ok percent) :
    (previous = none ∧ percent = none) ∨ ∃ kept, previous = some kept ∧
      ((elapsedMs = kept.elapsedMs ∧ percent = none) ∨
        (kept.elapsedMs < elapsedMs ∧ kept.process.cpuTicks ≤ process.cpuTicks ∧
          0 < clockTicksPerSecond.toNat * (elapsedMs.toNat - kept.elapsedMs.toNat) ∧
          percent = some (UInt64.ofNat (min ((process.cpuTicks.toNat -
            kept.process.cpuTicks.toNat) * 100000000 /
            (clockTicksPerSecond.toNat * (elapsedMs.toNat - kept.elapsedMs.toNat))) limit)))) := by
  cases previous with
  | none => exact Or.inl ⟨rfl, (Except.ok.inj computed).symm⟩
  | some kept =>
    refine Or.inr ⟨kept, rfl, ?_⟩
    simp only [cpuPercentMilli, bind_eq_ok, ensure_eq_ok, context_eq_ok] at computed
    obtain ⟨_, _, elapsed, passed, computed⟩ := computed
    obtain ⟨onward, subtracted⟩ := Option.ite_none_right_eq_some.mp passed
    have elapsedNat := UInt64.toNat_sub_of_le _ _ onward
    rw [Option.some.inj subtracted] at elapsedNat
    rw [UInt64.le_iff_toNat_le] at onward
    split at computed
    · next none =>
      refine Or.inl ⟨?_, (Except.ok.inj computed).symm⟩
      rw [none, UInt64.toNat_zero] at elapsedNat
      rw [← UInt64.toNat_inj]
      omega
    · next some =>
      simp only [bind_eq_ok, ensure_eq_ok, context_eq_ok] at computed
      obtain ⟨cpuTicks, used, _, divisor, returned⟩ := computed
      obtain ⟨grown, ticks⟩ := Option.ite_none_right_eq_some.mp used
      have ticksNat := UInt64.toNat_sub_of_le _ _ grown
      rw [Option.some.inj ticks] at ticksNat
      rw [← UInt64.toNat_inj, UInt64.toNat_zero] at some
      refine Or.inr ⟨?_, grown, ?_, ?_⟩
      · rw [UInt64.lt_iff_toNat_lt]
        omega
      · rw [← elapsedNat]
        exact Nat.pos_of_ne_zero divisor
      · rw [← Except.ok.inj returned, ticksNat, elapsedNat]

/-- Reading the server's process leaves the remembered sample and the rate of the clock. -/
theorem captureServer_memory {scrape : Scrape} {server : ProcessSample}
    (captured : sampler.captureServer scrape = .ok (server, after)) :
    after.previousServer = sampler.previousServer ∧
      after.clockTicksPerSecond = sampler.clockTicksPerSecond := by
  simp only [SamplerState.captureServer, bind_eq_ok] at captured
  obtain ⟨_, _, _, _, _, _, returned⟩ := captured
  obtain ⟨rfl, rfl⟩ := Prod.mk.inj (Except.ok.inj returned)
  exact ⟨rfl, rfl⟩

/-- So does reading the generator's. -/
theorem captureRtc_memory {finalSample : Bool} {scrape : Scrape} {rtc : Option ProcessSample}
    (captured : sampler.captureRtc finalSample scrape = .ok (rtc, after)) :
    after.previousServer = sampler.previousServer ∧
      after.clockTicksPerSecond = sampler.clockTicksPerSecond := by
  simp only [SamplerState.captureRtc, bind_eq_ok] at captured
  obtain ⟨found, _, captured⟩ := captured
  cases found with
  | some sample =>
    obtain ⟨_, _, returned⟩ := (bind_eq_ok _ _ _).mp captured
    obtain ⟨rfl, rfl⟩ := Prod.mk.inj (Except.ok.inj returned)
    exact ⟨rfl, rfl⟩
  | none =>
    cases finalSample with
    | true =>
      obtain ⟨rfl, rfl⟩ := Prod.mk.inj (Except.ok.inj captured)
      exact ⟨rfl, rfl⟩
    | false => cases captured

/-- How a capture treats the remembered server sample: a failure keeps it, and a
success computes from it before advancing it. -/
structure Captured (sampler : SamplerState) (elapsedMs : UInt64)
    (result : Except String TelemetryOutcome) (after : SamplerState) : Prop where
  rate : after.clockTicksPerSecond = sampler.clockTicksPerSecond
  failed : ∀ message, result = .error message → after.previousServer = sampler.previousServer
  succeeded : ∀ outcome, result = .ok outcome → ∃ measurement, outcome = .sample measurement ∧
    measurement.clockTicksPerSecond = sampler.clockTicksPerSecond ∧
    cpuPercentMilli sampler.previousServer elapsedMs measurement.server
      sampler.clockTicksPerSecond = .ok measurement.serverCpuPercentMilli ∧
    after.previousServer =
      advanceProcessSample sampler.previousServer elapsedMs measurement.server

/-- Every capture treats the remembered sample in this way. -/
theorem capture_captured (sampler : SamplerState) (finalSample : Bool) (elapsedMs : UInt64)
    (scrape : Scrape) : Captured sampler elapsedMs
      (sampler.capture finalSample elapsedMs scrape).1
      (sampler.capture finalSample elapsedMs scrape).2 := by
  unfold SamplerState.capture
  cases serverCaptured : sampler.captureServer scrape with
  | error message => exact ⟨rfl, fun _ _ => rfl, (fun _ succeeded => by cases succeeded)⟩
  | ok found =>
    obtain ⟨server, second⟩ := found
    obtain ⟨secondPrevious, secondRate⟩ := captureServer_memory serverCaptured
    dsimp only
    cases rtcCaptured : second.captureRtc finalSample scrape with
    | error message =>
      exact ⟨secondRate, fun _ _ => secondPrevious, fun _ succeeded => by cases succeeded⟩
    | ok found =>
      obtain ⟨rtc, third⟩ := found
      obtain ⟨thirdPrevious, thirdRate⟩ := captureRtc_memory rtcCaptured
      have previous := thirdPrevious.trans secondPrevious
      have rate := thirdRate.trans secondRate
      dsimp only
      cases measured : third.measure elapsedMs server rtc scrape with
      | error message =>
        exact ⟨rate, fun _ _ => previous, fun _ succeeded => by cases succeeded⟩
      | ok outcome =>
        refine ⟨rate, (fun _ failed => by cases failed), fun other same => ?_⟩
        obtain rfl := Except.ok.inj same
        simp only [SamplerState.measure, bind_eq_ok] at measured
        obtain ⟨_, _, _, _, percent, computed, _, _, returned⟩ := measured
        rw [previous, rate] at computed
        refine ⟨_, (Except.ok.inj returned).symm, rate, computed, ?_⟩
        rw [← previous]
        rfl

/-- A record of a scrape is an error that changes no memory, or a sample whose
percentage was computed from the memory it then advances. -/
theorem record_memory {finalSample : Bool} {elapsedMs scrapeDurationMs : UInt64}
    {scrape : Scrape} {io : Except String Unit}
    (recorded : sampler.record finalSample elapsedMs scrapeDurationMs scrape io = .ok after) :
    after.clockTicksPerSecond = sampler.clockTicksPerSecond ∧
    ((∃ message, after.output = sampler.output ++
        [⟨telemetrySchemaVersion, elapsedMs, scrapeDurationMs, finalSample, .error message⟩] ∧
        after.previousServer = sampler.previousServer) ∨
      ∃ measurement, (sampler.capture finalSample elapsedMs scrape).1 =
          .ok (.sample measurement) ∧
        after.output = sampler.output ++
          [⟨telemetrySchemaVersion, elapsedMs, scrapeDurationMs, finalSample,
            .sample measurement⟩] ∧
        cpuPercentMilli sampler.previousServer elapsedMs measurement.server
          sampler.clockTicksPerSecond = .ok measurement.serverCpuPercentMilli ∧
        after.previousServer =
          advanceProcessSample sampler.previousServer elapsedMs measurement.server) := by
  obtain ⟨rate, failed, succeeded⟩ := capture_captured sampler finalSample elapsedMs scrape
  have output := (SamplerState.capture_keeps sampler finalSample elapsedMs scrape).1.output
  obtain rfl := SamplerState.writeRecord_eq_ok recorded
  unfold SamplerState.observe
  generalize sampler.capture finalSample elapsedMs scrape = captured at *
  obtain ⟨result, middle⟩ := captured
  cases result with
  | error message =>
    exact ⟨rate, Or.inl ⟨message, congrArg (· ++ _) output, failed message rfl⟩⟩
  | ok outcome =>
    obtain ⟨measurement, rfl, _, computed, advanced⟩ := succeeded outcome rfl
    exact ⟨rate, Or.inr ⟨measurement, rfl, congrArg (· ++ _) output, computed, advanced⟩⟩

end sampler

/-- What the reader makes of a sample: the sampler's own readings. -/
structure Measured (sample : TelemetrySample) (elapsedMs : UInt64) (measurement : Measurement) :
    Prop where
  isGap : sample.isGap = false
  elapsedMs : sample.elapsedMs = elapsedMs
  serverCpuTicks : sample.serverCpuTicks = some measurement.server.cpuTicks
  percent : sample.serverCpuPercentMilli = measurement.serverCpuPercentMilli

/-- A measurement of few enough workers is read back as it was written. -/
theorem measured_of_few (elapsedMs scrapeDurationMs : UInt64) (finalSample : Bool)
    {measurement : Measurement} (workers : FewWorkers measurement.workers) :
    ∃ sample, decodedSample ⟨telemetrySchemaVersion, elapsedMs, scrapeDurationMs, finalSample,
      .sample measurement⟩ = some sample ∧ Measured sample elapsedMs measurement := by
  obtain ⟨sample, decoded⟩ := fromCurrent_of_few elapsedMs scrapeDurationMs (some finalSample)
    workers
  refine ⟨sample, decoded, ?_⟩
  simp only [TelemetrySample.fromCurrent, Option.bind_eq_bind, Option.bind_eq_some_iff] at decoded
  obtain ⟨_, _, returned⟩ := decoded
  obtain rfl := Option.some.inj returned
  exact ⟨rfl, rfl, rfl, rfl⟩

namespace Remembered

variable {clockTicksPerSecond : UInt64} {initial : TelemetrySample} {rest : List TelemetrySample}
  {previous : TimedProcessSample}

/-- The first sample alone. -/
theorem first {elapsedMs : UInt64} {measurement : Measurement}
    (measured : Measured initial elapsedMs measurement) :
    Remembered clockTicksPerSecond initial [] ⟨elapsedMs, measurement.server⟩ where
  walk := by
    refine ⟨measurement.server.cpuTicks, ⟨initial.elapsedMs, 0, 0⟩, measured.serverCpuTicks, rfl,
      measured.elapsedMs, ?_, ?_, Nat.zero_le _, fun weighs => absurd weighs (Nat.lt_irrefl 0),
      UInt64.le_refl _, ?_⟩
    · rw [measured.elapsedMs]
      exact UInt64.le_refl _
    · rw [measured.elapsedMs, Nat.sub_self]
    · rw [Nat.sub_self, Nat.zero_mul]
      exact Floored.zero _

/-- A gap keeps what is remembered. -/
theorem gap (remembered : Remembered clockTicksPerSecond initial rest previous)
    {sample : TelemetrySample} (isGap : sample.isGap = true) :
    Remembered clockTicksPerSecond initial (rest ++ [sample]) previous where
  walk := by
    obtain ⟨startTicks, weighed, ticks, folded, facts⟩ := remembered.walk
    refine ⟨startTicks, weighed, ticks, ?_, facts⟩
    simp [List.foldlM_append, folded, weigh_gap isGap]

/-- So does a sample at the same millisecond. -/
theorem tie (remembered : Remembered clockTicksPerSecond initial rest previous)
    {sample : TelemetrySample} {measurement : Measurement}
    (measured : Measured sample previous.elapsedMs measurement)
    (missing : measurement.serverCpuPercentMilli = none) :
    Remembered clockTicksPerSecond initial (rest ++ [sample]) previous where
  walk := by
    obtain ⟨startTicks, weighed, ticks, folded, clock, facts⟩ := remembered.walk
    refine ⟨startTicks, { weighed with previousElapsedMs := sample.elapsedMs }, ticks, ?_,
      measured.elapsedMs, facts⟩
    have onward : weighed.previousElapsedMs ≤ sample.elapsedMs := by
      rw [clock, measured.elapsedMs]
      exact UInt64.le_refl _
    have weighs := weigh_none measured.isGap onward (measured.percent.trans missing)
    simp [List.foldlM_append, folded, weighs]

/-- A later sample adds its interval to the walk and is remembered instead. -/
theorem later (remembered : Remembered clockTicksPerSecond initial rest previous)
    {sample : TelemetrySample} {elapsedMs : UInt64} {measurement : Measurement}
    (measured : Measured sample elapsedMs measurement) (onward : previous.elapsedMs < elapsedMs)
    (grown : previous.process.cpuTicks ≤ measurement.server.cpuTicks)
    (divisor : 0 < clockTicksPerSecond.toNat * (elapsedMs.toNat - previous.elapsedMs.toNat))
    {amount : UInt64} (present : measurement.serverCpuPercentMilli = some amount)
    (exact : amount.toNat = (measurement.server.cpuTicks.toNat -
      previous.process.cpuTicks.toNat) * 100000000 /
      (clockTicksPerSecond.toNat * (elapsedMs.toNat - previous.elapsedMs.toNat))) :
    Remembered clockTicksPerSecond initial (rest ++ [sample]) ⟨elapsedMs, measurement.server⟩ where
  walk := by
    obtain ⟨startTicks, weighed, ticks, folded, clock, begun, weight, bounded, positive, used,
      floored⟩ := remembered.walk
    have passed : weighed.previousElapsedMs < sample.elapsedMs := by
      rw [clock, measured.elapsedMs]
      exact onward
    have weighs := weigh_some measured.isGap passed (measured.percent.trans present)
    rw [measured.elapsedMs, clock] at weighs
    rw [UInt64.lt_iff_toNat_lt] at onward
    rw [UInt64.le_iff_toNat_le] at begun used grown
    have time := toNat_le_limit elapsedMs
    have amountLimit := toNat_le_limit amount
    have sum : weighed.weightedSum + amount.toNat * (elapsedMs.toNat - previous.elapsedMs.toNat) ≤
        limit * (weighed.totalWeight + (elapsedMs.toNat - previous.elapsedMs.toNat)) := by
      rw [Nat.mul_add]
      exact Nat.add_le_add bounded (Nat.mul_le_mul_right _ amountLimit)
    have total : weighed.totalWeight + (elapsedMs.toNat - previous.elapsedMs.toNat) =
        elapsedMs.toNat - initial.elapsedMs.toNat := by
      omega
    have wide : limit * (elapsedMs.toNat - initial.elapsedMs.toNat) ≤ wideLimit := by
      refine (Nat.mul_le_mul_left limit (Nat.sub_le_of_le_add (Nat.le_add_right_of_le time))).trans ?_
      decide
    have narrow : elapsedMs.toNat - initial.elapsedMs.toNat ≤ wideLimit := by
      have words : limit ≤ wideLimit := by decide
      omega
    rw [total] at sum
    rw [Nat.min_eq_left (sum.trans wide), total, Nat.min_eq_left narrow] at weighs
    refine ⟨startTicks, ⟨elapsedMs, weighed.weightedSum +
      amount.toNat * (elapsedMs.toNat - previous.elapsedMs.toNat),
      elapsedMs.toNat - initial.elapsedMs.toNat⟩, ticks, ?_, rfl, ?_, rfl, sum, fun _ => ?_, ?_, ?_⟩
    · simp only [List.foldlM_append, folded, List.foldlM_cons, List.foldlM_nil, weighs,
        Option.bind_eq_bind, Option.bind_some]
      rfl
    · exact UInt64.le_iff_toNat_le.mpr (begun.trans onward.le)
    · exact UInt64.lt_iff_toNat_lt.mpr (Nat.pos_of_mul_pos_right divisor)
    · rw [UInt64.le_iff_toNat_le]
      exact used.trans grown
    · have added := floored.add divisor ((measurement.server.cpuTicks.toNat -
        previous.process.cpuTicks.toNat) * 100000000)
      rw [← exact, total, ← Nat.add_mul] at added
      have ticksTotal : previous.process.cpuTicks.toNat - startTicks.toNat +
          (measurement.server.cpuTicks.toNat - previous.process.cpuTicks.toNat) =
          measurement.server.cpuTicks.toNat - startTicks.toNat := by
        omega
      rw [ticksTotal] at added
      exact added

end Remembered

section tracked
variable {sampler after : SamplerState}

/-- What one more sample has to bring, as the first one and after others. -/
theorem Tracked.append (tracked : Tracked sampler) {sample : TelemetrySample}
    (samples : samplesOf after.output = samplesOf sampler.output ++ [sample])
    (rate : after.clockTicksPerSecond = sampler.clockTicksPerSecond)
    (opening : samplesOf sampler.output = [] → sample.isGap = false →
      ∃ next, after.previousServer = some next ∧
        Remembered sampler.clockTicksPerSecond sample [] next)
    (following : ∀ initial rest previous, sampler.previousServer = some previous →
      Remembered sampler.clockTicksPerSecond initial rest previous →
      ∃ next, after.previousServer = some next ∧
        Remembered sampler.clockTicksPerSecond initial (rest ++ [sample]) next)
    (closing : sample.serverCpuPercentMilli.isSome →
      ∃ next, after.previousServer = some next ∧ next.elapsedMs = sample.elapsedMs ∧
        sample.serverCpuTicks = some next.process.cpuTicks) : Tracked after := by
  constructor
  · intro none
    rw [samples] at none
    exact absurd none (List.append_ne_nil_of_right_ne_nil _ (List.cons_ne_nil _ _))
  · intro initial rest written successful
    rw [samples] at written
    rw [rate]
    cases before : samplesOf sampler.output with
    | nil =>
      rw [before] at written
      obtain ⟨rfl, rfl⟩ := List.cons.inj written
      exact opening before successful
    | cons first others =>
      rw [before] at written
      obtain ⟨rfl, rfl⟩ := List.cons.inj written
      obtain ⟨previous, present, remembered⟩ := tracked.remembered first others before successful
      exact following first others previous present remembered
  · intro last ends reported
    rw [samples, List.getLast?_concat] at ends
    obtain rfl := Option.some.inj ends
    exact closing reported

/-- A failed capture leaves a gap. -/
theorem Tracked.fail (tracked : Tracked sampler) {elapsedMs scrapeDurationMs : UInt64}
    {finalSample : Bool} {message : String}
    (rate : after.clockTicksPerSecond = sampler.clockTicksPerSecond)
    (output : after.output = sampler.output ++
      [⟨telemetrySchemaVersion, elapsedMs, scrapeDurationMs, finalSample, .error message⟩])
    (kept : after.previousServer = sampler.previousServer) : Tracked after := by
  have samples : samplesOf after.output = samplesOf sampler.output ++
      [.gap elapsedMs (some finalSample) (some scrapeDurationMs)] := by
    simp [samplesOf, output, decodedSample]
  refine tracked.append samples rate ?_ ?_ ?_
  · intro _ successful
    cases successful
  · intro initial rest previous present remembered
    exact ⟨previous, kept.trans present, remembered.gap rfl⟩
  · intro reported
    cases reported

/-- A successful capture is weighed from the sample the sampler computed it from.

Proof: by what the percentage was computed from. Without a remembered sample it is
the first one; over no time nothing is added or remembered; otherwise the rate is
that of the very interval the report weighs it with. -/
theorem Tracked.succeed (tracked : Tracked sampler) {elapsedMs scrapeDurationMs : UInt64}
    {finalSample : Bool} {measurement : Measurement}
    (rate : after.clockTicksPerSecond = sampler.clockTicksPerSecond)
    (output : after.output = sampler.output ++
      [⟨telemetrySchemaVersion, elapsedMs, scrapeDurationMs, finalSample, .sample measurement⟩])
    (computed : cpuPercentMilli sampler.previousServer elapsedMs measurement.server
      sampler.clockTicksPerSecond = .ok measurement.serverCpuPercentMilli)
    (advanced : after.previousServer =
      advanceProcessSample sampler.previousServer elapsedMs measurement.server)
    (fits : RateFits sampler elapsedMs measurement.server)
    (workers : FewWorkers measurement.workers) : Tracked after := by
  obtain ⟨sample, decoded, measured⟩ := measured_of_few elapsedMs scrapeDurationMs finalSample
    workers
  have samples : samplesOf after.output = samplesOf sampler.output ++ [sample] := by
    simp [samplesOf, output, decoded]
  have step := cpuPercentMilli_eq_ok computed
  refine tracked.append samples rate ?_ ?_ ?_
  · intro empty _
    rw [advanced, tracked.fresh empty]
    exact ⟨_, rfl, Remembered.first measured⟩
  · intro initial rest previous present remembered
    rw [present] at step
    obtain ⟨absent, _⟩ | ⟨kept, same, interval⟩ := step
    · cases absent
    · obtain rfl := Option.some.inj same
      obtain ⟨rfl, missing⟩ | ⟨onward, grown, divisor, percent⟩ := interval
      · refine ⟨previous, ?_, remembered.tie measured missing⟩
        rw [advanced, present, advanceProcessSample, if_neg (UInt64.lt_irrefl _)]
      · refine ⟨_, ?_, remembered.later measured onward grown divisor percent ?_⟩
        · rw [advanced, present, advanceProcessSample, if_pos onward]
        · rw [Nat.min_eq_left (fits previous present)]
          exact toNat_ofNat_of_fits (fits previous present)
  · intro reported
    rw [measured.percent] at reported
    obtain ⟨_, missing⟩ | ⟨kept, present, interval⟩ := step
    · rw [missing] at reported
      cases reported
    · obtain ⟨_, missing⟩ | ⟨onward, _⟩ := interval
      · rw [missing] at reported
        cases reported
      · refine ⟨⟨elapsedMs, measurement.server⟩, ?_, measured.elapsedMs.symm,
          measured.serverCpuTicks⟩
        rw [advanced, present, advanceProcessSample, if_pos onward]

/-- A phase is no sample. -/
theorem Tracked.phase (tracked : Tracked sampler) {phase : ScenarioPhase} {elapsedMs : UInt64}
    {io : Except String Unit} (written : sampler.recordPhase phase elapsedMs io = .ok after) :
    Tracked after := by
  obtain ⟨_, rfl⟩ := SamplerState.recordPhase_eq_ok written
  have samples : samplesOf (sampler.output ++
      [⟨telemetrySchemaVersion, elapsedMs, 0, false, .phase phase⟩]) =
      samplesOf sampler.output := by
    simp [samplesOf, decodedSample]
  refine ⟨?_, ?_, ?_⟩ <;> rw [samples]
  · exact tracked.fresh
  · exact tracked.remembered
  · exact tracked.latest

/-- Each entry adds one record, and keeps the clock rate. -/
theorem write_output {entry : Entry} (written : entry.write sampler = .ok after) :
    after.clockTicksPerSecond = sampler.clockTicksPerSecond ∧
    ∃ record, after.output = sampler.output ++ [record] ∧ scrapeMs record = entry.captureMs := by
  cases entry with
  | capture finalSample elapsedMs scrapeDurationMs scrape =>
    obtain ⟨rate, ⟨message, output, _⟩ | ⟨measurement, _, output, _⟩⟩ := record_memory written
    · exact ⟨rate, _, output, rfl⟩
    · exact ⟨rate, _, output, rfl⟩
  | mark phase elapsedMs =>
    obtain ⟨_, rfl⟩ := SamplerState.recordPhase_eq_ok written
    exact ⟨rfl, _, rfl, rfl⟩

/-- The records of a list of entries. -/
theorem run_output {entries : List Entry}
    (wrote : entries.foldlM Entry.write sampler = .ok after) :
    after.clockTicksPerSecond = sampler.clockTicksPerSecond ∧
    ∃ records, after.output = sampler.output ++ records ∧
      records.map scrapeMs = entries.map Entry.captureMs := by
  induction entries generalizing sampler with
  | nil =>
    obtain rfl := Except.ok.inj wrote
    exact ⟨rfl, [], (List.append_nil _).symm, rfl⟩
  | cons entry rest inductionHypothesis =>
    rw [List.foldlM_cons, bind_eq_ok] at wrote
    obtain ⟨next, written, continued⟩ := wrote
    obtain ⟨rate, record, output, time⟩ := write_output written
    obtain ⟨laterRate, records, later, times⟩ := inductionHypothesis continued
    refine ⟨laterRate.trans rate, record :: records, ?_, ?_⟩
    · rw [later, output, List.append_assoc, List.singleton_append]
    · rw [List.map_cons, List.map_cons, time, times]

/-- Along entries whose rates fit, the sampler and the report keep in agreement. -/
theorem run_tracked {entries : List Entry} (tracked : Tracked sampler)
    (wrote : entries.foldlM Entry.write sampler = .ok after)
    (fit : RatesFit sampler entries)
    (workers : ∀ record ∈ after.output, FewWorkers record.outcome.workers) : Tracked after := by
  induction entries generalizing sampler with
  | nil =>
    obtain rfl := Except.ok.inj wrote
    exact tracked
  | cons entry rest inductionHypothesis =>
    rw [List.foldlM_cons, bind_eq_ok] at wrote
    obtain ⟨next, written, continued⟩ := wrote
    obtain ⟨_, records, later, _⟩ := run_output continued
    refine inductionHypothesis ?_ continued ?_
    · cases entry with
      | capture finalSample elapsedMs scrapeDurationMs scrape =>
        obtain ⟨rate, ⟨message, output, kept⟩ | ⟨measurement, captured, output, computed,
          advanced⟩⟩ := record_memory written
        · exact tracked.fail rate output kept
        · have listed : (⟨telemetrySchemaVersion, elapsedMs, scrapeDurationMs, finalSample,
              .sample measurement⟩ : TelemetryRecord) ∈ after.output := by
            rw [later, output]
            simp
          exact tracked.succeed rate output computed advanced
            (fit [] _ _ _ _ rest rfl sampler rfl measurement captured) (workers _ listed)
      | mark phase elapsedMs => exact tracked.phase written
    · intro before finalSample elapsedMs scrapeDurationMs scrape others same state reached
      refine fit (entry :: before) finalSample elapsedMs scrapeDurationMs scrape others ?_ state ?_
      · rw [same, List.cons_append]
      · rw [List.foldlM_cons, bind_eq_ok]
        exact ⟨next, written, reached⟩

end tracked

section reader
variable {serde : Serde}

/-- A record the reader takes adds the sample it decodes to. -/
theorem take_samples (set : SampleSet) {record : TelemetryRecord}
    (workers : FewWorkers record.outcome.workers) :
    (set.take record (some record.finalSample) (some (gapOf record))).samples =
      set.samples ++ (decodedSample record).toList := by
  cases outcome : record.outcome with
  | sample measurement =>
    rw [outcome] at workers
    obtain ⟨sample, decoded⟩ := fromCurrent_of_few record.elapsedMs record.scrapeDurationMs
      (some record.finalSample) workers
    simp [SampleSet.take, outcome, decoded, SampleSet.push, decodedSample]
  | error message =>
    simp [SampleSet.take, outcome, SampleSet.push, decodedSample, gapOf]
  | phase phase =>
    simp only [SampleSet.take, outcome, decodedSample, Option.toList_none, List.append_nil]
    split
    · rfl
    · exact SampleSet.lose_samples _ _

/-- Reading on, the samples of the records that are still within the limit follow. -/
theorem foldl_samples (records : List TelemetryRecord) (state : ParseState)
    (faithful : ∀ record ∈ records, serde.Faithful record)
    (workers : ∀ record ∈ records, FewWorkers record.outcome.workers) :
    ((records.map serde.toWriter).foldl (parseLine serde) state).set.samples =
      state.set.samples ++ samplesOf (records.take (maxTelemetrySamples - state.records)) := by
  induction records generalizing state with
  | nil => simp [samplesOf]
  | cons record rest inductionHypothesis =>
    have later := fun state => inductionHypothesis state
      (fun other member => faithful other (List.mem_cons_of_mem _ member))
      (fun other member => workers other (List.mem_cons_of_mem _ member))
    rw [List.map_cons, List.foldl_cons, later]
    by_cases room : state.records < maxTelemetrySamples
    · have left : maxTelemetrySamples - state.records =
          maxTelemetrySamples - (state.records + 1) + 1 := by omega
      rw [parseLine_of_written (faithful record List.mem_cons_self) room, left,
        List.take_succ_cons, take_samples _ (workers record List.mem_cons_self),
        List.append_assoc]
      congr 1
      cases decoded : decodedSample record <;> simp [samplesOf, decoded]
    · have full : maxTelemetrySamples - state.records = 0 := by omega
      have lost : parseLine serde state (serde.toWriter record) =
          { state with set := state.set.lose "telemetry sample limit reached" } := by
        rw [parseLine, if_pos (Nat.not_lt.mp room)]
      rw [lost, SampleSet.lose_samples, full, List.take_zero, List.take_zero]

/-- The check at the end leaves the samples. -/
theorem checkPhases_samples (state : ParseState) :
    state.checkPhases.samples = state.set.samples := by
  unfold ParseState.checkPhases
  split
  · exact SampleSet.lose_samples _ _
  · rfl

/-- A sample has its record's time, and its record is a scrape. -/
theorem scrapeMs_of_decoded {record : TelemetryRecord} {sample : TelemetrySample}
    (decoded : decodedSample record = some sample) :
    scrapeMs record = some sample.elapsedMs := by
  have time := congrArg Prod.fst (decodedSample_eq_some decoded)
  cases outcome : record.outcome with
  | phase phase =>
    rw [decodedSample, outcome] at decoded
    cases decoded
  | _ => simp_all [scrapeMs, TelemetryOutcome.isPhase]

/-- Scrapes in time order make samples in time order. -/
theorem samplesOf_sorted {records : List TelemetryRecord}
    (times : (records.filterMap scrapeMs).Pairwise (· ≤ ·)) :
    (samplesOf records).Pairwise (fun earlier later => earlier.elapsedMs ≤ later.elapsedMs) := by
  rw [List.pairwise_filterMap] at times
  rw [samplesOf, List.pairwise_filterMap]
  refine times.imp (fun ordered before decoded after alsoDecoded => ?_)
  exact ordered _ (scrapeMs_of_decoded decoded) _ (scrapeMs_of_decoded alsoDecoded)

/-- What is read of a file written in time order: the samples of its first records,
as many as the limit allows. -/
theorem parseSamples_of_file {records : List TelemetryRecord}
    (faithful : ∀ record ∈ records, serde.Faithful record)
    (workers : ∀ record ∈ records, FewWorkers record.outcome.workers)
    (times : (records.filterMap scrapeMs).Pairwise (· ≤ ·)) :
    (parseSamples serde (serde.file records)).samples =
      samplesOf (records.take maxTelemetrySamples) := by
  have read : (parseLines serde (serde.file records)).set.samples =
      samplesOf (records.take maxTelemetrySamples) := by
    rw [parseLines, lines_of_file records faithful, foldl_samples records _ faithful workers]
    rfl
  have sorted := samplesOf_sorted
    (times.sublist ((List.take_sublist maxTelemetrySamples records).filterMap scrapeMs))
  simp only [parseSamples, checkPhases_samples, read]
  exact List.mergeSort_of_pairwise (sorted.imp decide_eq_true)

end reader

/-- The reported average of what a sampler wrote, in ticks and milliseconds. -/
theorem average_of_tracked {sampler : SamplerState} (tracked : Tracked sampler)
    {average : UInt64}
    (reported : TelemetrySummary.serverCpuAverage (samplesOf sampler.output) = some average) :
    ∃ first last startTicks endTicks, (samplesOf sampler.output).head? = some first ∧
      (samplesOf sampler.output).getLast? = some last ∧
      first.serverCpuTicks = some startTicks ∧ last.serverCpuTicks = some endTicks ∧
      startTicks ≤ endTicks ∧ first.elapsedMs < last.elapsedMs ∧
      0 < sampler.clockTicksPerSecond ∧
      average.toNat * (sampler.clockTicksPerSecond.toNat *
          (last.elapsedMs.toNat - first.elapsedMs.toNat)) ≤
        (endTicks.toNat - startTicks.toNat) * 100000000 ∧
      (endTicks.toNat - startTicks.toNat) * 100000000 <
        (average.toNat + 2) * (sampler.clockTicksPerSecond.toNat *
          (last.elapsedMs.toNat - first.elapsedMs.toNat)) := by
  obtain ⟨first, last, weighed, ends, _, finalUsable, folded, _, weight, quotient⟩ :=
    wholeWindowAverage_eq_some.mp reported
  obtain ⟨opening, successful, _, ending, _, _, onward⟩ := wholeWindowEndpoints_eq_some.mp ends
  obtain ⟨rest, samples⟩ : ∃ rest, samplesOf sampler.output = first :: rest := by
    cases listed : samplesOf sampler.output with
    | nil => simp [listed] at opening
    | cons head tail =>
      rw [listed, List.head?_cons] at opening
      exact ⟨tail, by rw [Option.some.inj opening]⟩
  obtain ⟨previous, present, remembered⟩ := tracked.remembered first rest samples successful
  obtain ⟨startTicks, walked, ticks, sameFold, _, _, _, _, positive, used, floored⟩ :=
    remembered.walk
  rw [samples, List.drop_one, List.tail_cons, sameFold] at folded
  obtain rfl := Option.some.inj folded
  have percent : last.serverCpuPercentMilli.isSome = true := by
    rw [Bool.and_eq_true] at finalUsable
    exact finalUsable.2
  obtain ⟨other, alsoPresent, _, endTicks⟩ := tracked.latest last ending percent
  obtain rfl := Option.some.inj (present.symm.trans alsoPresent)
  have weighs : 0 < walked.totalWeight := by
    rw [UInt64.lt_iff_toNat_lt] at onward
    omega
  have scaled := positive weighs
  obtain ⟨below, above⟩ := floored.average (UInt64.lt_iff_toNat_lt.mp scaled) weighs
  rw [quotient, weight] at below above
  exact ⟨first, last, startTicks, previous.process.cpuTicks, opening, ending, ticks, endTicks,
    used, onward, scaled, below, above⟩

/-- The exact rate of ticks over milliseconds, in thousandths of a percent. -/
def exactPercentMilli (ticks elapsedMs clockTicksPerSecond : Nat) : ℚ :=
  ticks * 10 ^ 8 / (clockTicksPerSecond * elapsedMs)

/-- Bounds on whole numbers, as bounds on the exact rate. -/
theorem exactPercentMilli_bounds {ticks elapsedMs clockTicksPerSecond average : Nat}
    (positive : 0 < clockTicksPerSecond * elapsedMs)
    (below : average * (clockTicksPerSecond * elapsedMs) ≤ ticks * 100000000)
    (above : ticks * 100000000 < (average + 2) * (clockTicksPerSecond * elapsedMs)) :
    exactPercentMilli ticks elapsedMs clockTicksPerSecond - 2 < average ∧
      (average : ℚ) ≤ exactPercentMilli ticks elapsedMs clockTicksPerSecond := by
  have divisor : (0 : ℚ) < clockTicksPerSecond * elapsedMs := by exact_mod_cast positive
  constructor
  · rw [sub_lt_iff_lt_add, exactPercentMilli, div_lt_iff₀ divisor]
    exact_mod_cast above
  · rw [exactPercentMilli, le_div_iff₀ divisor]
    exact_mod_cast below

/-- The server sample of a successful capture is what the process answered. -/
theorem capture_server {sampler : SamplerState} {finalSample : Bool} {elapsedMs : UInt64}
    {scrape : Scrape} {measurement : Measurement}
    (captured : (sampler.capture finalSample elapsedMs scrape).1 = .ok (.sample measurement)) :
    scrape.server = .ok (some measurement.server) := by
  unfold SamplerState.capture at captured
  split at captured
  · cases captured
  · next server second serverCaptured =>
    split at captured
    · cases captured
    · split at captured
      · cases captured
      · next outcome measured =>
        obtain rfl := Except.ok.inj captured
        simp only [SamplerState.captureServer, bind_eq_ok, context_eq_ok] at serverCaptured
        obtain ⟨found, answered, process, present, _, _, returned⟩ := serverCaptured
        simp only [SamplerState.measure, bind_eq_ok] at measured
        obtain ⟨_, _, _, _, _, _, _, _, sampled⟩ := measured
        rw [answered, present, (Prod.mk.inj (Except.ok.inj returned)).1,
          ← TelemetryOutcome.sample.inj (Except.ok.inj sampled)]

/-- The ticks of a scrape that found the server. -/
def Entry.serverTicks : Entry → Option UInt64
  | .capture _ _ _ scrape =>
    match scrape.server with
    | .ok (some process) => some process.cpuTicks
    | _ => none
  | .mark _ _ => none

/-- Below 184,467,440,737 ticks every rate fits a word. -/
theorem ratesFit_of_few_ticks {entries : List Entry} (start : SamplerState)
    (few : ∀ ticks ∈ entries.filterMap Entry.serverTicks, ticks.toNat * 100000000 ≤ limit) :
    RatesFit start entries := by
  intro before finalSample elapsedMs scrapeDurationMs scrape after same sampler _ measurement
    captured previous _
  have answered := capture_server captured
  have member : measurement.server.cpuTicks ∈ entries.filterMap Entry.serverTicks := by
    rw [same, List.mem_filterMap]
    exact ⟨_, List.mem_append_right _ List.mem_cons_self, by rw [Entry.serverTicks, answered]⟩
  calc _ ≤ (measurement.server.cpuTicks.toNat - previous.process.cpuTicks.toNat) * 100000000 :=
        Nat.div_le_self _ _
    _ ≤ measurement.server.cpuTicks.toNat * 100000000 := Nat.mul_le_mul_right _ (Nat.sub_le _ _)
    _ ≤ limit := few _ member

/-- A sampler's first entries write its first records. -/
theorem run_first {start final : SamplerState} {entries : List Entry} (count : Nat)
    (fresh : start.output = []) (wrote : entries.foldlM Entry.write start = .ok final) :
    ∃ middle, (entries.take count).foldlM Entry.write start = .ok middle ∧
      middle.output = final.output.take count := by
  have split := wrote
  rw [← List.take_append_drop count entries, List.foldlM_append, bind_eq_ok] at split
  obtain ⟨middle, reached, continued⟩ := split
  obtain ⟨_, records, output, times⟩ := run_output reached
  obtain ⟨_, others, later, otherTimes⟩ := run_output continued
  have size := congrArg List.length times
  have otherSize := congrArg List.length otherTimes
  simp only [List.length_map, List.length_take, List.length_drop] at size otherSize
  rw [fresh, List.nil_append] at output
  refine ⟨middle, reached, ?_⟩
  rw [later, output, List.take_append]
  by_cases long : count ≤ entries.length
  · have full : records.length = count := by omega
    rw [List.take_of_length_le (Nat.le_of_eq full), full, Nat.sub_self, List.take_zero,
      List.append_nil]
  · have none : others = [] := List.eq_nil_of_length_eq_zero (by omega)
    rw [none, List.take_nil, List.append_nil, List.take_of_length_le (by omega)]

/-- The reported average of the server's processor use agrees with its raw ticks:
for any entries a sampler writes, in time order, with acceptable workers and with
rates that fit a word, the average that the report makes of the file is the exact
rate between the first and the last sample it reads, floored, or one less.

Proof: the reader takes the first records, which the first entries wrote. Along
them the sampler's remembered sample is where the report's walk stands. -/
theorem reported_cpu_agrees_with_ticks (serde : Serde) {serverPid rtcPid : UInt32}
    {clockTicksPerSecond : UInt64} {startedAt : Nat} {entries : List Entry}
    {final : SamplerState}
    (wrote : entries.foldlM Entry.write
      (.started serverPid rtcPid clockTicksPerSecond startedAt) = .ok final)
    (ordered : (entries.filterMap Entry.captureMs).Pairwise (· ≤ ·))
    (fit : RatesFit (.started serverPid rtcPid clockTicksPerSecond startedAt) entries)
    (workers : ∀ record ∈ final.output, FewWorkers record.outcome.workers)
    (faithful : ∀ record ∈ final.output, serde.Faithful record)
    (deliveredPackets average : UInt64)
    (reported : (TelemetrySummary.fromSamples
        (some (parseSamples serde (serde.file final.output)))
        deliveredPackets).serverCpuPercentMilli = some average) :
    ∃ first last startTicks endTicks,
      (parseSamples serde (serde.file final.output)).samples.head? = some first ∧
      (parseSamples serde (serde.file final.output)).samples.getLast? = some last ∧
      first.serverCpuTicks = some startTicks ∧ last.serverCpuTicks = some endTicks ∧
      startTicks ≤ endTicks ∧ first.elapsedMs < last.elapsedMs ∧ 0 < clockTicksPerSecond ∧
      exactPercentMilli (endTicks.toNat - startTicks.toNat)
          (last.elapsedMs.toNat - first.elapsedMs.toNat) clockTicksPerSecond.toNat - 2 <
        average.toNat ∧
      (average.toNat : ℚ) ≤ exactPercentMilli (endTicks.toNat - startTicks.toNat)
        (last.elapsedMs.toNat - first.elapsedMs.toNat) clockTicksPerSecond.toNat := by
  obtain ⟨middle, reached, output⟩ := run_first maxTelemetrySamples rfl wrote
  obtain ⟨_, records, whole, times⟩ := run_output wrote
  have fitFirst : RatesFit (.started serverPid rtcPid clockTicksPerSecond startedAt)
      (entries.take maxTelemetrySamples) := by
    intro before finalSample elapsedMs scrapeDurationMs scrape after same
    refine fit before finalSample elapsedMs scrapeDurationMs scrape
      (after ++ entries.drop maxTelemetrySamples) ?_
    rw [← List.cons_append, ← List.append_assoc, ← same, List.take_append_drop]
  have tracked := run_tracked (started_tracked serverPid rtcPid clockTicksPerSecond startedAt)
    reached fitFirst (fun record member =>
      workers record (List.mem_of_mem_take (output ▸ member)))
  have recordTimes : (final.output.filterMap scrapeMs).Pairwise (· ≤ ·) := by
    have same := congrArg (List.filterMap id) times
    simp only [List.filterMap_map, Function.id_comp] at same
    rw [whole]
    exact same ▸ ordered
  have read : (parseSamples serde (serde.file final.output)).samples =
      samplesOf middle.output := by
    rw [parseSamples_of_file faithful workers recordTimes, output]
  have rate : middle.clockTicksPerSecond = clockTicksPerSecond := (run_output reached).1
  simp only [TelemetrySummary.fromSamples, read] at reported
  obtain ⟨first, last, startTicks, endTicks, opening, ending, ticks, lastTicks, used, onward,
    scaled, below, above⟩ := average_of_tracked tracked reported
  rw [rate] at scaled below above
  rw [read]
  have positive : 0 < clockTicksPerSecond.toNat *
      (last.elapsedMs.toNat - first.elapsedMs.toNat) := by
    rw [UInt64.lt_iff_toNat_lt] at scaled onward
    exact Nat.mul_pos scaled (by omega)
  exact ⟨first, last, startTicks, endTicks, opening, ending, ticks, lastTicks, used, onward,
    scaled, exactPercentMilli_bounds positive below above⟩

/-- Two scrapes a second apart, with a failed one and one at the same millisecond
between them. -/
def halfSecondOfWork : List Entry :=
  [.capture false 0 1 (steadyScrape 10),
   .capture false 500 1 { steadyScrape 20 with traffic := .error "connection refused" },
   .mark .setup 600,
   .capture false 700 1 (steadyScrape 30),
   .capture false 700 1 (steadyScrape 40),
   .capture true 1000 1 (steadyScrape 60)]

/-- The sampler after that work. -/
def halfSecondEnd : SamplerState :=
  (halfSecondOfWork.foldlM Entry.write (.started 1 2 100 0)).toOption.get (by decide +kernel)

/-- Fifty ticks of a hundred in one second: the report says 49.999 percent, one
less than the ticks do. -/
theorem half_second_is_reported :
    ∃ first last startTicks endTicks,
      (parseSamples (compactSerde halfSecondEnd.output)
        ((compactSerde halfSecondEnd.output).file halfSecondEnd.output)).samples.head? =
          some first ∧
      (parseSamples (compactSerde halfSecondEnd.output)
        ((compactSerde halfSecondEnd.output).file halfSecondEnd.output)).samples.getLast? =
          some last ∧
      first.serverCpuTicks = some startTicks ∧ last.serverCpuTicks = some endTicks ∧
      startTicks ≤ endTicks ∧ first.elapsedMs < last.elapsedMs ∧ (0 : UInt64) < 100 ∧
      exactPercentMilli (endTicks.toNat - startTicks.toNat)
          (last.elapsedMs.toNat - first.elapsedMs.toNat) (100 : UInt64).toNat - 2 <
        (49999 : UInt64).toNat ∧
      ((49999 : UInt64).toNat : ℚ) ≤ exactPercentMilli (endTicks.toNat - startTicks.toNat)
        (last.elapsedMs.toNat - first.elapsedMs.toNat) (100 : UInt64).toNat := by
  have wrote : halfSecondOfWork.foldlM Entry.write (.started 1 2 100 0) = .ok halfSecondEnd := by
    decide +kernel
  have workers : ∀ record ∈ halfSecondEnd.output, FewWorkers record.outcome.workers := by
    decide +kernel
  have faithful := @compactSerde_faithful halfSecondEnd.output (by decide +kernel)
  have few : (halfSecondOfWork.filterMap Entry.serverTicks).all
      (fun ticks => ticks.toNat * 100000000 ≤ limit) = true := by decide +kernel
  have fit : RatesFit (.started 1 2 100 0) halfSecondOfWork :=
    ratesFit_of_few_ticks _
      (fun ticks member => of_decide_eq_true (List.all_eq_true.mp few ticks member))
  refine reported_cpu_agrees_with_ticks _ wrote (by decide) fit workers faithful 0 49999 ?_
  simp only [TelemetrySummary.fromSamples,
    parseSamples_of_file faithful workers (by decide +kernel)]
  decide +kernel

end SfuLoad.Report
