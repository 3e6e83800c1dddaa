import SfuLoad.Kit.Saturating
import SfuLoad.Telemetry.Records

/-!
# The sampler's state

A scrape reads two processes and two HTTP endpoints; what they answer comes from
outside. From the answers the sampler makes a sample or an error, keeps what the
next CPU percentage needs, and writes one record. Whatever a failed capture had
already learned it keeps.
-/

namespace SfuLoad.Telemetry

open Kit.Fallible Kit.Saturating Model

/-- What a scrape's four requests answer. No process sample means it is gone. -/
structure Scrape where
  server : Except String (Option ProcessSample)
  rtc : Except String (Option ProcessSample)
  traffic : Except String TrafficSample
  workers : Except String (List WorkerPressureSample)

/-- A process reading with the time it was taken at. -/
structure TimedProcessSample where
  elapsedMs : UInt64
  process : ProcessSample
deriving DecidableEq

/-- The state of a sampler. The output is the records written so far, and instants
are counted in nanoseconds. The counts never leave the range of their words. -/
structure SamplerState where
  serverPid : UInt32
  rtcPid : UInt32
  clockTicksPerSecond : UInt64
  startedAt : Nat
  serverStartTime : Option UInt64
  rtcStartTime : Option UInt64
  previousServer : Option TimedProcessSample
  previousRtc : Option TimedProcessSample
  sampleCount : Nat
  errorCount : Nat
  errors : List String
  phases : PhaseSequence
  output : List TelemetryRecord
deriving DecidableEq

/-- What the sampler tells the controller in the end. -/
structure TelemetrySummary where
  sampleCount : Nat
  errorCount : Nat
  errors : List String
deriving DecidableEq

/-- Whole milliseconds of a duration, clamped to a word. -/
def millis (duration : Nat) : UInt64 := UInt64.ofNat (min (duration / 1000000) limit)

/-- Whole milliseconds, clamped to a word. -/
theorem millis_toNat (duration : Nat) :
    (millis duration).toNat = min (duration / 1000000) limit := by
  rw [millis, UInt64.toNat_ofNat']
  simp only [limit]
  omega

/-- A later moment has no smaller number of milliseconds. -/
theorem millis_mono {earlier later : Nat} (ordered : earlier ≤ later) :
    millis earlier ≤ millis later := by
  rw [UInt64.le_iff_toNat_le, millis_toNat, millis_toNat]
  have quotients := Nat.div_le_div_right (c := 1000000) ordered
  omega

/-- The start time to expect from now on: the first one seen. -/
def verifyStartTime (expected : Option UInt64) (sample : ProcessSample) (process : String) :
    Except String (Option UInt64) :=
  match expected with
  | some startTime => do
      ensure (sample.startTimeTicks = startTime)
        (s!"{process} PID was reused: expected start time {startTime}, " ++
          s!"got {sample.startTimeTicks}")
      return some startTime
  | none => return some sample.startTimeTicks

/-- CPU use since the previous sample, in thousandths of a percent of one core.
Nothing without a previous sample or over no time; 128 bits hold every product. -/
def cpuPercentMilli (previous : Option TimedProcessSample) (elapsedMs : UInt64)
    (process : ProcessSample) (clockTicksPerSecond : UInt64) : Except String (Option UInt64) :=
  match previous with
  | none => return none
  | some previous => do
      ensure (previous.process.startTimeTicks = process.startTimeTicks)
        "process start time changed while calculating CPU usage"
      let elapsed ← context (checkedSub elapsedMs previous.elapsedMs)
        "telemetry elapsed time moved backwards"
      if elapsed = 0 then return none
      else do
        let cpuTicks ← context (checkedSub process.cpuTicks previous.process.cpuTicks)
          "process CPU ticks moved backwards"
        let numerator := cpuTicks.toNat * 100000000
        let denominator := clockTicksPerSecond.toNat * elapsed.toNat
        ensure (denominator ≠ 0) "process CPU rate has a zero divisor"
        return some (UInt64.ofNat (min (numerator / denominator) limit))

/-- Keep a sample for the next percentage unless no time has passed. -/
def advanceProcessSample (previous : Option TimedProcessSample) (elapsedMs : UInt64)
    (process : ProcessSample) : Option TimedProcessSample :=
  match previous with
  | none => some ⟨elapsedMs, process⟩
  | some kept => if kept.elapsedMs < elapsedMs then some ⟨elapsedMs, process⟩ else some kept

namespace SamplerState

/-- The state when the sampler has started and has recorded nothing. -/
def started (serverPid rtcPid : UInt32) (clockTicksPerSecond : UInt64) (startedAt : Nat) :
    SamplerState where
  serverPid := serverPid
  rtcPid := rtcPid
  clockTicksPerSecond := clockTicksPerSecond
  startedAt := startedAt
  serverStartTime := none
  rtcStartTime := none
  previousServer := none
  previousRtc := none
  sampleCount := 0
  errorCount := 0
  errors := []
  phases := .default
  output := []

/-- The server's sample; a scrape without one fails. -/
def captureServer (self : SamplerState) (scrape : Scrape) :
    Except String (ProcessSample × SamplerState) := do
  let server ← context (← scrape.server) s!"server process {self.serverPid} disappeared"
  let startTime ← verifyStartTime self.serverStartTime server "server"
  return (server, { self with serverStartTime := startTime })

/-- The generator's sample, which only the final scrape may do without. -/
def captureRtc (self : SamplerState) (finalSample : Bool) (scrape : Scrape) :
    Except String (Option ProcessSample × SamplerState) := do
  match ← scrape.rtc with
  | some sample =>
      let startTime ← verifyStartTime self.rtcStartTime sample "RTC generator"
      return (some sample, { self with rtcStartTime := startTime })
  | none =>
      if finalSample then return (none, self)
      else .error s!"RTC generator process {self.rtcPid} disappeared"

/-- The rest of a capture, which changes nothing. -/
def measure (self : SamplerState) (elapsedMs : UInt64) (server : ProcessSample)
    (rtc : Option ProcessSample) (scrape : Scrape) : Except String TelemetryOutcome := do
  let traffic ← scrape.traffic
  let workers ← scrape.workers
  let serverCpuPercentMilli ←
    cpuPercentMilli self.previousServer elapsedMs server self.clockTicksPerSecond
  let rtcCpuPercentMilli ← rtc.elim (.ok none) (fun sample =>
    cpuPercentMilli self.previousRtc elapsedMs sample self.clockTicksPerSecond)
  return .sample
    { clockTicksPerSecond := self.clockTicksPerSecond
      serverCpuPercentMilli := serverCpuPercentMilli
      rtcCpuPercentMilli := rtcCpuPercentMilli
      serverRssBytes := server.rssBytes
      rtcRssBytes := rtc.map ProcessSample.rssBytes
      server := server
      rtc := rtc
      traffic := traffic
      workers := workers }

/-- Keep the processes of a successful capture. -/
def advance (self : SamplerState) (elapsedMs : UInt64) (server : ProcessSample)
    (rtc : Option ProcessSample) : SamplerState :=
  { self with
    previousServer := advanceProcessSample self.previousServer elapsedMs server
    previousRtc := match rtc with
      | some sample => advanceProcessSample self.previousRtc elapsedMs sample
      | none => self.previousRtc }

/-- One capture. A failure keeps the start times verified before it. -/
def capture (self : SamplerState) (finalSample : Bool) (elapsedMs : UInt64) (scrape : Scrape) :
    Except String TelemetryOutcome × SamplerState :=
  match self.captureServer scrape with
  | .error message => (.error message, self)
  | .ok (server, self) =>
    match self.captureRtc finalSample scrape with
    | .error message => (.error message, self)
    | .ok (rtc, self) =>
      match self.measure elapsedMs server rtc scrape with
      | .error message => (.error message, self)
      | .ok outcome => (.ok outcome, self.advance elapsedMs server rtc)

/-- Append a record, unless the file refuses it. -/
def writeRecord (self : SamplerState) (record : TelemetryRecord) (io : Except String Unit) :
    Except String SamplerState := do
  io
  return { self with output := self.output ++ [record] }

/-- The outcome of a capture, counted. -/
def observe (self : SamplerState) (finalSample : Bool) (elapsedMs : UInt64) (scrape : Scrape) :
    TelemetryOutcome × SamplerState :=
  match self.capture finalSample elapsedMs scrape with
  | (.ok outcome, self) => (outcome, { self with sampleCount := self.sampleCount + 1 })
  | (.error message, self) =>
    (.error message,
      { self with errorCount := self.errorCount + 1, errors := self.errors ++ [message] })

/-- The end of one record, once its scrape is through. -/
def record (self : SamplerState) (finalSample : Bool) (elapsedMs scrapeDurationMs : UInt64)
    (scrape : Scrape) (io : Except String Unit) : Except String SamplerState :=
  let observed := self.observe finalSample elapsedMs scrape
  observed.2.writeRecord
    ⟨telemetrySchemaVersion, elapsedMs, scrapeDurationMs, finalSample, observed.1⟩ io

/-- Accepts the phase, if it is the next one, and writes its record. -/
def recordPhase (self : SamplerState) (phase : ScenarioPhase) (elapsedMs : UInt64)
    (io : Except String Unit) : Except String SamplerState := do
  let phases ← self.phases.advance phase
  { self with phases := phases }.writeRecord
    ⟨telemetrySchemaVersion, elapsedMs, 0, false, .phase phase⟩ io

/-- Passes only when every phase has been recorded. -/
def finish (self : SamplerState) : Except String TelemetrySummary := do
  self.phases.finish
  return ⟨self.sampleCount, self.errorCount, self.errors⟩

/-- What a capture leaves alone. -/
structure Kept (before after : SamplerState) : Prop where
  startedAt : after.startedAt = before.startedAt
  sampleCount : after.sampleCount = before.sampleCount
  errorCount : after.errorCount = before.errorCount
  phases : after.phases = before.phases
  output : after.output = before.output

/-- Nothing done, nothing changed. -/
theorem Kept.refl (state : SamplerState) : Kept state state := ⟨rfl, rfl, rfl, rfl, rfl⟩

/-- What two steps keep, both together keep. -/
theorem Kept.trans {first second third : SamplerState} (before : Kept first second)
    (after : Kept second third) : Kept first third :=
  ⟨after.startedAt.trans before.startedAt, after.sampleCount.trans before.sampleCount,
    after.errorCount.trans before.errorCount, after.phases.trans before.phases,
    after.output.trans before.output⟩

/-- Reading the server touches only what is remembered of the processes. -/
theorem captureServer_keeps {self after : SamplerState} {scrape : Scrape} {server : ProcessSample}
    (captured : self.captureServer scrape = .ok (server, after)) : Kept self after := by
  simp only [captureServer, bind_eq_ok] at captured
  obtain ⟨_, _, _, _, _, _, returned⟩ := captured
  obtain ⟨rfl, rfl⟩ := Prod.mk.inj (Except.ok.inj returned)
  exact ⟨rfl, rfl, rfl, rfl, rfl⟩

/-- Reading the worker touches no more. -/
theorem captureRtc_keeps {self after : SamplerState} {finalSample : Bool} {scrape : Scrape}
    {rtc : Option ProcessSample}
    (captured : self.captureRtc finalSample scrape = .ok (rtc, after)) : Kept self after := by
  simp only [captureRtc, bind_eq_ok] at captured
  obtain ⟨found, _, captured⟩ := captured
  cases found with
  | some sample =>
    obtain ⟨_, _, returned⟩ := (bind_eq_ok _ _ _).mp captured
    obtain ⟨rfl, rfl⟩ := Prod.mk.inj (Except.ok.inj returned)
    exact ⟨rfl, rfl, rfl, rfl, rfl⟩
  | none =>
    cases finalSample with
    | true =>
      obtain ⟨rfl, rfl⟩ := Prod.mk.inj (Except.ok.inj captured)
      exact Kept.refl _
    | false => cases captured

/-- A measurement that succeeds is a sample. -/
theorem measure_isSample {self : SamplerState} {elapsedMs : UInt64} {server : ProcessSample}
    {rtc : Option ProcessSample} {scrape : Scrape} {outcome : TelemetryOutcome}
    (measured : self.measure elapsedMs server rtc scrape = .ok outcome) :
    outcome.isSample = true := by
  simp only [measure, bind_eq_ok] at measured
  obtain ⟨_, _, _, _, _, _, _, _, returned⟩ := measured
  rw [← Except.ok.inj returned]
  rfl

/-- A capture leaves the file and the counts alone, and what it makes is a sample. -/
theorem capture_keeps (self : SamplerState) (finalSample : Bool) (elapsedMs : UInt64)
    (scrape : Scrape) : Kept self (self.capture finalSample elapsedMs scrape).2 ∧
      ∀ outcome, (self.capture finalSample elapsedMs scrape).1 = .ok outcome →
        outcome.isSample = true := by
  unfold capture
  cases serverCaptured : self.captureServer scrape with
  | error message => exact ⟨Kept.refl self, fun _ failed => by cases failed⟩
  | ok found =>
    obtain ⟨server, second⟩ := found
    have first := captureServer_keeps serverCaptured
    dsimp only
    cases rtcCaptured : second.captureRtc finalSample scrape with
    | error message => exact ⟨first, fun _ failed => by cases failed⟩
    | ok found =>
      obtain ⟨rtc, third⟩ := found
      have both := first.trans (captureRtc_keeps rtcCaptured)
      dsimp only
      cases measured : third.measure elapsedMs server rtc scrape with
      | error message => exact ⟨both, fun _ failed => by cases failed⟩
      | ok outcome =>
        refine ⟨both.trans ⟨rfl, rfl, rfl, rfl, rfl⟩, fun other same => ?_⟩
        obtain rfl := Except.ok.inj same
        exact measure_isSample measured

/-- An observation is a sample or an error, and is counted as what it is. -/
theorem observe_counts (self : SamplerState) (finalSample : Bool) (elapsedMs : UInt64)
    (scrape : Scrape) :
    let observed := self.observe finalSample elapsedMs scrape
    observed.2.output = self.output ∧ observed.2.startedAt = self.startedAt ∧
    observed.2.phases = self.phases ∧
    ((observed.1.isSample = true ∧ observed.2.sampleCount = self.sampleCount + 1 ∧
        observed.2.errorCount = self.errorCount) ∨
      (observed.1.isError = true ∧ observed.2.sampleCount = self.sampleCount ∧
        observed.2.errorCount = self.errorCount + 1)) := by
  obtain ⟨kept, sampled⟩ := capture_keeps self finalSample elapsedMs scrape
  unfold observe
  generalize self.capture finalSample elapsedMs scrape = captured at kept sampled
  obtain ⟨result, middle⟩ := captured
  cases result with
  | ok outcome =>
    exact ⟨kept.output, kept.startedAt, kept.phases,
      Or.inl ⟨sampled outcome rfl, congrArg (· + 1) kept.sampleCount, kept.errorCount⟩⟩
  | error message =>
    exact ⟨kept.output, kept.startedAt, kept.phases,
      Or.inr ⟨rfl, kept.sampleCount, congrArg (· + 1) kept.errorCount⟩⟩

/-- A record that was written is the last line of the output, and all else is as it was. -/
theorem writeRecord_eq_ok {self after : SamplerState} {line : TelemetryRecord}
    {io : Except String Unit} (written : self.writeRecord line io = .ok after) :
    after = { self with output := self.output ++ [line] } := by
  obtain ⟨_, _, returned⟩ := (bind_eq_ok _ _ _).mp written
  exact (Except.ok.inj returned).symm

/-- A completed record adds one line, a sample or an error, and counts it. -/
theorem record_eq_ok {self after : SamplerState} {finalSample : Bool}
    {elapsedMs scrapeDurationMs : UInt64} {scrape : Scrape} {io : Except String Unit}
    (recorded : self.record finalSample elapsedMs scrapeDurationMs scrape io = .ok after) :
    ∃ outcome : TelemetryOutcome,
      after.output = self.output ++
        [⟨telemetrySchemaVersion, elapsedMs, scrapeDurationMs, finalSample, outcome⟩] ∧
      after.startedAt = self.startedAt ∧ after.phases = self.phases ∧
      ((outcome.isSample = true ∧ after.sampleCount = self.sampleCount + 1 ∧
          after.errorCount = self.errorCount) ∨
        (outcome.isError = true ∧ after.sampleCount = self.sampleCount ∧
          after.errorCount = self.errorCount + 1)) := by
  obtain ⟨output, startedAt, phases, counted⟩ := observe_counts self finalSample elapsedMs scrape
  obtain rfl := writeRecord_eq_ok recorded
  exact ⟨_, by rw [output], startedAt, phases, counted⟩

/-- A completed phase record is the next phase's, and adds its line. -/
theorem recordPhase_eq_ok {self after : SamplerState} {phase : ScenarioPhase} {elapsedMs : UInt64}
    {io : Except String Unit} (recorded : self.recordPhase phase elapsedMs io = .ok after) :
    self.phases.count = phase.ordinal ∧ after =
      { self with
        phases := ⟨self.phases.count + 1⟩
        output := self.output ++ [⟨telemetrySchemaVersion, elapsedMs, 0, false, .phase phase⟩] } := by
  obtain ⟨_, advanced, written⟩ := (bind_eq_ok _ _ _).mp recorded
  obtain ⟨counted, rfl⟩ := (PhaseSequence.advance_eq_ok _ _ _).mp advanced
  exact ⟨counted, writeRecord_eq_ok written⟩

/-- A sampler that finishes has seen every phase, and its summary has its counts. -/
theorem finish_eq_ok {self : SamplerState} {summary : TelemetrySummary}
    (finished : self.finish = .ok summary) : self.phases.count = ScenarioPhase.count ∧
      summary = ⟨self.sampleCount, self.errorCount, self.errors⟩ := by
  simp only [finish, PhaseSequence.finish, bind_eq_ok, ensure_eq_ok] at finished
  obtain ⟨_, complete, returned⟩ := finished
  exact ⟨complete, (Except.ok.inj returned).symm⟩

end SamplerState

end SfuLoad.Telemetry
