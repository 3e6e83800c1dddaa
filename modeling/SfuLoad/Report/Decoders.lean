import SfuLoad.Report.Parse

/-!
# Two decoders of one sample

Current records are decoded by their type, records of the older schema field by
field from their JSON. On what the sampler writes the two agree: the older schema
is the current one without its status.
-/

namespace SfuLoad.Report

open Kit.Json Telemetry

namespace WorkerTelemetry

/-- A worker's JSON decodes to what its type gives. -/
theorem fromValue_toValue (worker : WorkerPressureSample) :
    fromValue worker.toValue = some (.fromSample worker) := by
  have score : worker.workerPressureScore.toNat < 256 := worker.workerPressureScore.toNat_lt
  simp [fromValue, WorkerPressureSample.toValue, Value.getU64, Value.get, fromSample, score]

/-- Both validators look at the same workers. -/
theorem fromValues_toValues (workers : List WorkerPressureSample) :
    fromValues (workers.map WorkerPressureSample.toValue) = fromCurrent workers := by
  have each : (workers.map WorkerPressureSample.toValue).mapM fromValue =
      some (workers.map fromSample) := by
    induction workers with
    | nil => rfl
    | cons worker rest inductionHypothesis =>
      rw [List.map_cons, List.mapM_cons, fromValue_toValue, inductionHypothesis]
      rfl
  rw [fromValues, fromCurrent, List.length_map, each]
  rfl

/-- The older decoder finds a worker's delay in what the sampler writes. -/
@[simp] theorem get_packetLoopDelay (worker : WorkerPressureSample) :
    worker.toValue.get "packetLoopDelayMs" = some (.optional .u64 worker.packetLoopDelayMs) := by
  simp [WorkerPressureSample.toValue, Value.get]

end WorkerTelemetry

section
variable (process : ProcessSample) (counters : RtpCounters) (traffic : TrafficSample)

/-- It finds the CPU time of a process. -/
@[simp] theorem get_cpuTicks : process.toValue.get "cpuTicks" = some (.u64 process.cpuTicks) := by
  simp [ProcessSample.toValue, Value.get]

/-- It finds the memory of a process. -/
@[simp] theorem get_rssBytes : process.toValue.get "rssBytes" = some (.u64 process.rssBytes) := by
  simp [ProcessSample.toValue, Value.get]

/-- It finds when a process started. -/
@[simp] theorem get_startTimeTicks :
    process.toValue.get "startTimeTicks" = some (.u64 process.startTimeTicks) := by
  simp [ProcessSample.toValue, Value.get]

/-- It finds the packets of a counter. -/
@[simp] theorem get_packets : counters.toValue.get "packets" = some (.u64 counters.packets) := by
  simp [RtpCounters.toValue, Value.get]

/-- It finds the payload of a counter. -/
@[simp] theorem get_payloadBytes :
    counters.toValue.get "payloadBytes" = some (.u64 counters.payloadBytes) := by
  simp [RtpCounters.toValue, Value.get]

/-- It finds the traffic that came in. -/
@[simp] theorem get_ingress : traffic.toValue.get "ingress" = some traffic.ingress.toValue := by
  simp [TrafficSample.toValue, Value.get]

/-- It finds the traffic that went out. -/
@[simp] theorem get_egress : traffic.toValue.get "egress" = some traffic.egress.toValue := by
  simp [TrafficSample.toValue, Value.get]

/-- It finds the traffic that was forwarded. -/
@[simp] theorem get_forwardedLocalRtc :
    traffic.toValue.get "forwardedLocalRtc" = some traffic.forwardedLocalRtc.toValue := by
  simp [TrafficSample.toValue, Value.get]

end

/-- The fields of a record's JSON object. -/
def recordFields (record : TelemetryRecord) : List (String × Value) :=
  [("schemaVersion", .u64 record.schemaVersion.toUInt64), ("elapsedMs", .u64 record.elapsedMs),
    ("scrapeDurationMs", .u64 record.scrapeDurationMs),
    ("finalSample", .bool record.finalSample)] ++ record.outcome.toFields

section
variable {record : TelemetryRecord} {measurement : Measurement}
  (sampled : record.outcome = .sample measurement)
include sampled

/-- Every field of a sample, but for the status, is found by its name. -/
theorem sample_fields : ∀ field ∈ recordFields record, field.1 ≠ "status" →
    (record.toValue.without "status").get field.1 = some field.2 := by
  intro field listed apart
  rw [Value.get_without apart]
  refine Value.get_of_mem ?_ listed
  simp [sampled, TelemetryOutcome.toFields]

/-- The decoder of the older schema reads a sampled record as the typed one does.
The resident sizes it falls back to are those of the processes. -/
theorem decoders_agree (server : measurement.serverRssBytes = measurement.server.rssBytes)
    (rtc : measurement.rtcRssBytes = measurement.rtc.map ProcessSample.rssBytes) :
    TelemetrySample.fromValue (record.toValue.without "status") =
      TelemetrySample.fromCurrent record.elapsedMs record.scrapeDurationMs
        (record.toValue.getBool "finalSample") measurement := by
  have fields := sample_fields sampled
  simp only [recordFields, sampled, TelemetryOutcome.toFields, List.forall_mem_append,
    List.forall_mem_cons, ne_eq, not_true_eq_false, false_implies, true_and, String.reduceEq,
    not_false_eq_true, true_implies] at fields
  obtain ⟨⟨_, elapsedMs, scrapeDurationMs, finalSample, _⟩, clockTicks, serverPercent, rtcPercent,
    serverRss, rtcRss, serverSample, rtcSample, traffic, workers, _⟩ := fields
  have same : record.toValue.getBool "finalSample" = some record.finalSample := by
    simp [Value.getBool]
  rw [same]
  simp only [TelemetrySample.fromValue, TelemetrySample.fromCurrent, WorkerTelemetry.listed,
    nestedU64, trafficU64, Value.getBool, Value.getU64, elapsedMs, scrapeDurationMs, finalSample,
    clockTicks, serverPercent, rtcPercent, serverRss, rtcRss, serverSample, rtcSample, traffic,
    workers, Value.asArray, Option.bind_some, Option.getD_some, Value.asU64_u64,
    Value.asU64_optional, WorkerTelemetry.fromValues_toValues, List.any_map, List.filterMap_map,
    Function.comp_def, Option.any_some, Value.isNull_optional, Value.get_optional, Value.asBool_bool,
    get_cpuTicks, get_rssBytes, get_startTimeTicks, get_packets, get_payloadBytes, get_ingress,
    get_egress, get_forwardedLocalRtc, WorkerTelemetry.get_packetLoopDelay]
  -- what is left differs in the resident sizes and in the test for any measurement
  cases WorkerTelemetry.fromCurrent measurement.workers with
  | none => rfl
  | some decoded =>
    cases generator : measurement.rtc <;> simp [TelemetrySample.usable, server, rtc, generator]

end

/-- A scrape without a generator and with one worker that does not respond. -/
def silentWorker : TelemetryRecord where
  schemaVersion := 2
  elapsedMs := 1500
  scrapeDurationMs := 7
  finalSample := false
  outcome := .sample
    { clockTicksPerSecond := 100
      serverCpuPercentMilli := none
      rtcCpuPercentMilli := none
      serverRssBytes := 4096
      rtcRssBytes := none
      server := ⟨20, 4096, 900⟩
      rtc := none
      traffic := ⟨⟨1, 80⟩, ⟨3, 240⟩, ⟨3, 240⟩⟩
      workers := [⟨0, 1000, some 12, 0, 0, 5⟩, ⟨1, 2000, none, 4, 1, 200⟩] }

/-- A record with a worker whose packet loop did not answer. -/
theorem silentWorker_decoded : ∃ sample,
    TelemetrySample.fromValue (silentWorker.toValue.without "status") = some sample ∧
      sample.workers.length = 2 ∧ sample.packetLoopUnresponsive = true ∧
      sample.packetLoopDelayMs = none := by
  refine ⟨_, (@decoders_agree silentWorker _ rfl rfl rfl).trans rfl, rfl, rfl, rfl⟩

end SfuLoad.Report
