import SfuLoad.Kit.Json
import SfuLoad.Model.Phase

/-!
# Telemetry records

What the sampler writes, one record a line. The JSON form is the one the record's
serialization attributes ask for: camel-case names, an absent value as null, and
the outcome's own fields beside its status in the record itself.
-/

namespace SfuLoad.Telemetry

open Kit.Json Model

/-- The version of the records' format. -/
def telemetrySchemaVersion : UInt32 := 2

/-- What one reading of a process tells: its processor time, its memory, and when it started,
by which a process is known. -/
structure ProcessSample where
  cpuTicks : UInt64
  rssBytes : UInt64
  startTimeTicks : UInt64
deriving DecidableEq

/-- Packets and payload bytes of one kind of traffic. -/
structure RtpCounters where
  packets : UInt64
  payloadBytes : UInt64
deriving DecidableEq

/-- The traffic counters of the server at one moment. -/
structure TrafficSample where
  ingress : RtpCounters
  egress : RtpCounters
  forwardedLocalRtc : RtpCounters
deriving DecidableEq

/-- The load of one media worker. A worker without traffic has no delay. -/
structure WorkerPressureSample where
  mediaWorkerId : UInt64
  egressBitrateBps : UInt64
  packetLoopDelayMs : Option UInt64
  commandBacklogDepth : UInt64
  relayMailboxDepth : UInt64
  workerPressureScore : UInt8
deriving DecidableEq

/-- What a successful scrape measured. -/
structure Measurement where
  clockTicksPerSecond : UInt64
  serverCpuPercentMilli : Option UInt64
  rtcCpuPercentMilli : Option UInt64
  serverRssBytes : UInt64
  rtcRssBytes : Option UInt64
  server : ProcessSample
  rtc : Option ProcessSample
  traffic : TrafficSample
  workers : List WorkerPressureSample
deriving DecidableEq

/-- What a record carries: a measurement, the failure to get one, or a phase. -/
inductive TelemetryOutcome where
  | sample (measurement : Measurement)
  | error (message : String)
  | phase (phase : ScenarioPhase)
deriving DecidableEq

/-- One line of the sampler's file. -/
structure TelemetryRecord where
  schemaVersion : UInt32
  elapsedMs : UInt64
  scrapeDurationMs : UInt64
  finalSample : Bool
  outcome : TelemetryOutcome
deriving DecidableEq

namespace TelemetryOutcome

/-- The record has a measurement. -/
def isSample : TelemetryOutcome → Bool
  | .sample _ => true
  | _ => false

/-- The record has a failure. -/
def isError : TelemetryOutcome → Bool
  | .error _ => true
  | _ => false

/-- The record marks a phase. -/
def isPhase : TelemetryOutcome → Bool
  | .phase _ => true
  | _ => false

/-- The workers a successful scrape measured. -/
def workers : TelemetryOutcome → List WorkerPressureSample
  | .sample measurement => measurement.workers
  | _ => []

/-- What a scrape wrote is no phase. -/
theorem isPhase_eq_false {outcome : TelemetryOutcome}
    (kind : outcome.isSample = true ∨ outcome.isError = true) : outcome.isPhase = false := by
  cases outcome with
  | phase reached => rcases kind with sampled | failed <;> contradiction
  | _ => rfl

end TelemetryOutcome

/-- The JSON form of a process reading. -/
def ProcessSample.toValue (self : ProcessSample) : Value :=
  .object
    [("cpuTicks", .u64 self.cpuTicks), ("rssBytes", .u64 self.rssBytes),
     ("startTimeTicks", .u64 self.startTimeTicks)]

/-- The JSON form of a pair of counters. -/
def RtpCounters.toValue (self : RtpCounters) : Value :=
  .object [("packets", .u64 self.packets), ("payloadBytes", .u64 self.payloadBytes)]

/-- The JSON form of the traffic. -/
def TrafficSample.toValue (self : TrafficSample) : Value :=
  .object
    [("ingress", self.ingress.toValue), ("egress", self.egress.toValue),
     ("forwardedLocalRtc", self.forwardedLocalRtc.toValue)]

/-- The JSON form of a worker's load. -/
def WorkerPressureSample.toValue (self : WorkerPressureSample) : Value :=
  .object
    [("mediaWorkerId", .u64 self.mediaWorkerId), ("egressBitrateBps", .u64 self.egressBitrateBps),
     ("packetLoopDelayMs", .optional .u64 self.packetLoopDelayMs),
     ("commandBacklogDepth", .u64 self.commandBacklogDepth),
     ("relayMailboxDepth", .u64 self.relayMailboxDepth),
     ("workerPressureScore", .u64 self.workerPressureScore.toUInt64)]

/-- The outcome's status and fields, which the record takes in as its own. -/
def TelemetryOutcome.toFields : TelemetryOutcome → List (String × Value)
  | .sample measurement =>
      [("status", .string "sample"),
       ("clockTicksPerSecond", .u64 measurement.clockTicksPerSecond),
       ("serverCpuPercentMilli", .optional .u64 measurement.serverCpuPercentMilli),
       ("rtcCpuPercentMilli", .optional .u64 measurement.rtcCpuPercentMilli),
       ("serverRssBytes", .u64 measurement.serverRssBytes),
       ("rtcRssBytes", .optional .u64 measurement.rtcRssBytes),
       ("server", measurement.server.toValue),
       ("rtc", .optional ProcessSample.toValue measurement.rtc),
       ("traffic", measurement.traffic.toValue),
       ("workers", .array (measurement.workers.map WorkerPressureSample.toValue))]
  | .error message => [("status", .string "error"), ("message", .string message)]
  | .phase reached => [("status", .string "phase"), ("phase", .string reached.display)]

/-- The JSON form of a record: its own fields, then those of the outcome. -/
def TelemetryRecord.toValue (self : TelemetryRecord) : Value :=
  .object
    ([("schemaVersion", .u64 self.schemaVersion.toUInt64), ("elapsedMs", .u64 self.elapsedMs),
      ("scrapeDurationMs", .u64 self.scrapeDurationMs),
      ("finalSample", .bool self.finalSample)] ++ self.outcome.toFields)

section
variable (record : TelemetryRecord)

/-- Every record has a status, by which the reader tells it from the old format. -/
@[simp] theorem toValue_status : (record.toValue.get "status").isNone = false := by
  cases outcome : record.outcome <;>
    simp [TelemetryRecord.toValue, outcome, TelemetryOutcome.toFields, Value.get]

/-- The time of a record is read back. -/
@[simp] theorem toValue_elapsedMs :
    record.toValue.get "elapsedMs" = some (.u64 record.elapsedMs) := by
  simp [TelemetryRecord.toValue, Value.get]

/-- The length of its scrape is read back. -/
@[simp] theorem toValue_scrapeDurationMs :
    record.toValue.get "scrapeDurationMs" = some (.u64 record.scrapeDurationMs) := by
  simp [TelemetryRecord.toValue, Value.get]

/-- Whether it was the final sample is read back. -/
@[simp] theorem toValue_finalSample :
    record.toValue.get "finalSample" = some (.bool record.finalSample) := by
  simp [TelemetryRecord.toValue, Value.get]

end

end SfuLoad.Telemetry
