import SfuLoad.Model.Phase
import Mathlib.Data.List.Pairwise

/-!
# Telemetry as the reports see it

A sample set is what a telemetry file decodes to: samples, phase markers and what
was lost. A failed scrape keeps its place as a gap that carries no measurement.
-/

namespace SfuLoad.Report

open Model

/-- How many records are read. -/
def maxTelemetrySamples : Nat := 10000

/-- How many errors are kept. -/
def maxTelemetryErrors : Nat := 8

/-- How many workers a sample may have. -/
def maxTelemetryWorkers : Nat := 64

/-- One worker of a sample. -/
structure WorkerTelemetry where
  mediaWorkerId : UInt64
  egressBitrateBps : UInt64
  commandBacklogDepth : UInt64
  relayMailboxDepth : UInt64
  workerPressureScore : UInt8
deriving DecidableEq

/-- One scrape. What it could not tell is missing. -/
structure TelemetrySample where
  elapsedMs : UInt64
  isGap : Bool
  finalSample : Option Bool
  scrapeDurationMs : Option UInt64
  clockTicksPerSecond : Option UInt64
  serverCpuTicks : Option UInt64
  serverStartTimeTicks : Option UInt64
  serverRssBytes : Option UInt64
  rtcCpuTicks : Option UInt64
  rtcRssBytes : Option UInt64
  serverCpuPercentMilli : Option UInt64
  rtcCpuPercentMilli : Option UInt64
  ingressPackets : Option UInt64
  ingressPayloadBytes : Option UInt64
  egressPackets : Option UInt64
  forwardedPackets : Option UInt64
  egressPayloadBytes : Option UInt64
  forwardedPayloadBytes : Option UInt64
  workers : List WorkerTelemetry
  packetLoopDelayMs : Option UInt64
  packetLoopUnresponsive : Bool
deriving DecidableEq

/-- A sample that tells nothing. -/
def TelemetrySample.default : TelemetrySample where
  elapsedMs := 0
  isGap := false
  finalSample := none
  scrapeDurationMs := none
  clockTicksPerSecond := none
  serverCpuTicks := none
  serverStartTimeTicks := none
  serverRssBytes := none
  rtcCpuTicks := none
  rtcRssBytes := none
  serverCpuPercentMilli := none
  rtcCpuPercentMilli := none
  ingressPackets := none
  ingressPayloadBytes := none
  egressPackets := none
  forwardedPackets := none
  egressPayloadBytes := none
  forwardedPayloadBytes := none
  workers := []
  packetLoopDelayMs := none
  packetLoopUnresponsive := false

/-- A gap knows when it was, what scrape it was, and nothing that was measured. -/
def TelemetrySample.gap (elapsedMs : UInt64) (finalSample : Option Bool)
    (scrapeDurationMs : Option UInt64) : TelemetrySample :=
  { TelemetrySample.default with elapsedMs, isGap := true, finalSample, scrapeDurationMs }

/-- When a phase began. -/
structure PhaseMarker where
  elapsedMs : UInt64
  phase : ScenarioPhase
deriving DecidableEq

/-- A telemetry file as it was read. -/
structure SampleSet where
  samples : List TelemetrySample
  phases : List PhaseMarker
  unavailable : Nat
  errors : List String
deriving DecidableEq

/-- What every decoded sample set satisfies: samples and markers in time order,
and gaps without measurements. -/
structure SampleSet.Ordered (set : SampleSet) : Prop where
  samples : set.samples.Pairwise (fun earlier later => earlier.elapsedMs ≤ later.elapsedMs)
  phases : set.phases.Pairwise (fun earlier later => earlier.elapsedMs ≤ later.elapsedMs)
  gaps : ∀ sample ∈ set.samples, sample.isGap = true →
    sample = .gap sample.elapsedMs sample.finalSample sample.scrapeDurationMs

end SfuLoad.Report
