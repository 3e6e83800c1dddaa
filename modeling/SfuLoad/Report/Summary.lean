import SfuLoad.Kit.Saturating
import SfuLoad.Report.Parse

/-!
# What a report says of a run's telemetry

A summary is made from the samples as they were read: peaks over all of them, and
rates over the whole window, which a run only has when it opens and closes with a
successful scrape. Averages of percentages are weighted by the time since the
previous successful scrape. Products of two 64-bit words fit 128 bits, so the
quotients here are exact before they are narrowed.
-/

namespace SfuLoad.Report

open Kit.Saturating

/-- The largest 128-bit word. -/
def wideLimit : Nat := 2 ^ 128 - 1

/-- A 128-bit value, if it fits 64 bits. -/
def narrowed (value : Nat) : Option UInt64 :=
  if value ≤ limit then some (UInt64.ofNat value) else none

/-- What the weighted sum knows after some samples. -/
structure Weighing where
  previousElapsedMs : UInt64
  weightedSum : Nat
  totalWeight : Nat
deriving DecidableEq

/-- One sample's value, weighted by the time since the last successful sample. A
gap is passed over, and a sample over no time only moves the clock. -/
def weigh (value : TelemetrySample → Option UInt64) (weighing : Weighing)
    (sample : TelemetrySample) : Option Weighing :=
  if sample.isGap then some weighing
  else do
    let weight ← checkedSub sample.elapsedMs weighing.previousElapsedMs
    let counted := (value sample).filter (fun _ => 0 < weight)
    return {
      previousElapsedMs := sample.elapsedMs
      weightedSum := counted.elim weighing.weightedSum (fun value =>
        min (weighing.weightedSum + value.toNat * weight.toNat) wideLimit)
      totalWeight := counted.elim weighing.totalWeight (fun _ =>
        min (weighing.totalWeight + weight.toNat) wideLimit) }

/-- The average over the whole window, if values cover all of it. -/
def wholeWindowAverage (samples : List TelemetrySample)
    (initialUsable finalUsable : TelemetrySample → Bool)
    (value : TelemetrySample → Option UInt64) : Option UInt64 := do
  let (initial, finalSample) ← wholeWindowEndpoints samples
  if !initialUsable initial || !finalUsable finalSample then none
  else do
    let elapsedMs ← checkedSub finalSample.elapsedMs initial.elapsedMs
    let weighed ← (samples.drop 1).foldlM (weigh value) ⟨initial.elapsedMs, 0, 0⟩
    if weighed.totalWeight = elapsedMs.toNat then
      narrowed (weighed.weightedSum / weighed.totalWeight)
    else none

/-- A sample with everything a tick count needs. -/
def ticksUsable (sample : TelemetrySample) : Bool :=
  sample.serverCpuTicks.isSome && sample.serverStartTimeTicks.isSome &&
    sample.clockTicksPerSecond.isSome

/-- The server's ticks over the whole window, of one process at one clock rate. -/
def serverCpuTicks (samples : List TelemetrySample) : Option (UInt64 × UInt64) := do
  let (initial, finalSample) ← wholeWindowEndpoints samples
  if !ticksUsable initial || !ticksUsable finalSample then none
  else do
    let initialTicks ← initial.serverCpuTicks
    let startTime ← initial.serverStartTimeTicks
    let ticksPerSecond ← initial.clockTicksPerSecond
    let finalStartTime ← finalSample.serverStartTimeTicks
    let finalTicksPerSecond ← finalSample.clockTicksPerSecond
    if finalStartTime ≠ startTime ∨ finalTicksPerSecond ≠ ticksPerSecond ∨ ticksPerSecond = 0 then
      none
    else do
      let finalTicks ← finalSample.serverCpuTicks
      let delta ← checkedSub finalTicks initialTicks
      if 0 < delta then some (delta, ticksPerSecond) else none

/-- The processor time of a million deliveries, if it can be told. -/
def cpuMicrosPerMillion (ticks ticksPerSecond deliveredPackets : UInt64) : Option UInt64 :=
  if ticksPerSecond = 0 ∨ deliveredPackets = 0 then none
  else narrowed (ticks.toNat * 1000000000000 / (ticksPerSecond.toNat * deliveredPackets.toNat))

/-- A counter's growth over the whole window, for each of its milliseconds. -/
def counterRate (samples : List TelemetrySample) (value : TelemetrySample → Option UInt64)
    (scale : UInt64) : Option UInt64 := do
  let (initial, finalSample) ← wholeWindowEndpoints samples
  let elapsedMs ← checkedSub finalSample.elapsedMs initial.elapsedMs
  let finalValue ← value finalSample
  let initialValue ← value initial
  let delta ← checkedSub finalValue initialValue
  return UInt64.ofNat (min (delta.toNat * scale.toNat / elapsedMs.toNat) limit)

/-- What a report says of a run's telemetry. -/
structure TelemetrySummary where
  samples : Nat
  unavailable : Nat
  elapsedMs : Option UInt64
  serverTicksObserved : Bool
  rtcTicksObserved : Bool
  serverCpuPercentMilli : Option UInt64
  serverCpuPeakPercentMilli : Option UInt64
  serverRssBytes : Option UInt64
  rtcCpuPercentMilli : Option UInt64
  rtcRssBytes : Option UInt64
  deliveriesPerServerCpuSecond : Option UInt64
  serverCpuMicrosPerMillionDeliveries : Option UInt64
  forwardedPacketsPerSecond : Option UInt64
  egressPayloadBitsPerSecond : Option UInt64
  packetLoopDelayMs : Option UInt64
  packetLoopUnresponsiveSamples : Nat
deriving DecidableEq

namespace TelemetrySummary

/-- The summary of a run without telemetry. -/
def absent : TelemetrySummary where
  samples := 0
  unavailable := 0
  elapsedMs := none
  serverTicksObserved := false
  rtcTicksObserved := false
  serverCpuPercentMilli := none
  serverCpuPeakPercentMilli := none
  serverRssBytes := none
  rtcCpuPercentMilli := none
  rtcRssBytes := none
  deliveriesPerServerCpuSecond := none
  serverCpuMicrosPerMillionDeliveries := none
  forwardedPacketsPerSecond := none
  egressPayloadBitsPerSecond := none
  packetLoopDelayMs := none
  packetLoopUnresponsiveSamples := 0

/-- The server's average percentage; its last sample must bring one. -/
def serverCpuAverage (samples : List TelemetrySample) : Option UInt64 :=
  wholeWindowAverage samples (fun sample => sample.serverCpuTicks.isSome)
    (fun sample => sample.serverCpuTicks.isSome && sample.serverCpuPercentMilli.isSome)
    TelemetrySample.serverCpuPercentMilli

/-- The generator's average percentage. -/
def rtcCpuAverage (samples : List TelemetrySample) : Option UInt64 :=
  wholeWindowAverage samples (fun sample => sample.rtcCpuTicks.isSome)
    (fun sample => sample.rtcCpuTicks.isSome && sample.rtcCpuPercentMilli.isSome)
    TelemetrySample.rtcCpuPercentMilli

/-- Deliveries for each second of the server's processor time. -/
def deliveriesPerSecond (deliveredPackets : UInt64) (ticks : UInt64 × UInt64) : UInt64 :=
  UInt64.ofNat (min (deliveredPackets.toNat * ticks.2.toNat / ticks.1.toNat) limit)

/-- The summary of a run, which may have no telemetry at all. -/
def fromSamples (sampleSet : Option SampleSet) (deliveredPackets : UInt64) : TelemetrySummary :=
  match sampleSet with
  | none => absent
  | some sampleSet =>
    let samples := sampleSet.samples
    let ticks := serverCpuTicks samples
    { samples := samples.countP (fun sample => !sample.isGap)
      unavailable := sampleSet.unavailable
      elapsedMs := samples.getLast?.map TelemetrySample.elapsedMs
      serverTicksObserved := samples.any (fun sample => sample.serverCpuTicks.isSome)
      rtcTicksObserved := samples.any (fun sample => sample.rtcCpuTicks.isSome)
      serverCpuPercentMilli := serverCpuAverage samples
      serverCpuPeakPercentMilli := (samples.filterMap TelemetrySample.serverCpuPercentMilli).max?
      serverRssBytes := (samples.filterMap TelemetrySample.serverRssBytes).max?
      rtcCpuPercentMilli := rtcCpuAverage samples
      rtcRssBytes := (samples.filterMap TelemetrySample.rtcRssBytes).max?
      deliveriesPerServerCpuSecond := ticks.map (deliveriesPerSecond deliveredPackets)
      serverCpuMicrosPerMillionDeliveries := ticks.bind (fun (ticks, ticksPerSecond) =>
        cpuMicrosPerMillion ticks ticksPerSecond deliveredPackets)
      forwardedPacketsPerSecond := counterRate samples TelemetrySample.forwardedPackets 1000
      egressPayloadBitsPerSecond := counterRate samples TelemetrySample.egressPayloadBytes 8000
      packetLoopDelayMs := (samples.filterMap TelemetrySample.packetLoopDelayMs).max?
      packetLoopUnresponsiveSamples := samples.countP TelemetrySample.packetLoopUnresponsive }

end TelemetrySummary

/-- A quotient is narrowed when its word holds it. -/
theorem narrowed_eq_some {value : Nat} {word : UInt64} :
    narrowed value = some word ↔ value = word.toNat := by
  rw [narrowed, Option.ite_none_right_eq_some, Option.some_inj]
  constructor
  · rintro ⟨fits, rfl⟩
    exact (toNat_ofNat_of_fits fits).symm
  · rintro rfl
    exact ⟨toNat_le_limit word, UInt64.ofNat_toNat⟩

/-- Weighing a gap changes nothing. -/
theorem weigh_gap {value : TelemetrySample → Option UInt64} {weighing : Weighing}
    {sample : TelemetrySample} (gap : sample.isGap = true) :
    weigh value weighing sample = some weighing := by
  rw [weigh, if_pos gap]

/-- Weighing a sample without a value only moves the clock. -/
theorem weigh_none {value : TelemetrySample → Option UInt64} {weighing : Weighing}
    {sample : TelemetrySample} (successful : sample.isGap = false)
    (onward : weighing.previousElapsedMs ≤ sample.elapsedMs) (missing : value sample = none) :
    weigh value weighing sample =
      some { weighing with previousElapsedMs := sample.elapsedMs } := by
  simp [weigh, successful, checkedSub, onward, missing]

/-- Weighing a sample over no time changes nothing. -/
theorem weigh_still {value : TelemetrySample → Option UInt64} {weighing : Weighing}
    {sample : TelemetrySample} (successful : sample.isGap = false)
    (still : sample.elapsedMs = weighing.previousElapsedMs) :
    weigh value weighing sample = some weighing := by
  simp [weigh, successful, checkedSub, still]

/-- Weighing a value adds it, as often as milliseconds have passed. -/
theorem weigh_some {value : TelemetrySample → Option UInt64} {weighing : Weighing}
    {sample : TelemetrySample} {amount : UInt64} (successful : sample.isGap = false)
    (onward : weighing.previousElapsedMs < sample.elapsedMs) (present : value sample = some amount) :
    weigh value weighing sample = some
      ⟨sample.elapsedMs,
        min (weighing.weightedSum + amount.toNat *
          (sample.elapsedMs.toNat - weighing.previousElapsedMs.toNat)) wideLimit,
        min (weighing.totalWeight +
          (sample.elapsedMs.toNat - weighing.previousElapsedMs.toNat)) wideLimit⟩ := by
  have least := UInt64.le_of_lt onward
  have positive : 0 < sample.elapsedMs - weighing.previousElapsedMs := by
    rw [UInt64.lt_iff_toNat_lt, UInt64.toNat_sub_of_le _ _ least, UInt64.toNat_zero]
    rw [UInt64.lt_iff_toNat_lt] at onward
    omega
  simp [weigh, successful, checkedSub, least, present, Option.filter_some, positive,
    UInt64.toNat_sub_of_le _ _ least]

/-- Both ends of a whole window. -/
theorem wholeWindowEndpoints_eq_some {samples : List TelemetrySample}
    {initial final : TelemetrySample} :
    wholeWindowEndpoints samples = some (initial, final) ↔
      samples.head? = some initial ∧ initial.isGap = false ∧ initial.finalSample = some false ∧
        samples.getLast? = some final ∧ final.isGap = false ∧ final.finalSample = some true ∧
        initial.elapsedMs < final.elapsedMs := by
  simp only [wholeWindowEndpoints, Option.bind_eq_bind, Option.bind_eq_some_iff,
    Option.ite_none_right_eq_some, Option.some.injEq, Prod.mk.injEq, Bool.and_eq_true,
    Bool.not_eq_true', decide_eq_true_eq]
  constructor
  · rintro ⟨_, opening, _, closing, ⟨⟨⟨⟨first, opened⟩, last⟩, closed⟩, later⟩, rfl, rfl⟩
    exact ⟨opening, first, opened, closing, last, closed, later⟩
  · rintro ⟨opening, first, opened, closing, last, closed, later⟩
    exact ⟨initial, opening, final, closing, ⟨⟨⟨⟨first, opened⟩, last⟩, closed⟩, later⟩, rfl, rfl⟩

/-- An average comes from a whole window whose every interval was weighed. -/
theorem wholeWindowAverage_eq_some {samples : List TelemetrySample}
    {initialUsable finalUsable : TelemetrySample → Bool}
    {value : TelemetrySample → Option UInt64} {average : UInt64} :
    wholeWindowAverage samples initialUsable finalUsable value = some average ↔
      ∃ initial final weighed, wholeWindowEndpoints samples = some (initial, final) ∧
        initialUsable initial = true ∧ finalUsable final = true ∧
        (samples.drop 1).foldlM (weigh value) ⟨initial.elapsedMs, 0, 0⟩ = some weighed ∧
        initial.elapsedMs ≤ final.elapsedMs ∧
        weighed.totalWeight = final.elapsedMs.toNat - initial.elapsedMs.toNat ∧
        weighed.weightedSum / weighed.totalWeight = average.toNat := by
  simp only [wholeWindowAverage, Option.bind_eq_bind, Option.bind_eq_some_iff, Prod.exists]
  constructor
  · rintro ⟨initial, final, ends, averaged⟩
    split at averaged
    · cases averaged
    · next usable =>
      simp only [Bool.or_eq_true, Bool.not_eq_true', not_or, Bool.not_eq_false] at usable
      obtain ⟨elapsedMs, passed, averaged⟩ := Option.bind_eq_some_iff.mp averaged
      obtain ⟨weighed, folded, averaged⟩ := Option.bind_eq_some_iff.mp averaged
      obtain ⟨covered, averaged⟩ := Option.ite_none_right_eq_some.mp averaged
      obtain ⟨onward, subtracted⟩ := Option.ite_none_right_eq_some.mp passed
      refine ⟨initial, final, weighed, ends, usable.1, usable.2, folded, onward, ?_,
        narrowed_eq_some.mp averaged⟩
      rw [covered, ← Option.some.inj subtracted, UInt64.toNat_sub_of_le _ _ onward]
  · rintro ⟨initial, final, weighed, ends, initialFit, finalFit, folded, onward, covered, quotient⟩
    refine ⟨initial, final, ends, ?_⟩
    have elapsed : (final.elapsedMs - initial.elapsedMs).toNat = weighed.totalWeight := by
      rw [covered, UInt64.toNat_sub_of_le _ _ onward]
    rw [List.drop_one] at folded
    simp [initialFit, finalFit, checkedSub, onward, folded, elapsed,
      narrowed_eq_some.mpr quotient]

end SfuLoad.Report
