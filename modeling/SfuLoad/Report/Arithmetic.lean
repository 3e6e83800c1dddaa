import SfuLoad.Kit.Checked
import SfuLoad.Report.Dashboard
import SfuLoad.Report.Verdict

/-!
# The arithmetic below a report, operation by operation

Sorting and rendering compute with words of 32, 64 and 128 bits, some of them
straight from a decoded file. Here the functions they call are written with the
machine's operations. All but one return what the plain functions say in every
build: the smoke's `receivers + 1` does not fit for the largest word.
-/

namespace SfuLoad.Report.Arithmetic

open Kit.Checked Kit.Saturating Model
open Kit.Fallible (bind_eq_ok ok_bind)

section Operations

variable (mode : Mode)

/-- The peers of a room. A smoke has one publisher beside its receivers, and this addition is
the one that can fail. -/
def peersPerRoom : ScenarioSpec → Machine UInt32
  | .smoke receivers _ => return UInt32.ofNat (← add mode u32 receivers.toNat 1)
  | .audioMesh _ peers _ => return peers
  | .videoGallery _ peers _ _ => return peers
  | .mixedConference _ peers _ _ _ => return peers

/-- The seconds a scenario lasts, a smoke's from its packets, rounded up. -/
def durationSeconds : ScenarioSpec → Machine UInt32
  | .smoke _ packets =>
      return UInt32.ofNat (← divCeil packets.toNat audioPacketsPerSecond.toNat)
  | .audioMesh _ _ seconds => return seconds
  | .videoGallery _ _ _ seconds => return seconds
  | .mixedConference _ _ _ _ seconds => return seconds

/-- The packets of each layer: a frame has more of them when it is a keyframe. -/
def videoPacketsPerLayer (seconds : UInt32) : Machine (Except String (UInt64 × UInt64)) :=
  match Model.checkedMul seconds.toUInt64 videoFramesPerSecond.toUInt64 with
  | .error message => return .error message
  | .ok frames => do
      let keyframes ← divCeil frames.toNat videoKeyframeInterval.toNat
      let deltas ← sub mode u64 frames.toNat keyframes
      return do
        let lowPackets ← Model.checkedAdd
          (← Model.checkedMul (UInt64.ofNat deltas) videoLowDeltaPackets)
          (← Model.checkedMul (UInt64.ofNat keyframes) videoLowKeyframePackets)
        let highPackets ← Model.checkedAdd
          (← Model.checkedMul (UInt64.ofNat deltas) videoHighDeltaPackets)
          (← Model.checkedMul (UInt64.ofNat keyframes) videoHighKeyframePackets)
        return (lowPackets, highPackets)

/-- A plan checks its own operations, all but those that count video frames. -/
def plan (spec : ScenarioSpec) : Machine (Except String WorkloadPlan) := do
  match spec with
  | .smoke _ _ => pure ()
  | .audioMesh _ _ _ => pure ()
  | .videoGallery _ _ _ seconds => let _ ← videoPacketsPerLayer mode seconds
  | .mixedConference _ _ _ _ seconds => let _ ← videoPacketsPerLayer mode seconds
  return spec.plan

/-- The key that runs are sorted by; it asks for the peers of a room. -/
def scenarioKey (spec : ScenarioSpec) : Machine ScenarioKey := do
  let rank : UInt8 := match spec with
    | .smoke _ _ => 0
    | .audioMesh _ _ _ => 1
    | .videoGallery _ _ _ _ => 2
    | .mixedConference _ _ _ _ _ => 3
  let duration := max (← durationSeconds spec).toUInt64 1
  let expectedDeliveries := match ← plan mode spec with
    | .ok plan => plan.expectedDeliveries
    | .error _ => 0
  let deliveriesPerSecond ← div expectedDeliveries.toNat duration.toNat
  return (rank, UInt64.ofNat deliveriesPerSecond, expectedDeliveries, spec.roomCount,
    ← peersPerRoom mode spec, spec.audioPublishersPerRoom, spec.videoPublishersPerRoom,
    ← durationSeconds spec)

/-- Validation plans the scenario, and counts the peers of one that is valid. -/
def validateRun (run : RunData) : Machine (Except String Unit) := do
  let _ ← plan mode run.result.scenario
  if run.result.scenario.validate.isOk then
    let _ ← peersPerRoom mode run.result.scenario
  return Report.validateRun run

/-- Whether a run's results are those of its plan. -/
def runPassed (run : RunData) : Machine Bool :=
  return (← validateRun mode run).isOk

/-- The verdict over all runs and failures. -/
def exactStatus (runs : List RunData) (failures : List LoadFailure) : Machine String :=
  if runs.isEmpty && failures.isEmpty then return "n/a"
  else do
    let passed ← runs.mapM (runPassed mode)
    return if failures.isEmpty && passed.all id then "PASS" else "FAIL"

/-- The product saturates and the quotient is checked. -/
def achievedDeliveriesPerSecond (result : ScenarioResult) : UInt64 :=
  let scaled := min (result.deliveredPackets.toNat * 1000) wideLimit
  clamped (scaled / (max result.elapsedMs 1).toNat)

/-- The rate of some bytes over some time, in words of 128 bits and clamped. -/
def payloadBitsPerSecond (bytes elapsedMs : UInt64) : Machine UInt64 :=
  if elapsedMs = 0 then return 0
  else return clamped (← div (← mul mode u128 bytes.toNat 8000) elapsedMs.toNat)

/-- The planned time of a scenario. -/
def plannedDurationMs : ScenarioSpec → Machine UInt64
  | .smoke _ packets => do
      let scaled ← mul mode u64 packets.toNat 1000
      return UInt64.ofNat (← div scaled audioPacketsPerSecond.toNat)
  | .audioMesh _ _ seconds => return UInt64.ofNat (← mul mode u64 seconds.toNat 1000)
  | .videoGallery _ _ _ seconds => return UInt64.ofNat (← mul mode u64 seconds.toNat 1000)
  | .mixedConference _ _ _ _ seconds => return UInt64.ofNat (← mul mode u64 seconds.toNat 1000)

/-- The rate that the plan offers. -/
def scheduledPayloadBitsPerSecond (result : ScenarioResult) : Machine UInt64 := do
  payloadBitsPerSecond mode result.plan.offeredPayloadBytes
    (← plannedDurationMs mode result.scenario)

/-- The rate that was delivered. -/
def deliveredPayloadBitsPerSecond (result : ScenarioResult) : Machine UInt64 :=
  payloadBitsPerSecond mode result.deliveredPayloadBytes result.elapsedMs

/-- One sample of a weighted average; a time that runs backwards makes it unavailable. -/
def weigh (value : TelemetrySample → Option UInt64) (weighing : Weighing)
    (sample : TelemetrySample) : Machine (Option Weighing) :=
  if sample.isGap then return some weighing
  else match checkedSub sample.elapsedMs weighing.previousElapsedMs with
  | none => return none
  | some weight =>
    match (value sample).filter (fun _ => 0 < weight) with
    | none => return some { weighing with previousElapsedMs := sample.elapsedMs }
    | some value => do
        let weighted ← mul mode u128 value.toNat weight.toNat
        return some {
          previousElapsedMs := sample.elapsedMs
          weightedSum := min (weighing.weightedSum + weighted) wideLimit
          totalWeight := min (weighing.totalWeight + weight.toNat) wideLimit }

/-- The samples of a weighted average, one after another. -/
def weighAll (value : TelemetrySample → Option UInt64) :
    Weighing → List TelemetrySample → Machine (Option Weighing)
  | weighing, [] => return some weighing
  | weighing, sample :: rest => do
      match ← weigh mode value weighing sample with
      | none => return none
      | some next => weighAll value next rest

/-- An average over the whole window, weighted by time. -/
def wholeWindowAverage (samples : List TelemetrySample)
    (initialUsable finalUsable : TelemetrySample → Bool)
    (value : TelemetrySample → Option UInt64) : Machine (Option UInt64) :=
  match wholeWindowEndpoints samples with
  | none => return none
  | some (initial, finalSample) =>
    if !initialUsable initial || !finalUsable finalSample then return none
    else match checkedSub finalSample.elapsedMs initial.elapsedMs with
    | none => return none
    | some elapsedMs => do
        match ← weighAll mode value ⟨initial.elapsedMs, 0, 0⟩ (samples.drop 1) with
        | none => return none
        | some weighed =>
          if weighed.totalWeight = elapsedMs.toNat then
            return narrowed (← div weighed.weightedSum weighed.totalWeight)
          else return none

/-- The CPU time of a million deliveries, in words of 128 bits. -/
def cpuMicrosPerMillion (ticks ticksPerSecond deliveredPackets : UInt64) :
    Machine (Option UInt64) :=
  if ticksPerSecond = 0 ∨ deliveredPackets = 0 then return none
  else do
    let numerator ← mul mode u128 ticks.toNat 1000000000000
    let denominator ← mul mode u128 ticksPerSecond.toNat deliveredPackets.toNat
    return narrowed (← div numerator denominator)

/-- The growth of a counter over the whole window, per unit of time. -/
def counterRate (samples : List TelemetrySample) (value : TelemetrySample → Option UInt64)
    (scale : UInt64) : Machine (Option UInt64) :=
  let growth := do
    let (initial, finalSample) ← wholeWindowEndpoints samples
    let elapsedMs ← checkedSub finalSample.elapsedMs initial.elapsedMs
    let finalValue ← value finalSample
    let initialValue ← value initial
    let delta ← checkedSub finalValue initialValue
    return (delta, elapsedMs)
  match growth with
  | none => return none
  | some (delta, elapsedMs) =>
      return some (clamped (← div (← mul mode u128 delta.toNat scale.toNat) elapsedMs.toNat))

/-- The deliveries of a second of CPU time. -/
def deliveriesPerSecond (deliveredPackets : UInt64) (ticks : UInt64 × UInt64) : Machine UInt64 :=
  return clamped (← div (← mul mode u128 deliveredPackets.toNat ticks.2.toNat) ticks.1.toNat)

/-- The averages and rates of a summary; the rest of it counts and compares. -/
def telemetrySummary (sampleSet : Option SampleSet) (deliveredPackets : UInt64) :
    Machine TelemetrySummary :=
  match sampleSet with
  | none => return .absent
  | some set => do
      let serverCpuPercentMilli ← wholeWindowAverage mode set.samples
        (fun sample => sample.serverCpuTicks.isSome)
        (fun sample => sample.serverCpuTicks.isSome && sample.serverCpuPercentMilli.isSome)
        TelemetrySample.serverCpuPercentMilli
      let rtcCpuPercentMilli ← wholeWindowAverage mode set.samples
        (fun sample => sample.rtcCpuTicks.isSome)
        (fun sample => sample.rtcCpuTicks.isSome && sample.rtcCpuPercentMilli.isSome)
        TelemetrySample.rtcCpuPercentMilli
      let ticks := serverCpuTicks set.samples
      let deliveriesPerServerCpuSecond ← match ticks with
        | none => pure none
        | some ticks => pure (some (← deliveriesPerSecond mode deliveredPackets ticks))
      let serverCpuMicrosPerMillionDeliveries ← match ticks with
        | none => pure none
        | some (ticks, ticksPerSecond) =>
            cpuMicrosPerMillion mode ticks ticksPerSecond deliveredPackets
      let forwardedPacketsPerSecond ←
        counterRate mode set.samples TelemetrySample.forwardedPackets 1000
      let egressPayloadBitsPerSecond ←
        counterRate mode set.samples TelemetrySample.egressPayloadBytes 8000
      return { TelemetrySummary.fromSamples (some set) deliveredPackets with
        serverCpuPercentMilli, rtcCpuPercentMilli, deliveriesPerServerCpuSecond,
        serverCpuMicrosPerMillionDeliveries, forwardedPacketsPerSecond,
        egressPayloadBitsPerSecond }

end Operations

/-- The one scenario whose peers cannot be counted. -/
inductive Crowded : ScenarioSpec → Prop where
  | smoke (packets : UInt32) : Crowded (.smoke 4294967295 packets)

section Scenarios

variable {mode : Mode} {spec : ScenarioSpec}

/-- In a wrapping build the peers are those of the plain function, which wraps too. -/
theorem peersPerRoom_wrapping (spec : ScenarioSpec) :
    peersPerRoom .wrapping spec = .ok spec.peersPerRoom := by
  cases spec with
  | smoke receivers packets =>
    have counted : add .wrapping u32 receivers.toNat 1 = .ok ((receivers.toNat + 1) % 2 ^ 32) := by
      by_cases fits : receivers.toNat + 1 < 2 ^ 32
      · rw [add_of_lt fits, Nat.mod_eq_of_lt fits]
      · exact if_neg fits
    rw [peersPerRoom, counted, ok_bind]
    refine congrArg Except.ok (UInt32.toNat_inj.mp ?_)
    rw [UInt32.toNat_ofNat', ScenarioSpec.peersPerRoom, UInt32.toNat_add, Nat.mod_mod]
    rfl
  | audioMesh rooms peers seconds => rfl
  | videoGallery rooms peers publishers seconds => rfl
  | mixedConference rooms peers audioPublishers videoPublishers seconds => rfl

/-- In every build they are, unless a smoke has the most receivers a word can hold. -/
theorem peersPerRoom_eq (countable : ¬Crowded spec) :
    peersPerRoom mode spec = .ok spec.peersPerRoom := by
  rw [← peersPerRoom_wrapping]
  cases spec with
  | smoke receivers packets =>
    have fits : receivers.toNat + 1 < 2 ^ 32 := by
      have bound := receivers.toNat_lt
      have below : receivers.toNat ≠ 4294967295 := by
        intro largest
        have same : receivers = 4294967295 := UInt32.toNat_inj.mp largest
        exact countable (same ▸ .smoke packets)
      omega
    rw [peersPerRoom, peersPerRoom, add_of_lt fits, add_of_lt fits]
  | audioMesh rooms peers seconds => rfl
  | videoGallery rooms peers publishers seconds => rfl
  | mixedConference rooms peers audioPublishers videoPublishers seconds => rfl

/-- Such a smoke stops a checking build. -/
theorem peersPerRoom_crowded (crowded : Crowded spec) : ¬Completes (peersPerRoom .checking spec) := by
  cases crowded with
  | smoke packets =>
    have stopped : add .checking u32 (4294967295 : UInt32).toNat 1 = .error .overflow :=
      add_checking_of_ge (by decide)
    rw [peersPerRoom, stopped]
    exact not_completes_error _

/-- The duration is computed in every build. -/
theorem durationSeconds_eq (spec : ScenarioSpec) :
    durationSeconds spec = .ok spec.durationSeconds := by
  cases spec with
  | smoke receivers packets =>
    rw [durationSeconds, divCeil_of_ne (by decide), ok_bind]
    rfl
  | audioMesh rooms peers seconds => rfl
  | videoGallery rooms peers publishers seconds => rfl
  | mixedConference rooms peers audioPublishers videoPublishers seconds => rfl

/-- There are no more keyframes than frames. -/
theorem videoPacketsPerLayer_eq (seconds : UInt32) :
    videoPacketsPerLayer mode seconds = .ok (Model.videoPacketsPerLayer seconds) := by
  unfold videoPacketsPerLayer Model.videoPacketsPerLayer
  cases Model.checkedMul seconds.toUInt64 videoFramesPerSecond.toUInt64 with
  | error message => rfl
  | ok frames =>
    have bound := frames.toNat_lt
    have interval : videoKeyframeInterval.toNat = 60 := rfl
    have fewer : (frames.toNat + videoKeyframeInterval.toNat - 1) / videoKeyframeInterval.toNat ≤
        frames.toNat := by
      rw [interval]
      omega
    have deltas : UInt64.ofNat (frames.toNat -
        (frames.toNat + videoKeyframeInterval.toNat - 1) / videoKeyframeInterval.toNat) =
        frames - UInt64.ofNat
          ((frames.toNat + videoKeyframeInterval.toNat - 1) / videoKeyframeInterval.toNat) := by
      rw [UInt64.ofNat_sub fewer, UInt64.ofNat_toNat]
    simp only [divCeil_of_ne (show videoKeyframeInterval.toNat ≠ 0 by decide), ok_bind,
      sub_of_le fewer, deltas]
    rfl

/-- And the plan: every product in it is checked or fits its word. -/
theorem plan_eq (spec : ScenarioSpec) : plan mode spec = .ok spec.plan := by
  cases spec with
  | smoke receivers packets => rfl
  | audioMesh rooms peers seconds => rfl
  | videoGallery rooms peers publishers seconds =>
    simp only [plan, videoPacketsPerLayer_eq, ok_bind]
    rfl
  | mixedConference rooms peers audioPublishers videoPublishers seconds =>
    simp only [plan, videoPacketsPerLayer_eq, ok_bind]
    rfl

/-- The key divides by at least one second, and counts the peers. -/
theorem scenarioKey_eq (counted : peersPerRoom mode spec = .ok spec.peersPerRoom) :
    scenarioKey mode spec = .ok (Report.scenarioKey spec) := by
  have lasting : (max spec.durationSeconds.toUInt64 1).toNat ≠ 0 := by
    rw [Kit.Saturating.max_toNat, UInt64.toNat_one]
    omega
  simp only [scenarioKey, durationSeconds_eq, ok_bind, plan_eq, div_of_ne lasting, counted]
  refine congrArg Except.ok (Prod.ext rfl (Prod.ext ?_ rfl))
  apply UInt64.toNat_inj.mp
  rw [UInt64.toNat_ofNat_of_lt']
  · exact (UInt64.toNat_div _ _).symm
  · exact Nat.lt_of_le_of_lt (Nat.div_le_self _ _) (UInt64.toNat_lt _)

/-- A scenario that validates has fewer receivers than that. -/
theorem not_crowded_of_valid (valid : spec.validate = .ok ()) : ¬Crowded spec := by
  intro crowded
  cases crowded with
  | smoke packets => exact absurd (ScenarioSpec.smoke_bounds valid).2.1 (by decide)

/-- So validating a run computes what the plain function says. -/
theorem validateRun_eq (run : RunData) : validateRun mode run = .ok (Report.validateRun run) := by
  rw [validateRun, plan_eq, ok_bind]
  cases valid : run.result.scenario.validate with
  | error message => rfl
  | ok done =>
    rw [peersPerRoom_eq (not_crowded_of_valid valid)]
    rfl

/-- And whether it passed. -/
theorem runPassed_eq (run : RunData) : runPassed mode run = .ok (Report.runPassed run) := by
  rw [runPassed, validateRun_eq]
  rfl

/-- And the verdict over all of them. -/
theorem exactStatus_eq (runs : List RunData) (failures : List LoadFailure) :
    exactStatus mode runs failures = .ok (Report.exactStatus runs failures) := by
  have passed : runs.mapM (runPassed mode) = .ok (runs.map Report.runPassed) := by
    induction runs with
    | nil => rfl
    | cons run rest hypothesis =>
      rw [List.mapM_cons, runPassed_eq, ok_bind, hypothesis]
      rfl
  unfold exactStatus Report.exactStatus
  split
  · rfl
  · rw [passed, ok_bind, List.all_map]
    rfl

end Scenarios

section Rates

variable {mode : Mode}

/-- No rate overflows: 128 bits hold the product. -/
theorem payloadBitsPerSecond_completes (bytes elapsedMs : UInt64) :
    Completes (payloadBitsPerSecond mode bytes elapsedMs) := by
  unfold payloadBitsPerSecond
  split
  · exact completes_pure _
  · next lasting =>
    have present : elapsedMs.toNat ≠ 0 := fun none => lasting (UInt64.toNat_inj.mp none)
    rw [mul_words bytes.toNat_lt (by decide), ok_bind, div_of_ne present]
    exact completes_ok _

/-- A 32-bit count of seconds or packets has 64-bit milliseconds. -/
theorem plannedDurationMs_completes (spec : ScenarioSpec) :
    Completes (plannedDurationMs mode spec) := by
  have scaled (count : UInt32) : mul mode u64 count.toNat 1000 = .ok (count.toNat * 1000) := by
    have bound := count.toNat_lt
    apply mul_of_lt
    rw [u64]
    omega
  cases spec with
  | smoke receivers packets =>
    rw [plannedDurationMs, scaled, ok_bind, div_of_ne (by decide)]
    exact completes_ok _
  | audioMesh rooms peers seconds =>
    rw [plannedDurationMs, scaled]
    exact completes_ok _
  | videoGallery rooms peers publishers seconds =>
    rw [plannedDurationMs, scaled]
    exact completes_ok _
  | mixedConference rooms peers audioPublishers videoPublishers seconds =>
    rw [plannedDurationMs, scaled]
    exact completes_ok _

/-- Not the one that is offered. -/
theorem scheduledPayloadBitsPerSecond_completes (result : ScenarioResult) :
    Completes (scheduledPayloadBitsPerSecond mode result) :=
  (plannedDurationMs_completes _).bind (fun _ _ => payloadBitsPerSecond_completes _ _)

/-- Nor the one that is delivered. -/
theorem deliveredPayloadBitsPerSecond_completes (result : ScenarioResult) :
    Completes (deliveredPayloadBitsPerSecond mode result) :=
  payloadBitsPerSecond_completes _ _

end Rates

section Summary

variable {mode : Mode}

/-- Weighing a sample fits 128 bits: its sum has been bounded by the time so far. -/
theorem weigh_eq (value : TelemetrySample → Option UInt64) (weighing : Weighing)
    (sample : TelemetrySample) :
    weigh mode value weighing sample = .ok (Report.weigh value weighing sample) := by
  unfold weigh Report.weigh
  by_cases gap : sample.isGap = true
  · rw [if_pos gap, if_pos gap]
    rfl
  · rw [if_neg gap, if_neg gap]
    cases checkedSub sample.elapsedMs weighing.previousElapsedMs with
    | none => rfl
    | some weight =>
      simp only [Option.bind_eq_bind, Option.bind_some]
      cases (value sample).filter (fun _ => 0 < weight) with
      | none => rfl
      | some counted =>
        simp only [mul_words counted.toNat_lt weight.toNat_lt, ok_bind]
        rfl

/-- So weighing all samples does; the induction is over the samples. -/
theorem weighAll_eq (value : TelemetrySample → Option UInt64) (weighing : Weighing)
    (samples : List TelemetrySample) :
    weighAll mode value weighing samples = .ok (samples.foldlM (Report.weigh value) weighing) := by
  induction samples generalizing weighing with
  | nil => rfl
  | cons sample rest hypothesis =>
    rw [weighAll, weigh_eq, ok_bind, List.foldlM_cons]
    cases Report.weigh value weighing sample with
    | none => rfl
    | some next => exact hypothesis next

/-- The window's endpoints are apart in time. -/
theorem elapsed_pos {samples : List TelemetrySample} {initial final : TelemetrySample}
    (ends : wholeWindowEndpoints samples = some (initial, final)) {elapsedMs : UInt64}
    (elapsed : checkedSub final.elapsedMs initial.elapsedMs = some elapsedMs) :
    elapsedMs.toNat ≠ 0 := by
  obtain ⟨_, difference⟩ := Kit.Saturating.checkedSub_eq_some elapsed
  have apart := (wholeWindowEndpoints_eq_some.mp ends).2.2.2.2.2.2
  rw [UInt64.lt_iff_toNat_lt] at apart
  omega

/-- Counted ticks are some ticks, so they can be divided by. -/
theorem serverCpuTicks_pos {samples : List TelemetrySample} {ticks : UInt64 × UInt64}
    (counted : serverCpuTicks samples = some ticks) : 0 < ticks.1 := by
  simp only [serverCpuTicks, Option.bind_eq_bind, Option.bind_eq_some_iff, Prod.exists,
    Option.ite_none_left_eq_some, Option.ite_none_right_eq_some] at counted
  obtain ⟨_, _, _, _, _, _, _, _, _, _, _, _, _, _, _, _, _, _, _, positive, same⟩ := counted
  exact Option.some.inj same ▸ positive

/-- A whole-window average is computed in every build. -/
theorem wholeWindowAverage_eq (samples : List TelemetrySample)
    (initialUsable finalUsable : TelemetrySample → Bool)
    (value : TelemetrySample → Option UInt64) :
    wholeWindowAverage mode samples initialUsable finalUsable value =
      .ok (Report.wholeWindowAverage samples initialUsable finalUsable value) := by
  unfold wholeWindowAverage Report.wholeWindowAverage
  cases ends : wholeWindowEndpoints samples with
  | none => rfl
  | some pair =>
    obtain ⟨initial, final⟩ := pair
    simp only [Option.bind_eq_bind, Option.bind_some]
    by_cases unusable : (!initialUsable initial || !finalUsable final) = true
    · rw [if_pos unusable, if_pos unusable]
      rfl
    · rw [if_neg unusable, if_neg unusable]
      cases elapsed : checkedSub final.elapsedMs initial.elapsedMs with
      | none => rfl
      | some elapsedMs =>
        simp only [Option.bind_some, weighAll_eq, ok_bind]
        cases (samples.drop 1).foldlM (Report.weigh value) ⟨initial.elapsedMs, 0, 0⟩ with
        | none => rfl
        | some weighed =>
          simp only [Option.bind_some]
          by_cases covered : weighed.totalWeight = elapsedMs.toNat
          · have present : weighed.totalWeight ≠ 0 := covered ▸ elapsed_pos ends elapsed
            rw [if_pos covered, if_pos covered, div_of_ne present]
            rfl
          · rw [if_neg covered, if_neg covered]
            rfl

/-- And the growth of a counter. -/
theorem counterRate_eq (samples : List TelemetrySample)
    (value : TelemetrySample → Option UInt64) (scale : UInt64) :
    counterRate mode samples value scale = .ok (Report.counterRate samples value scale) := by
  unfold counterRate Report.counterRate
  cases ends : wholeWindowEndpoints samples with
  | none => rfl
  | some pair =>
    obtain ⟨initial, final⟩ := pair
    simp only [Option.bind_eq_bind, Option.bind_some]
    cases elapsed : checkedSub final.elapsedMs initial.elapsedMs with
    | none => rfl
    | some elapsedMs =>
      simp only [Option.bind_some]
      cases value final with
      | none => rfl
      | some finalValue =>
        cases value initial with
        | none => rfl
        | some initialValue =>
          simp only [Option.bind_some]
          cases checkedSub finalValue initialValue with
          | none => rfl
          | some delta =>
            simp only [Option.bind_some, Option.pure_def, ok_bind,
              mul_words delta.toNat_lt scale.toNat_lt, div_of_ne (elapsed_pos ends elapsed)]
            rfl

/-- A million times a million ticks are far from 128 bits. -/
theorem cpuMicrosPerMillion_eq (ticks ticksPerSecond deliveredPackets : UInt64) :
    cpuMicrosPerMillion mode ticks ticksPerSecond deliveredPackets =
      .ok (Report.cpuMicrosPerMillion ticks ticksPerSecond deliveredPackets) := by
  unfold cpuMicrosPerMillion Report.cpuMicrosPerMillion
  by_cases idle : ticksPerSecond = 0 ∨ deliveredPackets = 0
  · rw [if_pos idle, if_pos idle]
    rfl
  · rw [if_neg idle, if_neg idle]
    rw [not_or, ← UInt64.toNat_inj, ← UInt64.toNat_inj] at idle
    have present : ticksPerSecond.toNat * deliveredPackets.toNat ≠ 0 := by
      intro none
      rcases Nat.mul_eq_zero.mp none with none | none
      · exact idle.1 none
      · exact idle.2 none
    rw [mul_words ticks.toNat_lt (by decide), ok_bind,
      mul_words ticksPerSecond.toNat_lt deliveredPackets.toNat_lt, ok_bind, div_of_ne present]
    rfl

/-- Ticks are only counted where there are some. -/
theorem deliveriesPerSecond_eq {samples : List TelemetrySample} {ticks : UInt64 × UInt64}
    (counted : serverCpuTicks samples = some ticks) (deliveredPackets : UInt64) :
    deliveriesPerSecond mode deliveredPackets ticks =
      .ok (TelemetrySummary.deliveriesPerSecond deliveredPackets ticks) := by
  have present : ticks.1.toNat ≠ 0 := by
    have positive := serverCpuTicks_pos counted
    rw [UInt64.lt_iff_toNat_lt, UInt64.toNat_zero] at positive
    omega
  rw [deliveriesPerSecond, mul_words deliveredPackets.toNat_lt ticks.2.toNat_lt, ok_bind,
    div_of_ne present]
  rfl

/-- So a whole telemetry summary is. -/
theorem telemetrySummary_eq (sampleSet : Option SampleSet) (deliveredPackets : UInt64) :
    telemetrySummary mode sampleSet deliveredPackets =
      .ok (TelemetrySummary.fromSamples sampleSet deliveredPackets) := by
  cases sampleSet with
  | none => rfl
  | some set =>
    simp only [telemetrySummary, wholeWindowAverage_eq, counterRate_eq, ok_bind]
    cases counted : serverCpuTicks set.samples with
    | none => simp [TelemetrySummary.fromSamples, counted, TelemetrySummary.serverCpuAverage,
        TelemetrySummary.rtcCpuAverage, pure, Except.pure]
    | some ticks => simp [TelemetrySummary.fromSamples, counted, deliveriesPerSecond_eq counted,
        cpuMicrosPerMillion_eq, TelemetrySummary.serverCpuAverage,
        TelemetrySummary.rtcCpuAverage, pure, Except.pure]

end Summary

end SfuLoad.Report.Arithmetic
