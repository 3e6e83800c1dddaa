import SfuLoad.Model.Scenario

/-!
# Observations, their merge, and the validated result

Each peer reports what it offered, what it received and how its ledger finished.
Observations merge field by field with saturating sums and maxima. A completed
result copies the merged observation beside the plan; validation compares the
two and demands that no discrepancy remains.
-/

namespace SfuLoad.Model

open Kit Kit.Fallible Kit.Saturating

/-- The version of a result's format. A result of another version is refused. -/
def resultSchemaVersion : UInt32 := 4

/-- The limits a server is started with. -/
structure ServerPolicy where
  mediaWorkers : UInt32
  roomSize : UInt32
  maxPreAuthWebsocketSessionsPerOrigin : UInt32
  maxActiveAudioSpeakers : UInt32
  maxVideoDownloadsPerReceiver : UInt32
  maxBitrateInBps : UInt64
  maxBitrateOutBps : UInt64
deriving DecidableEq

/-- The admission cap is the saturating 32-bit product of rooms and peers. -/
def ServerPolicy.forScenario (spec : ScenarioSpec) : ServerPolicy where
  mediaWorkers := 1
  roomSize := spec.peersPerRoom
  maxPreAuthWebsocketSessionsPerOrigin :=
    UInt32.ofNat (min (spec.roomCount.toNat * spec.peersPerRoom.toNat) (2 ^ 32 - 1))
  maxActiveAudioSpeakers := spec.activeAudioSpeakers
  maxVideoDownloadsPerReceiver := 10
  maxBitrateInBps := 8000000
  maxBitrateOutBps := 10000000

/-- How many packets of each kind of fault a receiver has counted. -/
structure CorrectnessSummary where
  missingPackets : UInt64
  duplicatePackets : UInt64
  outOfOrderPackets : UInt64
  unexpectedPackets : UInt64
  payloadMismatches : UInt64
deriving DecidableEq

namespace CorrectnessSummary

/-- No fault. -/
def zero : CorrectnessSummary := ⟨0, 0, 0, 0, 0⟩

/-- All faults together, as a saturating sum: it does not wrap back to zero. -/
def discrepancyCount (self : CorrectnessSummary) : UInt64 :=
  saturatingAdd (saturatingAdd (saturatingAdd (saturatingAdd self.missingPackets
    self.duplicatePackets) self.outOfOrderPackets) self.unexpectedPackets) self.payloadMismatches

/-- The faults of two receivers together. -/
def merge (self other : CorrectnessSummary) : CorrectnessSummary where
  missingPackets := saturatingAdd self.missingPackets other.missingPackets
  duplicatePackets := saturatingAdd self.duplicatePackets other.duplicatePackets
  outOfOrderPackets := saturatingAdd self.outOfOrderPackets other.outOfOrderPackets
  unexpectedPackets := saturatingAdd self.unexpectedPackets other.unexpectedPackets
  payloadMismatches := saturatingAdd self.payloadMismatches other.payloadMismatches

/-- The count is zero exactly when all five counters are. -/
theorem discrepancyCount_eq_zero (self : CorrectnessSummary) :
    self.discrepancyCount = 0 ↔ self.missingPackets = 0 ∧ self.duplicatePackets = 0 ∧
      self.outOfOrderPackets = 0 ∧ self.unexpectedPackets = 0 ∧ self.payloadMismatches = 0 := by
  simp [discrepancyCount, and_assoc]

/-- Receivers may be merged in any order. -/
theorem merge_comm (left right : CorrectnessSummary) : left.merge right = right.merge left := by
  simp [merge, saturatingAdd_comm]

/-- And in any grouping. -/
theorem merge_assoc (first second third : CorrectnessSummary) :
    (first.merge second).merge third = first.merge (second.merge third) := by
  simp [merge, saturatingAdd_assoc]

/-- A receiver without faults changes nothing. -/
theorem zero_merge (self : CorrectnessSummary) : zero.merge self = self := by
  simp [merge, zero]

/-- Merging never cancels: the merged summary is clean exactly when both are. -/
theorem merge_discrepancyCount_eq_zero (left right : CorrectnessSummary) :
    (left.merge right).discrepancyCount = 0 ↔
      left.discrepancyCount = 0 ∧ right.discrepancyCount = 0 := by
  simp only [discrepancyCount_eq_zero, merge, saturatingAdd_eq_zero]
  tauto

end CorrectnessSummary

/-- What one peer, or several together, offered and received, how long it took and how late a
packet was sent. -/
structure RunObservation where
  offeredPackets : UInt64
  offeredPayloadBytes : UInt64
  deliveredPackets : UInt64
  deliveredPayloadBytes : UInt64
  correctness : CorrectnessSummary
  elapsedMs : UInt64
  maxSendLagMs : UInt64
deriving DecidableEq

namespace RunObservation

/-- Nothing has been observed. -/
def default : RunObservation := ⟨0, 0, 0, 0, .zero, 0, 0⟩

/-- Two observations together. Counts add up; of times the longest counts. -/
def merge (self other : RunObservation) : RunObservation where
  offeredPackets := saturatingAdd self.offeredPackets other.offeredPackets
  offeredPayloadBytes := saturatingAdd self.offeredPayloadBytes other.offeredPayloadBytes
  deliveredPackets := saturatingAdd self.deliveredPackets other.deliveredPackets
  deliveredPayloadBytes := saturatingAdd self.deliveredPayloadBytes other.deliveredPayloadBytes
  correctness := self.correctness.merge other.correctness
  elapsedMs := max self.elapsedMs other.elapsedMs
  maxSendLagMs := max self.maxSendLagMs other.maxSendLagMs

end RunObservation

/-- The result of a run, as it is written to its file: what was planned, what was observed,
and under which limits. -/
structure ScenarioResult where
  schemaVersion : UInt32
  profile : String
  oSfuRevision : Option String
  scenario : ScenarioSpec
  serverPolicy : ServerPolicy
  plan : WorkloadPlan
  offeredPackets : UInt64
  offeredPayloadBytes : UInt64
  deliveredPackets : UInt64
  deliveredPayloadBytes : UInt64
  correctness : CorrectnessSummary
  elapsedMs : UInt64
  maxSendLagMs : UInt64
deriving DecidableEq

namespace ScenarioResult

/-- The revision is fixed when the binary is built. -/
def completed (revision : String) (spec : ScenarioSpec) (observation : RunObservation) :
    Except String ScenarioResult := do
  let plan ← spec.plan
  return {
    schemaVersion := resultSchemaVersion
    profile := spec.profile
    oSfuRevision := some revision
    scenario := spec
    serverPolicy := ServerPolicy.forScenario spec
    plan := plan
    offeredPackets := observation.offeredPackets
    offeredPayloadBytes := observation.offeredPayloadBytes
    deliveredPackets := observation.deliveredPackets
    deliveredPayloadBytes := observation.deliveredPayloadBytes
    correctness := observation.correctness
    elapsedMs := max observation.elapsedMs 1
    maxSendLagMs := observation.maxSendLagMs }

/-- Every fixed-work accounting check, in the order the source makes them. -/
def validate (self : ScenarioResult) (spec : ScenarioSpec) : Except String Unit := do
  spec.validate
  let plan ← spec.plan
  ensure (self.schemaVersion = resultSchemaVersion)
    s!"unsupported result schema {self.schemaVersion}"
  ensure (self.scenario = spec) "scenario specification changed"
  ensure (self.profile = spec.profile) "media profile changed"
  ensure (self.serverPolicy = ServerPolicy.forScenario spec) "server policy changed"
  ensure (self.plan = plan) "workload plan changed"
  ensure (self.offeredPackets = plan.offeredPackets) "offered packet count changed"
  ensure (self.offeredPayloadBytes = plan.offeredPayloadBytes)
    "offered payload byte count changed"
  ensure (self.deliveredPackets = plan.expectedDeliveries)
    s!"delivered {self.deliveredPackets} of {plan.expectedDeliveries} packets"
  ensure (self.deliveredPayloadBytes = plan.expectedDeliveryPayloadBytes)
    "delivered payload byte count changed"
  ensure (self.correctness.discrepancyCount = 0)
    s!"fixed work contains {self.correctness.discrepancyCount} packet discrepancies"
  ensure (0 < self.elapsedMs) "elapsed time must be greater than zero"

/-- A completed result of a planned scenario copies plan and observation. -/
theorem completed_of_planned (revision : String) {spec : ScenarioSpec} {plan : WorkloadPlan}
    (planned : spec.plan = .ok plan) (observation : RunObservation) :
    completed revision spec observation = .ok {
      schemaVersion := resultSchemaVersion
      profile := spec.profile
      oSfuRevision := some revision
      scenario := spec
      serverPolicy := ServerPolicy.forScenario spec
      plan := plan
      offeredPackets := observation.offeredPackets
      offeredPayloadBytes := observation.offeredPayloadBytes
      deliveredPackets := observation.deliveredPackets
      deliveredPayloadBytes := observation.deliveredPayloadBytes
      correctness := observation.correctness
      elapsedMs := max observation.elapsedMs 1
      maxSendLagMs := observation.maxSendLagMs } := by
  rw [completed, planned]
  rfl

/-- Of a completed result only the work and its correctness are in question. -/
theorem completed_validate_iff {revision : String} {spec : ScenarioSpec} {plan : WorkloadPlan}
    {observation : RunObservation} {result : ScenarioResult} (valid : spec.validate = .ok ())
    (planned : spec.plan = .ok plan)
    (built : completed revision spec observation = .ok result) :
    result.validate spec = .ok () ↔
      observation.offeredPackets = plan.offeredPackets ∧
      observation.offeredPayloadBytes = plan.offeredPayloadBytes ∧
      observation.deliveredPackets = plan.expectedDeliveries ∧
      observation.deliveredPayloadBytes = plan.expectedDeliveryPayloadBytes ∧
      observation.correctness.discrepancyCount = 0 := by
  rw [completed_of_planned revision planned] at built
  obtain rfl := Except.ok.inj built
  have lasted : 0 < max observation.elapsedMs 1 := by
    rw [UInt64.lt_iff_toNat_lt, Saturating.max_toNat, UInt64.toNat_one, UInt64.toNat_zero]
    omega
  simp [validate, valid, planned, bind_eq_ok, lasted]

end ScenarioResult

end SfuLoad.Model
