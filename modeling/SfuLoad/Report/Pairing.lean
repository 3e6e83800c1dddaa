import SfuLoad.Kit.Sorting
import SfuLoad.Model.Result
import SfuLoad.Report.Samples
import Mathlib.Data.UInt

/-!
# Pairing the runs of two revisions

A comparison walks over the scenarios of both sides, sorted by a numeric key and
rid of adjacent duplicates, and pairs the two runs of a scenario that has exactly
one on each side. Everything else becomes an issue. Dashboards pair on their own,
by looking a scenario up on both sides.
-/

namespace SfuLoad.Report

open Kit.Sorting Model Std

/-- One loaded input: where it came from, its result and its telemetry. -/
structure RunData where
  source : String
  result : ScenarioResult
  samples : Option SampleSet
deriving DecidableEq

/-- Two runs of one scenario, and whether they agree in what they ran. -/
structure RunPair where
  baseline : RunData
  comparison : RunData
  workloadMatches : Bool
deriving DecidableEq

/-- The pairs of a comparison, and what could not be paired. -/
structure Pairing where
  pairs : List RunPair
  issues : List String
deriving DecidableEq

/-- Whether two runs have the same work under the same policy. -/
def workloadMatches (baseline comparison : RunData) : Bool :=
  baseline.result.schemaVersion = comparison.result.schemaVersion
    && baseline.result.profile = comparison.result.profile
    && baseline.result.scenario = comparison.result.scenario
    && baseline.result.serverPolicy = comparison.result.serverPolicy
    && baseline.result.plan = comparison.result.plan
    && baseline.result.offeredPackets = comparison.result.offeredPackets
    && baseline.result.offeredPayloadBytes = comparison.result.offeredPayloadBytes

/-- A scenario as numbers, compared one after another. -/
abbrev ScenarioKey :=
  UInt8 × UInt64 × UInt64 × UInt32 × UInt32 × UInt32 × UInt32 × UInt32

/-- Rank, rate, deliveries and shape. A scenario without a plan delivers nothing. -/
def scenarioKey (spec : ScenarioSpec) : ScenarioKey :=
  let rank : UInt8 := match spec with
    | .smoke _ _ => 0
    | .audioMesh _ _ _ => 1
    | .videoGallery _ _ _ _ => 2
    | .mixedConference _ _ _ _ _ => 3
  let duration := max spec.durationSeconds.toUInt64 1
  let expectedDeliveries := match spec.plan with
    | .ok plan => plan.expectedDeliveries
    | .error _ => 0
  let deliveriesPerSecond := expectedDeliveries / duration
  (rank, deliveriesPerSecond, expectedDeliveries, spec.roomCount, spec.peersPerRoom,
    spec.audioPublishersPerRoom, spec.videoPublishersPerRoom, spec.durationSeconds)

section Order

attribute [local instance] lexOrd

/-- Keys are compared field by field. -/
def compareScenarios (left right : ScenarioSpec) : Ordering :=
  compare (scenarioKey left) (scenarioKey right)

/-- Comparing by a key is transitive. -/
instance : TransCmp compareScenarios :=
  inferInstanceAs (TransCmp (compareOn scenarioKey))

/-- Scenarios that are called equal have one key. -/
theorem compareScenarios_eq_iff {left right : ScenarioSpec} :
    compareScenarios left right = .eq ↔ scenarioKey left = scenarioKey right :=
  LawfulEqOrd.compare_eq_iff_eq

end Order

/-- The label of a scenario. -/
def scenarioLabel : ScenarioSpec → String
  | .smoke receivers packets => s!"smoke-{receivers}r-{packets}p"
  | .audioMesh rooms peers seconds => s!"audio-mesh-{rooms}x{peers}-{seconds}s"
  | .videoGallery rooms peers publishers seconds =>
      s!"video-gallery-{rooms}x{peers}-{publishers}p-{seconds}s"
  | .mixedConference rooms peers audioPublishers videoPublishers seconds =>
      s!"mixed-conference-{rooms}x{peers}-{audioPublishers}a-{videoPublishers}v-{seconds}s"

/-- The runs of one scenario. -/
def runsOf (runs : List RunData) (spec : ScenarioSpec) : List RunData :=
  runs.filter (fun run => run.result.scenario = spec)

/-- One turn of the pairing loop. -/
def pairSpec (baseline comparison : List RunData) (pairing : Pairing) (spec : ScenarioSpec) :
    Pairing :=
  match runsOf baseline spec, runsOf comparison spec with
  | [baselineRun], [comparisonRun] =>
    let matched := workloadMatches baselineRun comparisonRun
    { pairs := pairing.pairs ++ [⟨baselineRun, comparisonRun, matched⟩]
      issues :=
        if matched then pairing.issues
        else pairing.issues ++ [s!"{scenarioLabel spec} has different workload contracts"] }
  | [], _ => { pairing with
      issues := pairing.issues ++ [s!"{scenarioLabel spec} is missing from the baseline"] }
  | _, [] => { pairing with
      issues := pairing.issues ++ [s!"{scenarioLabel spec} is missing from the comparison"] }
  | _, _ => { pairing with
      issues := pairing.issues ++ [s!"{scenarioLabel spec} appears more than once on one side"] }

/-- The scenarios the pairing loop goes over. The sort is unstable, so any sort
by the key may stand in for it. -/
def pairedSpecs (sort : List ScenarioSpec → List ScenarioSpec)
    (baseline comparison : List RunData) : List ScenarioSpec :=
  dedup (sort ((baseline ++ comparison).map (fun run => run.result.scenario)))

/-- The pairing of two sides, scenario by scenario. -/
def pairRuns (sort : List ScenarioSpec → List ScenarioSpec)
    (baseline comparison : List RunData) : Pairing :=
  (pairedSpecs sort baseline comparison).foldl (pairSpec baseline comparison) ⟨[], []⟩

/-- The run of a scenario, if there is just one. -/
def uniqueScenario (runs : List RunData) (spec : ScenarioSpec) : Option RunData := do
  let run ← (runsOf runs spec).head?
  if (runsOf runs spec).tail.isEmpty then some run else none

/-- The two runs of a scenario whose dashboards may share their axes. -/
def matchingPair (baseline comparison : List RunData) (spec : ScenarioSpec) :
    Option (RunData × RunData) := do
  let baselineRun ← uniqueScenario baseline spec
  let comparisonRun ← uniqueScenario comparison spec
  if workloadMatches baselineRun comparisonRun then some (baselineRun, comparisonRun) else none

end SfuLoad.Report
