import SfuLoad.Report.Partition
import SfuLoad.Report.Summary

/-!
# Two verdicts on the same evidence

The report of one revision judges its runs by their raw samples. The comparison
of two revisions judges pairs of runs by the summaries of their telemetry. Where
the comparison calls its performance samples valid, the report must find exact
work, valid pacing and complete telemetry on both sides. The summary counts
samples with an unresponsive packet loop, and the comparison never looks.
-/

namespace SfuLoad.Report

open Kit.Sorting Model

/-- An input that could not be loaded, and why. -/
structure LoadFailure where
  source : String
  error : String
deriving DecidableEq

/-- One revision's loaded inputs. -/
structure Side where
  runs : List RunData
  failures : List LoadFailure

/-- Whether a run's results are those of its own scenario. -/
def validateRun (run : RunData) : Except String Unit :=
  run.result.validate run.result.scenario

/-- Whether they are, as a verdict. -/
def runPassed (run : RunData) : Bool :=
  (validateRun run).isOk

/-- The verdict on the work of all runs. -/
def exactStatus (runs : List RunData) (failures : List LoadFailure) : String :=
  if runs.isEmpty && failures.isEmpty then "n/a"
  else if failures.isEmpty && runs.all runPassed then "PASS"
  else "FAIL"

/-- The send lag may not exceed one media interval. -/
def pacingValid (result : ScenarioResult) : Bool :=
  let intervalMs : UInt64 := match result.scenario with
    | .smoke _ _ => 20
    | .audioMesh _ _ _ => 20
    | .mixedConference _ _ _ _ _ => 20
    | .videoGallery _ _ _ _ => 34
  result.maxSendLagMs ≤ intervalMs

/-- The verdict on their pacing. -/
def pacingStatus (runs : List RunData) : String :=
  if runs.isEmpty then "n/a"
  else if runs.all (fun run => pacingValid run.result) then "VALID"
  else "INVALID"

/-- The verdict on their telemetry, which looks at every sample. -/
def telemetryStatus (runs : List RunData) : String :=
  if runs.all (fun run => run.samples.isNone) then "n/a"
  else if runs.any (fun run => run.samples.all (fun set =>
      set.samples.isEmpty || 0 < set.unavailable)) then "INCOMPLETE"
  else if runs.any (fun run => run.samples.any (fun set =>
      set.samples.any TelemetrySample.packetLoopUnresponsive)) then "UNHEALTHY"
  else "COMPLETE"

/-- The revision that all runs have in common, or that they have none. -/
structure Revision where
  label : String
  valid : Bool
deriving DecidableEq

/-- Forty bytes, all of them digits or letters from a to f. Such bytes are
characters of their own. -/
def validRevision (revision : String) : Bool :=
  revision.toList.length = 40 &&
    revision.toList.all (fun byte =>
      ('0' ≤ byte && byte ≤ '9') || ('a' ≤ byte && byte ≤ 'f'))

/-- The one revision all runs name. -/
def revision (runs : List RunData) : Revision :=
  let revisions := (runs.filterMap (fun run => run.result.oSfuRevision)).eraseDups
  let missing := runs.any (fun run => run.result.oSfuRevision.isNone)
  match revisions, missing with
  | [revision], false => ⟨revision, validRevision revision⟩
  | [], _ => ⟨"n/a", false⟩
  | _, _ => ⟨"mixed", false⟩

/-- The summary of a run's telemetry. -/
def telemetry (run : RunData) : TelemetrySummary :=
  .fromSamples run.samples run.result.deliveredPackets

/-- What the comparison asks of a summary. How often the packet loop did not answer is not
asked. -/
def telemetryComplete (summary : TelemetrySummary) : Bool :=
  0 < summary.samples
    && summary.unavailable = 0
    && summary.serverCpuMicrosPerMillionDeliveries.isSome
    && summary.serverCpuPercentMilli.isSome
    && summary.serverCpuPeakPercentMilli.isSome
    && summary.serverRssBytes.isSome
    && summary.rtcCpuPercentMilli.isSome
    && summary.rtcRssBytes.isSome
    && summary.packetLoopDelayMs.isSome
    && summary.forwardedPacketsPerSecond.isSome
    && summary.egressPayloadBitsPerSecond.isSome

/-- A pair with the summaries of both runs. -/
structure PairMetrics where
  pair : RunPair
  baseline : TelemetrySummary
  comparison : TelemetrySummary

/-- The summaries of a pair. -/
def pairMetrics (pair : RunPair) : PairMetrics where
  pair
  baseline := telemetry pair.baseline
  comparison := telemetry pair.comparison

/-- Whether the performance of a pair may be compared. -/
def pairPerformanceValid (metric : PairMetrics) : Bool :=
  metric.pair.workloadMatches
    && pacingValid metric.pair.baseline.result
    && pacingValid metric.pair.comparison.result
    && telemetryComplete metric.baseline
    && telemetryComplete metric.comparison

/-- What a comparison claims about its two sides. -/
structure ComparisonStatus where
  revisionsValid : Bool
  workloadsMatch : Bool
  exact : Bool
  performanceValid : Bool
deriving DecidableEq

/-- The verdicts `render_sides` comes to before it writes anything. -/
def comparisonStatus (sort : List ScenarioSpec → List ScenarioSpec) (baseline comparison : Side) :
    ComparisonStatus :=
  let baselineRevision := revision baseline.runs
  let comparisonRevision := revision comparison.runs
  let pairing := pairRuns sort baseline.runs comparison.runs
  let metrics := pairing.pairs.map pairMetrics
  let revisionsValid := baselineRevision.valid && comparisonRevision.valid &&
    baselineRevision.label ≠ comparisonRevision.label
  let workloadsMatch := !pairing.pairs.isEmpty && pairing.issues.isEmpty &&
    pairing.pairs.all RunPair.workloadMatches
  let exact := workloadsMatch && baseline.failures.isEmpty && comparison.failures.isEmpty &&
    pairing.pairs.all (fun pair =>
      (validateRun pair.baseline).isOk && (validateRun pair.comparison).isOk)
  { revisionsValid, workloadsMatch, exact
    performanceValid := revisionsValid && exact && metrics.all pairPerformanceValid }

/-- What the report of one revision must find on a side whose performance samples
a comparison calls valid. -/
structure Sound (side : Side) : Prop where
  exact : exactStatus side.runs side.failures = "PASS"
  pacing : pacingStatus side.runs = "VALID"
  telemetry : telemetryStatus side.runs = "COMPLETE"
  sampled : ∀ run ∈ side.runs, ∃ set, run.samples = some set ∧ set.samples ≠ [] ∧
    set.unavailable = 0 ∧ ∀ sample ∈ set.samples, sample.packetLoopUnresponsive = false

/-- What a comparison really looks at. -/
structure Comparable (baseline comparison : Side) : Prop where
  baselineRevision : (revision baseline.runs).valid = true
  comparisonRevision : (revision comparison.runs).valid = true
  revisionsDiffer : (revision baseline.runs).label ≠ (revision comparison.runs).label
  loaded : baseline.failures = [] ∧ comparison.failures = []
  present : baseline.runs ≠ []
  paired : ∀ spec, 0 < occurrences baseline.runs spec + occurrences comparison.runs spec →
    occurrences baseline.runs spec = 1 ∧ occurrences comparison.runs spec = 1
  alike : ∀ baselineRun ∈ baseline.runs, ∀ comparisonRun ∈ comparison.runs,
    baselineRun.result.scenario = comparisonRun.result.scenario →
    workloadMatches baselineRun comparisonRun = true
  valid : ∀ run ∈ baseline.runs ++ comparison.runs, validateRun run = .ok ()
  paced : ∀ run ∈ baseline.runs ++ comparison.runs, pacingValid run.result = true
  complete : ∀ run ∈ baseline.runs ++ comparison.runs, telemetryComplete (telemetry run) = true

/-- No sample of either side has an unresponsive packet loop. -/
def Responsive (baseline comparison : Side) : Prop :=
  ∀ run ∈ baseline.runs ++ comparison.runs, ∀ set ∈ run.samples, ∀ sample ∈ set.samples,
    sample.packetLoopUnresponsive = false

section Coverage

variable {sort : List ScenarioSpec → List ScenarioSpec} {baseline comparison : List RunData}
  {spec : ScenarioSpec}

/-- The scenario of a run occurs. -/
theorem occurrences_pos {runs : List RunData} {run : RunData} (among : run ∈ runs) :
    0 < occurrences runs run.result.scenario :=
  List.length_pos_of_mem (mem_runsOf.mpr ⟨among, rfl⟩)

/-- The pairs are made of the runs that are alone on their side. -/
theorem mem_pairRuns_pairs (sorts : Sorts compareScenarios sort) {pair : RunPair} :
    pair ∈ (pairRuns sort baseline comparison).pairs ↔
      ∃ spec, pair ∈ (contribution baseline comparison spec).pairs := by
  rw [pairRuns, foldl_pairSpec]
  simp only [List.nil_append, List.mem_flatMap]
  constructor
  · rintro ⟨spec, _, contributed⟩
    exact ⟨spec, contributed⟩
  · rintro ⟨spec, contributed⟩
    refine ⟨spec, (mem_pairedSpecs sorts).mpr ?_, contributed⟩
    rw [occurrences, (mem_contribution_pairs.mp contributed).1, List.length_singleton]
    omega

/-- A scenario adds no issue if it is paired and the pair matches. -/
theorem contribution_issues_eq_nil :
    (contribution baseline comparison spec).issues = [] ↔
      (occurrences baseline spec = 1 ∧ occurrences comparison spec = 1) ∧
      ∀ pair ∈ (contribution baseline comparison spec).pairs, pair.workloadMatches = true := by
  by_cases once : occurrences baseline spec = 1 ∧ occurrences comparison spec = 1
  · obtain ⟨baselineRun, _, comparisonRun, _, _, _, pairs, issues⟩ :=
      contribution_contributes.paired once
    rw [issues, pairs]
    cases workloadMatches baselineRun comparisonRun <;> simp [once]
  · have length := (contribution_contributes.unpaired once).2
    simp only [once, false_and, iff_false]
    intro none
    rw [none] at length
    cases length

/-- Without an issue, every scenario that occurs has one run on each side. -/
theorem pairRuns_issues_eq_nil (sorts : Sorts compareScenarios sort) :
    (pairRuns sort baseline comparison).issues = [] ↔
      (∀ spec, 0 < occurrences baseline spec + occurrences comparison spec →
        occurrences baseline spec = 1 ∧ occurrences comparison spec = 1) ∧
      ∀ pair ∈ (pairRuns sort baseline comparison).pairs, pair.workloadMatches = true := by
  have issues : (pairRuns sort baseline comparison).issues = [] ↔
      ∀ spec, 0 < occurrences baseline spec + occurrences comparison spec →
        (contribution baseline comparison spec).issues = [] := by
    rw [pairRuns, foldl_pairSpec]
    simp only [List.nil_append, List.flatMap_eq_nil_iff, mem_pairedSpecs sorts]
  rw [issues]
  simp only [contribution_issues_eq_nil, mem_pairRuns_pairs sorts]
  constructor
  · intro clean
    refine ⟨fun spec occurs => (clean spec occurs).1, ?_⟩
    rintro pair ⟨spec, contributed⟩
    refine (clean spec ?_).2 pair contributed
    rw [occurrences, (mem_contribution_pairs.mp contributed).1, List.length_singleton]
    omega
  · rintro ⟨once, alike⟩ spec occurs
    exact ⟨once spec occurs, fun pair contributed => alike pair ⟨spec, contributed⟩⟩

/-- A run that is alone on its side, as is its counterpart, is in a pair. -/
theorem contribution_of_once {baselineRun comparisonRun : RunData}
    (once : occurrences baseline spec = 1 ∧ occurrences comparison spec = 1)
    (inBaseline : baselineRun ∈ runsOf baseline spec)
    (inComparison : comparisonRun ∈ runsOf comparison spec) :
    ⟨baselineRun, comparisonRun, workloadMatches baselineRun comparisonRun⟩ ∈
      (contribution baseline comparison spec).pairs := by
  obtain ⟨_, only⟩ := List.length_eq_one_iff.mp once.1
  obtain ⟨_, only'⟩ := List.length_eq_one_iff.mp once.2
  rw [only, List.mem_singleton] at inBaseline
  rw [only', List.mem_singleton] at inComparison
  rw [inBaseline, inComparison]
  exact mem_contribution_pairs.mpr ⟨only, only', rfl⟩

/-- Where every scenario is paired, the pairs cover both sides. -/
theorem pairs_cover (sorts : Sorts compareScenarios sort)
    (paired : ∀ spec, 0 < occurrences baseline spec + occurrences comparison spec →
      occurrences baseline spec = 1 ∧ occurrences comparison spec = 1)
    (property : RunData → Prop) :
    (∀ pair ∈ (pairRuns sort baseline comparison).pairs,
      property pair.baseline ∧ property pair.comparison) ↔
      ∀ run ∈ baseline ++ comparison, property run := by
  constructor
  · intro covered run among
    have occurs : 0 < occurrences baseline run.result.scenario +
        occurrences comparison run.result.scenario := by
      rcases List.mem_append.mp among with inBaseline | inComparison
      · have present := occurrences_pos inBaseline
        omega
      · have present := occurrences_pos inComparison
        omega
    have once := paired run.result.scenario occurs
    obtain ⟨left, leftRuns⟩ := List.length_eq_one_iff.mp once.1
    obtain ⟨right, rightRuns⟩ := List.length_eq_one_iff.mp once.2
    have contributed := contribution_of_once once
      (by rw [leftRuns]; exact List.mem_singleton_self left)
      (by rw [rightRuns]; exact List.mem_singleton_self right)
    have holds := covered _ ((mem_pairRuns_pairs sorts).mpr ⟨_, contributed⟩)
    rcases List.mem_append.mp among with inBaseline | inComparison
    · have same := mem_runsOf.mpr ⟨inBaseline, rfl⟩
      rw [leftRuns, List.mem_singleton] at same
      exact same ▸ holds.1
    · have same := mem_runsOf.mpr ⟨inComparison, rfl⟩
      rw [rightRuns, List.mem_singleton] at same
      exact same ▸ holds.2
  · intro covered pair among
    obtain ⟨spec, contributed⟩ := (mem_pairRuns_pairs sorts).mp among
    obtain ⟨only, only', _⟩ := mem_contribution_pairs.mp contributed
    have inBaseline : pair.baseline ∈ runsOf baseline spec := by rw [only]; simp
    have inComparison : pair.comparison ∈ runsOf comparison spec := by rw [only']; simp
    constructor
    · exact covered _ (List.mem_append_left _ (mem_runsOf.mp inBaseline).1)
    · exact covered _ (List.mem_append_right _ (mem_runsOf.mp inComparison).1)

/-- The pairs agree on their workloads exactly if the runs they are made of do. -/
theorem pairs_alike_iff (sorts : Sorts compareScenarios sort)
    (paired : ∀ spec, 0 < occurrences baseline spec + occurrences comparison spec →
      occurrences baseline spec = 1 ∧ occurrences comparison spec = 1) :
    (∀ pair ∈ (pairRuns sort baseline comparison).pairs, pair.workloadMatches = true) ↔
      ∀ baselineRun ∈ baseline, ∀ comparisonRun ∈ comparison,
        baselineRun.result.scenario = comparisonRun.result.scenario →
        workloadMatches baselineRun comparisonRun = true := by
  constructor
  · intro alike baselineRun inBaseline comparisonRun inComparison same
    have once := paired baselineRun.result.scenario (by
      have present := occurrences_pos inBaseline
      omega)
    have contributed := contribution_of_once once (mem_runsOf.mpr ⟨inBaseline, rfl⟩)
      (mem_runsOf.mpr ⟨inComparison, same.symm⟩)
    exact alike _ ((mem_pairRuns_pairs sorts).mpr ⟨_, contributed⟩)
  · intro alike pair among
    obtain ⟨spec, contributed⟩ := (mem_pairRuns_pairs sorts).mp among
    obtain ⟨only, only', matched⟩ := mem_contribution_pairs.mp contributed
    have inBaseline : pair.baseline ∈ runsOf baseline spec := by rw [only]; simp
    have inComparison : pair.comparison ∈ runsOf comparison spec := by rw [only']; simp
    rw [mem_runsOf] at inBaseline inComparison
    rw [matched]
    apply alike _ inBaseline.1 _ inComparison.1
    rw [inBaseline.2, inComparison.2]

/-- Some pair exists exactly if some baseline run does. -/
theorem pairs_ne_nil_iff (sorts : Sorts compareScenarios sort)
    (paired : ∀ spec, 0 < occurrences baseline spec + occurrences comparison spec →
      occurrences baseline spec = 1 ∧ occurrences comparison spec = 1) :
    (pairRuns sort baseline comparison).pairs ≠ [] ↔ baseline ≠ [] := by
  constructor
  · intro pairs
    obtain ⟨pair, among⟩ := List.exists_mem_of_ne_nil _ pairs
    obtain ⟨spec, contributed⟩ := (mem_pairRuns_pairs sorts).mp among
    have only := (mem_contribution_pairs.mp contributed).1
    have inBaseline : pair.baseline ∈ runsOf baseline spec := by rw [only]; simp
    exact List.ne_nil_of_mem (mem_runsOf.mp inBaseline).1
  · intro runs
    obtain ⟨run, among⟩ := List.exists_mem_of_ne_nil _ runs
    have once := paired run.result.scenario (by
      have present := occurrences_pos among
      omega)
    obtain ⟨right, rightRuns⟩ := List.length_eq_one_iff.mp once.2
    have contributed := contribution_of_once once (mem_runsOf.mpr ⟨among, rfl⟩)
      (by rw [rightRuns]; exact List.mem_singleton_self right)
    exact List.ne_nil_of_mem ((mem_pairRuns_pairs sorts).mpr ⟨_, contributed⟩)

end Coverage

/-- A check passes when it returns. -/
theorem isOk_iff {result : Except String Unit} : result.isOk = true ↔ result = .ok () := by
  cases result with
  | error message => simp [Except.isOk, Except.toBool]
  | ok value => simp [Except.isOk, Except.toBool]

/-- The comparison's verdict, in terms of the two sides alone. -/
theorem performanceValid_iff {sort : List ScenarioSpec → List ScenarioSpec}
    (sorts : Sorts compareScenarios sort) (baseline comparison : Side) :
    (comparisonStatus sort baseline comparison).performanceValid = true ↔
      Comparable baseline comparison := by
  simp only [comparisonStatus, Bool.and_eq_true, Bool.not_eq_true', List.isEmpty_iff,
    List.all_eq_true, List.isEmpty_eq_false_iff, decide_eq_true_eq, List.forall_mem_map,
    pairMetrics, pairPerformanceValid, isOk_iff, pairRuns_issues_eq_nil sorts]
  constructor
  · rintro ⟨⟨revisions, ⟨⟨⟨⟨pairs, paired, alike⟩, _⟩, loaded⟩, loaded'⟩, valid⟩, performed⟩
    constructor
    · exact revisions.1.1
    · exact revisions.1.2
    · exact revisions.2
    · exact ⟨loaded, loaded'⟩
    · exact (pairs_ne_nil_iff sorts paired).mp pairs
    · exact paired
    · exact (pairs_alike_iff sorts paired).mp alike
    · exact (pairs_cover sorts paired (fun run => validateRun run = .ok ())).mp valid
    · apply (pairs_cover sorts paired (fun run => pacingValid run.result = true)).mp
      intro pair among
      exact ⟨(performed pair among).1.1.1.2, (performed pair among).1.1.2⟩
    · apply (pairs_cover sorts paired (fun run => telemetryComplete (telemetry run) = true)).mp
      intro pair among
      exact ⟨(performed pair among).1.2, (performed pair among).2⟩
  · intro comparable
    have paired := comparable.paired
    have pairs := (pairs_ne_nil_iff sorts paired).mpr comparable.present
    have alike := (pairs_alike_iff sorts paired).mpr comparable.alike
    have valid := (pairs_cover sorts paired (fun run => validateRun run = .ok ())).mpr
      comparable.valid
    have paced := (pairs_cover sorts paired (fun run => pacingValid run.result = true)).mpr
      comparable.paced
    have complete := (pairs_cover sorts paired
      (fun run => telemetryComplete (telemetry run) = true)).mpr comparable.complete
    refine ⟨⟨⟨⟨comparable.baselineRevision, comparable.comparisonRevision⟩,
      comparable.revisionsDiffer⟩, ⟨⟨⟨⟨pairs, paired, alike⟩, alike⟩, comparable.loaded.1⟩,
      comparable.loaded.2⟩, valid⟩, ?_⟩
    intro pair among
    exact ⟨⟨⟨⟨alike pair among, (paced pair among).1⟩, (paced pair among).2⟩,
      (complete pair among).1⟩, (complete pair among).2⟩

/-- Complete telemetry has samples and no unavailable record. -/
theorem sampled_of_complete {run : RunData} (complete : telemetryComplete (telemetry run) = true) :
    ∃ set, run.samples = some set ∧ set.samples ≠ [] ∧ set.unavailable = 0 := by
  simp only [telemetryComplete, Bool.and_eq_true, decide_eq_true_eq, and_assoc] at complete
  obtain ⟨present, available, _⟩ := complete
  unfold telemetry at present available
  cases samples : run.samples with
  | none =>
    rw [samples] at present
    cases present
  | some set =>
    rw [samples] at present available
    refine ⟨set, rfl, ?_, available⟩
    intro empty
    simp [TelemetrySummary.fromSamples, empty] at present

/-- A side that was compared is sound but for its packet loops. -/
theorem sound_iff {side : Side} (loaded : side.failures = []) (present : side.runs ≠ [])
    (valid : ∀ run ∈ side.runs, validateRun run = .ok ())
    (paced : ∀ run ∈ side.runs, pacingValid run.result = true)
    (complete : ∀ run ∈ side.runs, telemetryComplete (telemetry run) = true) :
    Sound side ↔ ∀ run ∈ side.runs, ∀ set ∈ run.samples, ∀ sample ∈ set.samples,
      sample.packetLoopUnresponsive = false := by
  constructor
  · intro sound run among set samples
    obtain ⟨set', samples', _, _, responsive⟩ := sound.sampled run among
    rw [Option.mem_def, samples'] at samples
    exact Option.some.inj samples ▸ responsive
  · intro responsive
    have sampled := fun run among => sampled_of_complete (complete run among)
    have passed : side.runs.all runPassed = true := by
      rw [List.all_eq_true]
      intro run among
      exact isOk_iff.mpr (valid run among)
    constructor
    · rw [exactStatus, loaded, passed, List.isEmpty_eq_false_iff.mpr present]
      rfl
    · rw [pacingStatus, List.isEmpty_eq_false_iff.mpr present, List.all_eq_true.mpr paced]
      rfl
    · obtain ⟨first, among⟩ := List.exists_mem_of_ne_nil _ present
      obtain ⟨set, samples, _⟩ := sampled first among
      have some : ¬side.runs.all (fun run => run.samples.isNone) = true := by
        intro none
        have absent := List.all_eq_true.mp none first among
        rw [samples] at absent
        cases absent
      have nowhere : ¬side.runs.any (fun run => run.samples.all (fun set =>
          set.samples.isEmpty || decide (0 < set.unavailable))) = true := by
        rw [List.any_eq_true]
        rintro ⟨run, among, incomplete⟩
        obtain ⟨set, samples, filled, available⟩ := sampled run among
        rw [samples] at incomplete
        simp [filled, available] at incomplete
      have healthy : ¬side.runs.any (fun run => run.samples.any (fun set =>
          set.samples.any TelemetrySample.packetLoopUnresponsive)) = true := by
        rw [List.any_eq_true]
        rintro ⟨run, among, unhealthy⟩
        obtain ⟨set, samples, _⟩ := sampled run among
        rw [samples] at unhealthy
        obtain ⟨sample, inSet, unresponsive⟩ := List.any_eq_true.mp unhealthy
        rw [responsive run among set samples sample inSet] at unresponsive
        cases unresponsive
      rw [telemetryStatus, if_neg some, if_neg nowhere, if_neg healthy]
    · intro run among
      obtain ⟨set, samples, filled, available⟩ := sampled run among
      exact ⟨set, samples, filled, available, responsive run among set samples⟩

/-- The comparison's verdict agrees with both reports exactly if it never passes
over an unresponsive packet loop on evidence that is otherwise in order. -/
theorem verdict_agrees_iff {sort : List ScenarioSpec → List ScenarioSpec}
    (sorts : Sorts compareScenarios sort) (baseline comparison : Side) :
    ((comparisonStatus sort baseline comparison).performanceValid = true →
      Sound baseline ∧ Sound comparison) ↔
      (Comparable baseline comparison → Responsive baseline comparison) := by
  rw [performanceValid_iff sorts]
  refine imp_congr_right ?_
  intro comparable
  have present' : comparison.runs ≠ [] := by
    obtain ⟨run, among⟩ := List.exists_mem_of_ne_nil _ comparable.present
    have once := comparable.paired run.result.scenario (by
      have occurs := occurrences_pos among
      omega)
    intro none
    rw [none] at once
    cases once.2
  rw [sound_iff comparable.loaded.1 comparable.present, sound_iff comparable.loaded.2 present']
  · rw [Responsive, List.forall_mem_append]
  · exact (List.forall_mem_append.mp comparable.valid).2
  · exact (List.forall_mem_append.mp comparable.paced).2
  · exact (List.forall_mem_append.mp comparable.complete).2
  · exact (List.forall_mem_append.mp comparable.valid).1
  · exact (List.forall_mem_append.mp comparable.paced).1
  · exact (List.forall_mem_append.mp comparable.complete).1

/-- Two scrapes a second apart; the first may miss a worker's heartbeat. -/
def secondOfTelemetry (heartbeat : Bool) : SampleSet where
  samples :=
    let opening : TelemetrySample := { TelemetrySample.default with
      elapsedMs := 0
      finalSample := some false
      clockTicksPerSecond := some 100
      serverCpuTicks := some 10
      serverStartTimeTicks := some 1
      serverRssBytes := some 4096
      rtcCpuTicks := some 5
      rtcRssBytes := some 4096
      forwardedPackets := some 0
      egressPayloadBytes := some 0
      packetLoopDelayMs := if heartbeat then some 1 else none
      packetLoopUnresponsive := !heartbeat }
    [opening, { opening with
      elapsedMs := 1000
      finalSample := some true
      serverCpuTicks := some 60
      serverCpuPercentMilli := some 50000
      rtcCpuTicks := some 15
      rtcCpuPercentMilli := some 10000
      forwardedPackets := some 1
      egressPayloadBytes := some 80
      packetLoopDelayMs := some 2
      packetLoopUnresponsive := false }]
  phases := []
  unavailable := 0
  errors := []

/-- A passing smoke of one packet, sampled over a second. -/
def sampledSmoke (revision : String) (heartbeat : Bool) : Side where
  runs := [{
    source := "artifacts/smoke"
    result := {
      schemaVersion := resultSchemaVersion
      profile := "opus-fanout-smoke-v3"
      oSfuRevision := some revision
      scenario := .smoke 1 1
      serverPolicy := ServerPolicy.forScenario (.smoke 1 1)
      plan := ⟨1, 1, 1, 80, 1, 80⟩
      offeredPackets := 1
      offeredPayloadBytes := 80
      deliveredPackets := 1
      deliveredPayloadBytes := 80
      correctness := .zero
      elapsedMs := 1
      maxSendLagMs := 0 }
    samples := some (secondOfTelemetry heartbeat) }]
  failures := []

/-- Two passing smokes are in order for any sort. -/
theorem sampledSmoke_inOrder (heartbeat : Bool) :
    (((sampledSmoke "0123456789abcdef0123456789abcdef01234567" heartbeat).runs ++
      (sampledSmoke "76543210fedcba9876543210fedcba9876543210" true).runs).map
        (fun run => run.result.scenario)).Pairwise
          (fun earlier later => (compareScenarios earlier later).isLE) := by
  cases heartbeat <;> decide +kernel

/-- With every heartbeat present, both reports agree with the comparison. -/
theorem steady_smoke_is_sound :
    Sound (sampledSmoke "0123456789abcdef0123456789abcdef01234567" true) ∧
    Sound (sampledSmoke "76543210fedcba9876543210fedcba9876543210" true) := by
  refine (verdict_agrees_iff stable_sorts _ _).mpr ?_ ?_
  · intro _
    rw [Responsive]
    decide +kernel
  · rw [comparisonStatus, pairRuns, pairedSpecs, stable_of_ordered (sampledSmoke_inOrder true)]
    decide +kernel

/-- A missed heartbeat on the baseline: the comparison calls the samples valid,
the baseline's own report calls its telemetry unhealthy. -/
theorem missed_heartbeat_is_valid :
    Sorts compareScenarios (stable compareScenarios) ∧
    (comparisonStatus (stable compareScenarios)
      (sampledSmoke "0123456789abcdef0123456789abcdef01234567" false)
      (sampledSmoke "76543210fedcba9876543210fedcba9876543210" true)).performanceValid = true ∧
    telemetryStatus (sampledSmoke "0123456789abcdef0123456789abcdef01234567" false).runs =
      "UNHEALTHY" ∧
    ¬Sound (sampledSmoke "0123456789abcdef0123456789abcdef01234567" false) := by
  have unhealthy : telemetryStatus
      (sampledSmoke "0123456789abcdef0123456789abcdef01234567" false).runs = "UNHEALTHY" := by
    decide +kernel
  refine ⟨stable_sorts, ?_, unhealthy, ?_⟩
  · rw [comparisonStatus, pairRuns, pairedSpecs, stable_of_ordered (sampledSmoke_inOrder false)]
    decide +kernel
  · intro sound
    have complete := sound.telemetry
    rw [unhealthy] at complete
    exact absurd complete (by decide +kernel)

end SfuLoad.Report
