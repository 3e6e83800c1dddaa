import SfuLoad.Model.Workload
import SfuLoad.Report.Pairing
import Mathlib.Data.List.Flatten

/-!
# What pairing promises, and where the key breaks it

Two smokes without a plan have the same key when their packets round to the same
seconds. A sort may then put one of them between two occurrences of the other,
and the adjacent duplicates are no longer adjacent. Nothing else can go wrong:
without such a neighbour every scenario is handled exactly once.
-/

namespace SfuLoad.Report

open Kit.Sorting Model Std
open scoped List

/-- A smoke without receivers, or with more delivered bytes than can be counted. -/
def Unplanned (receivers packets : UInt32) : Prop :=
  receivers = 0 ∨ 2 ^ 64 ≤ receivers.toNat * packets.toNat * 80

/-- Whether a smoke has a plan can be computed. -/
instance (receivers packets : UInt32) : Decidable (Unplanned receivers packets) :=
  inferInstanceAs (Decidable (_ ∨ _))

/-- Two different scenarios the key cannot tell apart. -/
inductive Confused : ScenarioSpec → ScenarioSpec → Prop where
  | smokes (receivers packets others : UInt32) (different : packets ≠ others)
      (unplanned : Unplanned receivers packets) (unplanned' : Unplanned receivers others)
      (rounded : (packets.toNat + 49) / 50 = (others.toNat + 49) / 50) :
      Confused (.smoke receivers packets) (.smoke receivers others)

/-- Being confused is mutual. -/
theorem Confused.symm {spec other : ScenarioSpec} (confused : Confused spec other) :
    Confused other spec := by
  cases confused with
  | smokes receivers packets others different unplanned unplanned' rounded =>
    exact .smokes receivers others packets different.symm unplanned' unplanned rounded.symm

/-- Confused scenarios are different ones. -/
theorem Confused.ne {spec other : ScenarioSpec} (confused : Confused spec other) :
    spec ≠ other := by
  cases confused with
  | smokes receivers packets others different unplanned unplanned' rounded =>
    intro same
    exact different (ScenarioSpec.smoke.inj same).2

/-- The deliveries the key works with. -/
def plannedDeliveries (spec : ScenarioSpec) : UInt64 :=
  match spec.plan with
  | .ok plan => plan.expectedDeliveries
  | .error _ => 0

/-- The key of a smoke without a plan has no deliveries. -/
theorem plannedDeliveries_of_unplanned {receivers packets : UInt32}
    (unplanned : Unplanned receivers packets) :
    plannedDeliveries (.smoke receivers packets) = 0 := by
  unfold plannedDeliveries
  split
  · next plan planned =>
    obtain ⟨present, fits⟩ := ScenarioSpec.smoke_fits planned
    rcases unplanned with absent | overflow
    · rw [absent] at present
      exact absurd present (by decide)
    · omega
  · rfl

/-- The key of a smoke with a plan has the receivers times the packets. -/
theorem plannedDeliveries_of_planned {receivers packets : UInt32}
    (planned : ¬Unplanned receivers packets) :
    (plannedDeliveries (.smoke receivers packets)).toNat =
      receivers.toNat * packets.toNat := by
  simp only [Unplanned, not_or, Nat.not_le] at planned
  have present : 1 ≤ receivers.toNat := by
    rw [← UInt32.toNat_inj] at planned
    exact Nat.pos_of_ne_zero planned.1
  obtain ⟨plan, planEq, _, _, _, _, deliveries, _⟩ :=
    ScenarioSpec.smoke_planned present planned.2
  rw [plannedDeliveries, planEq]
  exact deliveries

/-- A smoke's seconds are its packets, fifty to the second, rounded up. -/
theorem durationSeconds_smoke (receivers packets : UInt32) :
    (ScenarioSpec.smoke receivers packets).durationSeconds.toNat = (packets.toNat + 49) / 50 := by
  have bound := packets.toNat_lt
  simp only [ScenarioSpec.durationSeconds, audioPacketsPerSecond, UInt32.toNat_ofNat']
  rw [Nat.mod_eq_of_lt (by simp only [UInt32.reduceToNat]; omega)]
  rfl

/-- Smokes with the same receivers and the same rounded duration are told apart
by their deliveries, if one of them has a plan. -/
theorem smoke_packets_eq {receivers packets others : UInt32}
    (planned : ¬Unplanned receivers packets)
    (rounded : (packets.toNat + 49) / 50 = (others.toNat + 49) / 50)
    (deliveries : plannedDeliveries (.smoke receivers packets) =
      plannedDeliveries (.smoke receivers others)) :
    packets = others := by
  have counted := plannedDeliveries_of_planned planned
  have present : 0 < receivers.toNat := by
    rw [Unplanned, not_or, ← UInt32.toNat_inj] at planned
    exact Nat.pos_of_ne_zero planned.1
  apply UInt32.toNat_inj.mp
  by_cases other : Unplanned receivers others
  · rw [deliveries, plannedDeliveries_of_unplanned other, UInt64.toNat_zero] at counted
    have empty : packets.toNat = 0 := by
      rcases Nat.mul_eq_zero.mp counted.symm with none | none
      · omega
      · exact none
    omega
  · rw [deliveries, plannedDeliveries_of_planned other] at counted
    exact (Nat.eq_of_mul_eq_mul_left present counted).symm

/-- So two smokes share a key if their receivers, seconds and planned deliveries agree. -/
theorem scenarioKey_smoke_eq_iff {receivers packets receivers' packets' : UInt32} :
    scenarioKey (.smoke receivers packets) = scenarioKey (.smoke receivers' packets') ↔
      receivers = receivers' ∧ (packets.toNat + 49) / 50 = (packets'.toNat + 49) / 50 ∧
      plannedDeliveries (.smoke receivers packets) =
        plannedDeliveries (.smoke receivers' packets') := by
  rw [← durationSeconds_smoke receivers packets, ← durationSeconds_smoke receivers' packets',
    UInt32.toNat_inj]
  simp only [scenarioKey, Prod.mk.injEq, ScenarioSpec.peersPerRoom, UInt32.add_left_inj,
    true_and, ScenarioSpec.roomCount, ScenarioSpec.audioPublishersPerRoom,
    ScenarioSpec.videoPublishersPerRoom]
  constructor
  · rintro ⟨_, deliveries, receiversEq, duration⟩
    exact ⟨receiversEq, duration, deliveries⟩
  · rintro ⟨receiversEq, duration, deliveries⟩
    exact ⟨by rw [duration]; exact congrArg (· / _) deliveries, deliveries, receiversEq, duration⟩

/-- The key separates all scenarios but confused ones. -/
theorem scenarioKey_eq_iff {spec other : ScenarioSpec} :
    scenarioKey spec = scenarioKey other ↔ spec = other ∨ Confused spec other := by
  constructor
  · intro sameKey
    cases spec with
    | smoke receivers packets =>
      cases other with
      | smoke receivers' others =>
        obtain ⟨rfl, rounded, deliveries⟩ := scenarioKey_smoke_eq_iff.mp sameKey
        by_cases unplanned : Unplanned receivers packets
        · by_cases unplanned' : Unplanned receivers others
          · by_cases same : packets = others
            · exact .inl (by rw [same])
            · exact .inr (.smokes _ _ _ same unplanned unplanned' rounded)
          · exact .inl (by rw [smoke_packets_eq unplanned' rounded.symm deliveries.symm])
        · exact .inl (by rw [smoke_packets_eq unplanned rounded deliveries])
      | audioMesh => simp [scenarioKey] at sameKey
      | videoGallery => simp [scenarioKey] at sameKey
      | mixedConference => simp [scenarioKey] at sameKey
    | audioMesh rooms peers seconds =>
      cases other with
      | audioMesh =>
        simp only [scenarioKey, Prod.mk.injEq] at sameKey
        obtain ⟨_, _, _, rooms, peers, _, _, seconds⟩ := sameKey
        exact .inl (congr (congr (congrArg _ rooms) peers) seconds)
      | smoke => simp [scenarioKey] at sameKey
      | videoGallery => simp [scenarioKey] at sameKey
      | mixedConference => simp [scenarioKey] at sameKey
    | videoGallery rooms peers publishers seconds =>
      cases other with
      | videoGallery =>
        simp only [scenarioKey, Prod.mk.injEq] at sameKey
        obtain ⟨_, _, _, rooms, peers, _, publishers, seconds⟩ := sameKey
        exact .inl (congr (congr (congr (congrArg _ rooms) peers) publishers) seconds)
      | smoke => simp [scenarioKey] at sameKey
      | audioMesh => simp [scenarioKey] at sameKey
      | mixedConference => simp [scenarioKey] at sameKey
    | mixedConference rooms peers audioPublishers videoPublishers seconds =>
      cases other with
      | mixedConference =>
        simp only [scenarioKey, Prod.mk.injEq] at sameKey
        obtain ⟨_, _, _, rooms, peers, audio, video, seconds⟩ := sameKey
        exact .inl (congr (congr (congr (congr (congrArg _ rooms) peers) audio) video) seconds)
      | smoke => simp [scenarioKey] at sameKey
      | audioMesh => simp [scenarioKey] at sameKey
      | videoGallery => simp [scenarioKey] at sameKey
  · rintro (rfl | confused)
    · rfl
    · cases confused with
      | smokes receivers packets others different unplanned unplanned' rounded =>
        refine scenarioKey_smoke_eq_iff.mpr ⟨rfl, rounded, ?_⟩
        rw [plannedDeliveries_of_unplanned unplanned, plannedDeliveries_of_unplanned unplanned']

/-- How often a scenario occurs among some runs. -/
def occurrences (runs : List RunData) (spec : ScenarioSpec) : Nat :=
  (runsOf runs spec).length

/-- What one scenario adds to a pairing. -/
structure Contributes (baseline comparison : List RunData) (spec : ScenarioSpec)
    (added : Pairing) : Prop where
  /-- Exactly one run on each side makes a pair, with an issue if they disagree. -/
  paired : occurrences baseline spec = 1 ∧ occurrences comparison spec = 1 →
    ∃ baselineRun ∈ baseline, ∃ comparisonRun ∈ comparison,
      baselineRun.result.scenario = spec ∧ comparisonRun.result.scenario = spec ∧
      added.pairs = [⟨baselineRun, comparisonRun, workloadMatches baselineRun comparisonRun⟩] ∧
      added.issues = if workloadMatches baselineRun comparisonRun then []
        else [s!"{scenarioLabel spec} has different workload contracts"]
  /-- Anything else makes one issue and no pair. -/
  unpaired : ¬(occurrences baseline spec = 1 ∧ occurrences comparison spec = 1) →
    added.pairs = [] ∧ added.issues.length = 1

/-- One turn of the pairing loop, taken on its own. -/
def contribution (baseline comparison : List RunData) (spec : ScenarioSpec) : Pairing :=
  pairSpec baseline comparison ⟨[], []⟩ spec

/-- Pairing is a partition of the scenarios that occur, by whatever order the
runs come in. -/
structure Partition (sort : List ScenarioSpec → List ScenarioSpec)
    (baseline comparison : List RunData) : Prop where
  once : (pairedSpecs sort baseline comparison).Nodup
  every : ∀ spec, spec ∈ pairedSpecs sort baseline comparison ↔
    0 < occurrences baseline spec + occurrences comparison spec
  contributes : ∀ spec ∈ pairedSpecs sort baseline comparison,
    Contributes baseline comparison spec (contribution baseline comparison spec)
  pairs : (pairRuns sort baseline comparison).pairs =
    (pairedSpecs sort baseline comparison).flatMap
      (fun spec => (contribution baseline comparison spec).pairs)
  issues : (pairRuns sort baseline comparison).issues =
    (pairedSpecs sort baseline comparison).flatMap
      (fun spec => (contribution baseline comparison spec).issues)
  baselineOnce : ((pairRuns sort baseline comparison).pairs.map RunPair.baseline).Nodup
  comparisonOnce : ((pairRuns sort baseline comparison).pairs.map RunPair.comparison).Nodup
  permuted : ∀ sort' baseline' comparison', Sorts compareScenarios sort' →
    baseline'.Perm baseline → comparison'.Perm comparison →
    (pairRuns sort' baseline' comparison').pairs.Perm
      (pairRuns sort baseline comparison).pairs ∧
    (pairRuns sort' baseline' comparison').issues.Perm
      (pairRuns sort baseline comparison).issues
  dashboards : ∀ spec baselineRun comparisonRun,
    matchingPair baseline comparison spec = some (baselineRun, comparisonRun) ↔
      ⟨baselineRun, comparisonRun, true⟩ ∈ (pairRuns sort baseline comparison).pairs ∧
      baselineRun.result.scenario = spec

section Loop

variable {sort : List ScenarioSpec → List ScenarioSpec} {baseline comparison : List RunData}
  {spec : ScenarioSpec}

/-- The runs of a scenario are the runs that have it. -/
theorem mem_runsOf {runs : List RunData} {run : RunData} :
    run ∈ runsOf runs spec ↔ run ∈ runs ∧ run.result.scenario = spec := by
  simp [runsOf]

/-- A turn only adds to the pairing, and what it adds does not depend on it. -/
theorem pairSpec_eq (pairing : Pairing) :
    pairSpec baseline comparison pairing spec =
      ⟨pairing.pairs ++ (contribution baseline comparison spec).pairs,
        pairing.issues ++ (contribution baseline comparison spec).issues⟩ := by
  unfold contribution pairSpec
  split
  · next baselineRun comparisonRun _ _ =>
    cases workloadMatches baselineRun comparisonRun <;> simp
  · simp
  · simp
  · simp

/-- Pairing collects what each scenario adds, in their order. -/
theorem foldl_pairSpec (specs : List ScenarioSpec) (pairing : Pairing) :
    specs.foldl (pairSpec baseline comparison) pairing =
      ⟨pairing.pairs ++ specs.flatMap (fun spec => (contribution baseline comparison spec).pairs),
        pairing.issues ++
          specs.flatMap (fun spec => (contribution baseline comparison spec).issues)⟩ := by
  induction specs generalizing pairing with
  | nil => simp
  | cons spec rest hypothesis =>
    rw [List.foldl_cons, hypothesis, pairSpec_eq]
    simp [List.append_assoc]

/-- A scenario adds a pair if it has one run on each side. -/
theorem mem_contribution_pairs {pair : RunPair} :
    pair ∈ (contribution baseline comparison spec).pairs ↔
      runsOf baseline spec = [pair.baseline] ∧ runsOf comparison spec = [pair.comparison] ∧
      pair.workloadMatches = workloadMatches pair.baseline pair.comparison := by
  unfold contribution pairSpec
  obtain ⟨left, right, matched⟩ := pair
  split
  · next baselineRun comparisonRun baselineRuns comparisonRuns =>
    simp only [baselineRuns, comparisonRuns, List.nil_append, List.mem_singleton,
      RunPair.mk.injEq, List.cons.injEq, and_true]
    constructor
    · rintro ⟨rfl, rfl, rfl⟩
      exact ⟨rfl, rfl, rfl⟩
    · rintro ⟨rfl, rfl, rfl⟩
      exact ⟨rfl, rfl, rfl⟩
  · next baselineRuns => simp [baselineRuns]
  · next comparisonRuns _ => simp [comparisonRuns]
  · next unpaired =>
    simp only [List.not_mem_nil, false_iff, not_and]
    intro baselineRuns comparisonRuns
    exact (unpaired _ _ baselineRuns comparisonRuns).elim

/-- What a scenario adds is what the promise says. -/
theorem contribution_contributes :
    Contributes baseline comparison spec (contribution baseline comparison spec) where
  paired := by
    rintro ⟨baselineOnce, comparisonOnce⟩
    obtain ⟨baselineRun, baselineRuns⟩ := List.length_eq_one_iff.mp baselineOnce
    obtain ⟨comparisonRun, comparisonRuns⟩ := List.length_eq_one_iff.mp comparisonOnce
    have inBaseline : baselineRun ∈ runsOf baseline spec := by rw [baselineRuns]; simp
    have inComparison : comparisonRun ∈ runsOf comparison spec := by rw [comparisonRuns]; simp
    rw [mem_runsOf] at inBaseline inComparison
    refine ⟨baselineRun, inBaseline.1, comparisonRun, inComparison.1, inBaseline.2,
      inComparison.2, ?_, ?_⟩
    · simp [contribution, pairSpec, baselineRuns, comparisonRuns]
    · simp [contribution, pairSpec, baselineRuns, comparisonRuns]
  unpaired := by
    intro unpaired
    unfold contribution pairSpec
    split
    · next baselineRuns comparisonRuns =>
      simp [occurrences, baselineRuns, comparisonRuns] at unpaired
    · exact ⟨rfl, rfl⟩
    · exact ⟨rfl, rfl⟩
    · exact ⟨rfl, rfl⟩

/-- Whoever has at least two items has them in any order. -/
theorem two_of_perm {α : Type*} {items' : List α} {first second : α} {rest : List α}
    (perm : items'.Perm (first :: second :: rest)) :
    ∃ first' second' rest', items' = first' :: second' :: rest' := by
  have length := perm.length_eq
  match items' with
  | [] => simp at length
  | [_] => simp at length
  | first' :: second' :: rest' => exact ⟨first', second', rest', rfl⟩

/-- The order of the runs does not matter to one turn: without two unique runs
only the numbers of runs matter. -/
theorem contribution_perm {baseline' comparison' : List RunData}
    (perm : baseline'.Perm baseline) (perm' : comparison'.Perm comparison) :
    contribution baseline' comparison' spec = contribution baseline comparison spec := by
  have baselineRuns : (runsOf baseline' spec).Perm (runsOf baseline spec) := perm.filter _
  have comparisonRuns : (runsOf comparison' spec).Perm (runsOf comparison spec) := perm'.filter _
  unfold contribution pairSpec
  generalize runsOf baseline' spec = left' at *
  generalize runsOf baseline spec = left at *
  generalize runsOf comparison' spec = right' at *
  generalize runsOf comparison spec = right at *
  match left, right with
  | [], _ =>
    rw [baselineRuns.eq_nil]
  | [_], [] =>
    rw [baselineRuns.eq_singleton, comparisonRuns.eq_nil]
  | [_], [_] =>
    rw [baselineRuns.eq_singleton, comparisonRuns.eq_singleton]
  | [_], _ :: _ :: _ =>
    obtain ⟨_, _, _, rfl⟩ := two_of_perm comparisonRuns
    rw [baselineRuns.eq_singleton]
  | _ :: _ :: _, [] =>
    obtain ⟨_, _, _, rfl⟩ := two_of_perm baselineRuns
    rw [comparisonRuns.eq_nil]
  | _ :: _ :: _, [_] =>
    obtain ⟨_, _, _, rfl⟩ := two_of_perm baselineRuns
    rw [comparisonRuns.eq_singleton]
  | _ :: _ :: _, _ :: _ :: _ =>
    obtain ⟨_, _, _, rfl⟩ := two_of_perm baselineRuns
    obtain ⟨_, _, _, rfl⟩ := two_of_perm comparisonRuns
    rfl

/-- A scenario occurs as often as it has runs on both sides. -/
theorem count_scenarios :
    ((baseline ++ comparison).map (fun run => run.result.scenario)).count spec =
      occurrences baseline spec + occurrences comparison spec := by
  simp only [occurrences, runsOf, ← List.countP_eq_length_filter, ← List.countP_append,
    List.count, List.countP_map]
  rfl

/-- Every scenario with a run is visited. -/
theorem mem_pairedSpecs (sorts : Sorts compareScenarios sort) :
    spec ∈ pairedSpecs sort baseline comparison ↔
      0 < occurrences baseline spec + occurrences comparison spec := by
  rw [pairedSpecs, mem_dedup, sorts.mem_iff, ← List.count_pos_iff, count_scenarios]

/-- A scenario makes at most one pair. -/
theorem contribution_pairs :
    (contribution baseline comparison spec).pairs = [] ∨
      ∃ pair, (contribution baseline comparison spec).pairs = [pair] := by
  by_cases once : occurrences baseline spec = 1 ∧ occurrences comparison spec = 1
  · obtain ⟨_, _, _, _, _, _, pairs, _⟩ := contribution_contributes.paired once
    exact .inr ⟨_, pairs⟩
  · exact .inl (contribution_contributes.unpaired once).1

/-- On either side, the pairs go through the scenarios in their order. -/
theorem pairs_scenarios_sublist (specs : List ScenarioSpec) (side : RunPair → RunData)
    (sided : ∀ spec, ∀ pair ∈ (contribution baseline comparison spec).pairs,
      (side pair).result.scenario = spec) :
    ((specs.flatMap (fun spec => (contribution baseline comparison spec).pairs)).map side).map
      (fun run => run.result.scenario) <+ specs := by
  induction specs with
  | nil => simp
  | cons spec rest hypothesis =>
    rw [List.flatMap_cons, List.map_append, List.map_append]
    rcases @contribution_pairs baseline comparison spec with none | ⟨pair, one⟩
    · rw [none]
      exact hypothesis.cons spec
    · have scenario := sided spec pair (by rw [one]; simp)
      rw [one]
      simp only [List.map_cons, List.map_nil, List.singleton_append, scenario]
      exact hypothesis.cons_cons spec

/-- The first run of a pair is of the scenario that adds it. -/
theorem contribution_baseline {pair : RunPair}
    (contributed : pair ∈ (contribution baseline comparison spec).pairs) :
    pair.baseline.result.scenario = spec := by
  have only := (mem_contribution_pairs.mp contributed).1
  exact (mem_runsOf.mp (by rw [only]; simp)).2

/-- So is the second. -/
theorem contribution_comparison {pair : RunPair}
    (contributed : pair ∈ (contribution baseline comparison spec).pairs) :
    pair.comparison.result.scenario = spec := by
  have only := (mem_contribution_pairs.mp contributed).2.1
  exact (mem_runsOf.mp (by rw [only]; simp)).2

/-- The only run of a scenario. -/
theorem uniqueScenario_eq_some {runs : List RunData} {run : RunData} :
    uniqueScenario runs spec = some run ↔ runsOf runs spec = [run] := by
  unfold uniqueScenario
  generalize runsOf runs spec = matching
  match matching with
  | [] => simp
  | [_] => simp
  | _ :: _ :: _ => simp

/-- The dashboards pair exactly the runs that the comparison pairs and finds to match. -/
theorem matchingPair_eq_some {baselineRun comparisonRun : RunData} :
    matchingPair baseline comparison spec = some (baselineRun, comparisonRun) ↔
      ⟨baselineRun, comparisonRun, true⟩ ∈ (contribution baseline comparison spec).pairs := by
  rw [mem_contribution_pairs]
  simp only [matchingPair, Option.bind_eq_bind, Option.bind_eq_some_iff,
    Option.ite_none_right_eq_some, uniqueScenario_eq_some, Option.some.injEq, Prod.mk.injEq]
  constructor
  · rintro ⟨_, baselineRuns, _, comparisonRuns, matched, rfl, rfl⟩
    exact ⟨baselineRuns, comparisonRuns, matched.symm⟩
  · rintro ⟨baselineRuns, comparisonRuns, matched⟩
    exact ⟨_, baselineRuns, _, comparisonRuns, matched.symm, rfl, rfl⟩

end Loop

/-- Two occurrences of one scenario and one of another, as a sort may leave them. -/
theorem count_returned {spec other : ScenarioSpec} (different : spec ≠ other) :
    [spec, other, spec].count spec = 2 ∧ [spec, other, spec].count other = 1 := by
  constructor
  · rw [List.count_cons_self, List.count_cons_of_ne different.symm, List.count_cons_self,
      List.count_nil]
  · rw [List.count_cons_of_ne different, List.count_cons_self, List.count_cons_of_ne different,
      List.count_nil]

/-- No scenario that occurs twice is confused with another one that occurs. -/
def Separated (baseline comparison : List RunData) : Prop :=
  ∀ spec other, Confused spec other →
    0 < occurrences baseline other + occurrences comparison other →
    occurrences baseline spec + occurrences comparison spec ≤ 1

section Claim

variable {sort sort' : List ScenarioSpec → List ScenarioSpec}
  {baseline baseline' comparison comparison' : List RunData}

/-- Without confused neighbours no scenario is visited twice. -/
theorem nodup_pairedSpecs (sorts : Sorts compareScenarios sort)
    (separated : Separated baseline comparison) :
    (pairedSpecs sort baseline comparison).Nodup := by
  apply nodup_dedup_iff.mpr
  intro spec other returned
  have sameKey := compareScenarios_eq_iff.mp (sorts.confused_of_return returned)
  rcases scenarioKey_eq_iff.mp sameKey with same | confused
  · exact same
  · exfalso
    have drawn := returned.subperm.trans (sorts.rearranges _).subperm
    have twice := drawn.count_le spec
    have present := drawn.count_le other
    rw [count_scenarios, (count_returned confused.ne).1] at twice
    rw [count_scenarios, (count_returned confused.ne).2] at present
    have once := separated spec other confused present
    omega

/-- Otherwise some sort puts the other scenario between the two. -/
theorem exists_repeating (repeating : ¬Separated baseline comparison) :
    ∃ sort, Sorts compareScenarios sort ∧ ¬(pairedSpecs sort baseline comparison).Nodup := by
  simp only [Separated, not_forall, Nat.not_le] at repeating
  obtain ⟨spec, other, confused, present, twice⟩ := repeating
  have alike : compareScenarios spec other = .eq :=
    compareScenarios_eq_iff.mpr (scenarioKey_eq_iff.mpr (.inr confused))
  have alike' : compareScenarios other spec = .eq :=
    compareScenarios_eq_iff.mpr (scenarioKey_eq_iff.mpr (.inr confused.symm))
  have inOrder : [spec, other, spec].Pairwise
      (fun earlier later => (compareScenarios earlier later).isLE) := by
    simp [alike, alike', ReflCmp.compare_self]
  have drawn : [spec, other, spec] <+~
      (baseline ++ comparison).map (fun run => run.result.scenario) := by
    apply List.subperm_ext_iff.mpr
    intro item among
    rw [count_scenarios]
    rcases List.mem_cons.mp among with rfl | among
    · rw [(count_returned confused.ne).1]
      exact twice
    · rcases List.mem_cons.mp among with rfl | among
      · rw [(count_returned confused.ne).2]
        exact present
      · rw [List.mem_singleton.mp among, (count_returned confused.ne).1]
        exact twice
  obtain ⟨sort, sorts, kept⟩ := exists_keeping inOrder drawn
  refine ⟨sort, sorts, ?_⟩
  intro nodup
  exact confused.ne (nodup_dedup_iff.mp nodup spec other kept)

/-- How often a scenario occurs does not depend on the order. -/
theorem occurrences_perm {runs runs' : List RunData} (perm : runs'.Perm runs)
    (spec : ScenarioSpec) : occurrences runs' spec = occurrences runs spec :=
  (perm.filter _).length_eq

/-- And so neither does being without confused neighbours. -/
theorem Separated.perm (separated : Separated baseline comparison)
    (perm : baseline'.Perm baseline) (perm' : comparison'.Perm comparison) :
    Separated baseline' comparison' := by
  intro spec other confused
  rw [occurrences_perm perm, occurrences_perm perm', occurrences_perm perm,
    occurrences_perm perm']
  exact separated spec other confused

/-- Rearranged runs make the same pairs and issues in some order. -/
theorem pairRuns_perm (sorts : Sorts compareScenarios sort) (sorts' : Sorts compareScenarios sort')
    (separated : Separated baseline comparison)
    (perm : baseline'.Perm baseline) (perm' : comparison'.Perm comparison) :
    (pairRuns sort' baseline' comparison').pairs.Perm (pairRuns sort baseline comparison).pairs ∧
    (pairRuns sort' baseline' comparison').issues.Perm
      (pairRuns sort baseline comparison).issues := by
  have handled : (pairedSpecs sort' baseline' comparison').Perm
      (pairedSpecs sort baseline comparison) := by
    apply (List.perm_ext_iff_of_nodup (nodup_pairedSpecs sorts' (separated.perm perm perm'))
      (nodup_pairedSpecs sorts separated)).mpr
    intro spec
    rw [mem_pairedSpecs sorts, mem_pairedSpecs sorts', occurrences_perm perm,
      occurrences_perm perm']
  rw [pairRuns, pairRuns, foldl_pairSpec, foldl_pairSpec]
  simp only [List.nil_append, contribution_perm perm perm']
  exact ⟨handled.flatMap_right _, handled.flatMap_right _⟩

/-- Pairing is a partition, whatever the sort does with equal keys, exactly when
no scenario that occurs twice shares its key with another one that occurs. -/
theorem pairing_partitions_iff (baseline comparison : List RunData) :
    (∀ sort, Sorts compareScenarios sort → Partition sort baseline comparison) ↔
      Separated baseline comparison := by
  constructor
  · intro partitions
    by_contra repeating
    obtain ⟨sort, sorts, repeated⟩ := exists_repeating repeating
    exact repeated (partitions sort sorts).once
  · intro separated sort sorts
    have once := nodup_pairedSpecs sorts separated
    have composed : pairRuns sort baseline comparison = _ := foldl_pairSpec _ _
    simp only [List.nil_append] at composed
    constructor
    · exact once
    · intro spec
      exact mem_pairedSpecs sorts
    · intro spec _
      exact contribution_contributes
    · rw [composed]
    · rw [composed]
    · rw [composed]
      apply List.Nodup.of_map (fun run => run.result.scenario)
      exact once.sublist (pairs_scenarios_sublist _ _ (fun _ _ => contribution_baseline))
    · rw [composed]
      apply List.Nodup.of_map (fun run => run.result.scenario)
      exact once.sublist (pairs_scenarios_sublist _ _ (fun _ _ => contribution_comparison))
    · intro sort' baseline' comparison' sorts' perm perm'
      exact pairRuns_perm sorts sorts' separated perm perm'
    · intro spec baselineRun comparisonRun
      rw [matchingPair_eq_some, composed]
      simp only [List.mem_flatMap]
      constructor
      · intro contributed
        have present : 0 < occurrences baseline spec := by
          rw [occurrences, (mem_contribution_pairs.mp contributed).1]
          exact Nat.one_pos
        refine ⟨⟨spec, (mem_pairedSpecs sorts).mpr (by omega), contributed⟩, ?_⟩
        exact contribution_baseline contributed
      · rintro ⟨⟨handled, _, contributed⟩, scenario⟩
        rw [← scenario, contribution_baseline contributed]
        exact contributed

end Claim

/-- A decoded result of a smoke without receivers. -/
def emptySmoke (source : String) (packets : UInt32) : RunData where
  source
  result := {
    schemaVersion := resultSchemaVersion
    profile := "opus-fanout-smoke-v3"
    oSfuRevision := none
    scenario := .smoke 0 packets
    serverPolicy := ServerPolicy.forScenario (.smoke 0 packets)
    plan := ⟨0, 0, 0, 0, 0, 0⟩
    offeredPackets := 0
    offeredPayloadBytes := 0
    deliveredPackets := 0
    deliveredPayloadBytes := 0
    correctness := .zero
    elapsedMs := 1
    maxSendLagMs := 0 }
  samples := none

/-- A stable sort leaves the three scenarios as they come, and the outer one is
paired twice. -/
theorem returning_smoke_pairs_twice :
    Sorts compareScenarios (stable compareScenarios) ∧
    ((pairRuns (stable compareScenarios) [emptySmoke "first" 1, emptySmoke "second" 2]
      [emptySmoke "third" 1]).pairs.map (fun pair => (pair.baseline.source, pair.comparison.source))
        = [("first", "third"), ("first", "third")]) ∧
    ¬Partition (stable compareScenarios) [emptySmoke "first" 1, emptySmoke "second" 2]
      [emptySmoke "third" 1] := by
  have inOrder : ([emptySmoke "first" 1, emptySmoke "second" 2] ++ [emptySmoke "third" 1]).map
      (fun run => run.result.scenario) |>.Pairwise
        (fun earlier later => (compareScenarios earlier later).isLE) := by decide +kernel
  have twice : (pairRuns (stable compareScenarios) [emptySmoke "first" 1, emptySmoke "second" 2]
      [emptySmoke "third" 1]).pairs.map
        (fun pair => (pair.baseline.source, pair.comparison.source)) =
      [("first", "third"), ("first", "third")] := by
    rw [pairRuns, pairedSpecs, stable_of_ordered inOrder]
    decide +kernel
  refine ⟨stable_sorts, twice, ?_⟩
  intro partition
  have once := partition.once
  rw [pairedSpecs, stable_of_ordered inOrder] at once
  exact absurd once (by decide +kernel)

end SfuLoad.Report
