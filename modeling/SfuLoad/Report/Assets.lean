import SfuLoad.Report.Labels
import SfuLoad.Report.Limits
import SfuLoad.Report.Links
import SfuLoad.Report.Partition

/-!
# The dashboards that are written

A dashboard is drawn into a file that is named after its role and its scenario, and
each scenario is visited once. No two dashboards of a call are written to one file.
Where they are shown they are grouped by the label of their scenario, and a group is
the dashboards of one scenario.
-/

namespace SfuLoad.Report

open Kit.Fallible Kit.Sorting Model
open Kit.Lines (Text)

/-- Where dashboards are written, what their names start with and where they can be found
afterwards. -/
structure DashboardConfig where
  outputDirectory : String
  assetStem : String
  publicUrlBase : Option String

/-- Which side of a report a dashboard is drawn for. -/
inductive RevisionRole where
  | single
  | baseline
  | comparison
deriving DecidableEq

/-- The word that stands for a role in the name of its file. -/
instance : ToString RevisionRole where
  toString
    | .single => "single"
    | .baseline => "baseline"
    | .comparison => "comparison"

/-- A dashboard that has been written. -/
structure DashboardAsset where
  scenario : String
  role : RevisionRole
  revision : String
  fileName : String
deriving DecidableEq

/-- What the program does outside of itself: it makes a directory, and it draws a
dashboard over limits, under a title, into a file. Either may fail. -/
structure Canvas where
  prepareOutputDirectory : String → Except String Unit
  renderSvgWithLimits : DashboardData → DashboardLimits → String → String → Except String Unit

/-- The deliveries of an offered packet, in thousandths; nothing is expected of a run that
offers nothing. -/
def expectedFanoutMilli (run : RunData) : Option UInt64 :=
  let offered := run.result.plan.offeredPackets
  if offered = 0 then none
  else some (clamped (run.result.plan.expectedDeliveries.toNat * 1000 / offered.toNat))

/-- The data of a run's dashboard. -/
def DashboardData.fromRun (run : RunData) (samples : SampleSet) : Except String DashboardData :=
  DashboardData.new samples (expectedFanoutMilli run) run.result.serverPolicy.mediaWorkers

/-- The stem may be used in a file name, and the address in a link. -/
def validateConfig (config : DashboardConfig) : Except String Unit := do
  ensure (config.assetStem ≠ "" ∧ config.assetStem.toList.all
      (fun byte => byte.isAlphanum || byte == '-'))
    "dashboard asset stem must contain only ASCII letters, digits and hyphens"
  match config.publicUrlBase with
  | some base => validatePublicUrlBase base
  | none => return ()

/-- Whether a label may be part of a file name. -/
def validScenarioId (value : String) : Bool :=
  value ≠ "" && value.toList.all (fun byte => byte.isLower || byte.isDigit || byte == '-')

/-- The name of the file a dashboard is drawn into. -/
def assetFileName (stem : String) (role : RevisionRole) (scenario : String) : String :=
  s!"{stem}-{role}-{scenario}.svg"

section Writing

variable (canvas : Canvas) (config : DashboardConfig)

/-- Draw a run's data into the file of its role and scenario. -/
def writeAssetData (run : RunData) (data : DashboardData) (role : RevisionRole)
    (limits : DashboardLimits) : Except String DashboardAsset := do
  let scenario := scenarioLabel run.result.scenario
  ensure (validScenarioId scenario = true) "invalid dashboard scenario ID"
  let fileName := assetFileName config.assetStem role scenario
  let output := joinPath config.outputDirectory fileName
  let revision := run.result.oSfuRevision.getD "revision unavailable"
  canvas.renderSvgWithLimits data limits s!"{scenario} | {role} | {revision}" output
  return ⟨scenario, role, revision, fileName⟩

/-- Draw a run alone, within its own limits. -/
def writeAsset (run : RunData) (samples : SampleSet) (role : RevisionRole) :
    Except String DashboardAsset := do
  let data ← DashboardData.fromRun run samples
  writeAssetData canvas config run data role data.limits

/-- The assets so far and the scenarios that have been visited. -/
structure Progress where
  assets : List DashboardAsset
  scenarios : List ScenarioSpec

/-- A scenario has been visited. -/
def Progress.visit (progress : Progress) (scenario : ScenarioSpec) : Progress :=
  { progress with scenarios := progress.scenarios ++ [scenario] }

/-- Dashboards have been written. -/
def Progress.push (progress : Progress) (assets : List DashboardAsset) : Progress :=
  { progress with assets := progress.assets ++ assets }

/-- The samples of a run that has any. -/
def drawnSamples (run : RunData) : Option SampleSet :=
  run.samples.filter (fun samples => !samples.samples.isEmpty)

/-- One candidate of the loop over the runs. -/
def singleStep (runs : List RunData) (progress : Progress) (candidate : RunData) :
    Except String Progress :=
  let scenario := candidate.result.scenario
  if progress.scenarios.contains scenario then .ok progress
  else
    let progress := progress.visit scenario
    match uniqueScenario runs scenario with
    | none => .ok progress
    | some run =>
      match drawnSamples run with
      | none => .ok progress
      | some samples => do
        let asset ← writeAsset canvas config run samples .single
        return progress.push [asset]

/-- The dashboards of a report on one side. -/
def singleAssets (runs : List RunData) : Except String (List DashboardAsset) := do
  let progress ← runs.foldlM (singleStep canvas config runs) ⟨[], []⟩
  return progress.assets

/-- One run of the baseline in the loop over them. Both sides are drawn over the same
limits. -/
def comparisonStep (baseline comparison : List RunData) (progress : Progress)
    (candidate : RunData) : Except String Progress :=
  let scenario := candidate.result.scenario
  if progress.scenarios.contains scenario then .ok progress
  else
    let progress := progress.visit scenario
    match matchingPair baseline comparison scenario with
    | none => .ok progress
    | some (baselineRun, comparisonRun) =>
      match drawnSamples baselineRun, drawnSamples comparisonRun with
      | some baselineSamples, some comparisonSamples => do
        let baselineData ← DashboardData.fromRun baselineRun baselineSamples
        let comparisonData ← DashboardData.fromRun comparisonRun comparisonSamples
        let limits := DashboardLimits.shared baselineData comparisonData
        let baselineAsset ← writeAssetData canvas config baselineRun baselineData .baseline limits
        let comparisonAsset ←
          writeAssetData canvas config comparisonRun comparisonData .comparison limits
        return progress.push [baselineAsset, comparisonAsset]
      | _, _ => .ok progress

/-- The dashboards of a comparison, both sides of a scenario within shared limits. -/
def comparisonAssets (baseline comparison : List RunData) :
    Except String (List DashboardAsset) := do
  let progress ← baseline.foldlM (comparisonStep canvas config baseline comparison) ⟨[], []⟩
  return progress.assets

end Writing

section Showing

/-- A text without the endings it has, as often as it has them. The text is given from
its end. -/
def trimSvg : Text → Text
  | 'g' :: 'v' :: 's' :: '.' :: rest => trimSvg rest
  | text => text

/-- The labels of the assets, each where it is met first. -/
def assetScenarios (assets : List DashboardAsset) : List String :=
  assets.foldl (fun scenarios asset =>
    if scenarios.contains asset.scenario then scenarios else scenarios ++ [asset.scenario]) []

/-- The dashboards of each scenario's label, in the order the labels come up. -/
def assetGroups (assets : List DashboardAsset) : List (String × List DashboardAsset) :=
  (assetScenarios assets).map (fun scenario =>
    (scenario, assets.filter (fun asset => asset.scenario = scenario)))

/-- How a dashboard is shown: its role and revision, and its picture with a link. -/
def assetLines (publicUrlBase : String) (artifactUrl : Option String) (asset : DashboardAsset) :
    List String :=
  let png := String.ofList (trimSvg asset.fileName.toList.reverse).reverse ++ ".png"
  let imageUrl := s!"{publicUrlBase}/{png}"
  let target := artifactUrl.getD imageUrl
  paragraph s!"**{asset.role}** `{escapeTable asset.revision}`" ++
    paragraph s!"[![{asset.role} telemetry dashboard]({imageUrl})]({target})"

/-- How the dashboards of a scenario are shown, folded together. -/
def groupLines (publicUrlBase : String) (artifactUrl : Option String)
    (openScenario : Option String) (group : String × List DashboardAsset) : List String :=
  let opened := if some group.1 = openScenario then " open" else ""
  [s!"<details{opened}>"] ++ paragraph s!"<summary>{group.1}</summary>" ++
    group.2.flatMap (assetLines publicUrlBase artifactUrl) ++ paragraph "</details>"

/-- How all dashboards are shown; without any there is no section. -/
def renderAssets (assets : List DashboardAsset) (publicUrlBase artifactUrl : Option String) :
    List String :=
  if assets.isEmpty then []
  else
    let plural := if assets.length = 1 then "" else "s"
    paragraph "## Telemetry dashboards" ++
    paragraph ("Each dashboard uses the actual scrape timestamps. CPU, traffic and " ++
      "worker-bitrate panels retain faint raw points behind a centered moving average over up " ++
      "to five contiguous samples. Smoothed lines exclude phase-crossing intervals while the " ++
      "individual mixed-phase observations remain visible only as points. Missing values and " ++
      "counter resets remain gaps. Packet and payload rates use adjacent counter deltas. " ++
      "Observed fanout uses adjacent forwarded-local and ingress packet deltas. Expected fanout " ++
      "is the whole-workload ratio of planned deliveries to offered packets. Delay, queue and " ++
      "pressure lines are per-sample worker maxima. Unavailable scrapes are red points.") ++
    match publicUrlBase with
    | none =>
      if artifactUrl.isSome then
        paragraph (s!"The workflow artifact contains {assets.length} Plotters SVG " ++
          s!"dashboard{plural} and the source `samples.jsonl` files.")
      else
        paragraph (s!"Generated {assets.length} Plotters SVG dashboard{plural} in the " ++
          "configured output directory.")
    | some publicUrlBase =>
      (assetGroups assets).flatMap (groupLines publicUrlBase artifactUrl
        (assets.getLast?.map DashboardAsset.scenario))

end Showing

section Calls

variable (disk : Disk) (canvas : Canvas) (sorter : Sorter)

/-- The inputs that can be loaded, by the keys of their scenarios. -/
def loadRuns (inputs : List String) : List RunData :=
  sorter.sorted (fun left right => compareScenarios left.result.scenario right.result.scenario)
    (loadInputs disk inputs).runs

/-- Write the dashboards of one side and describe them. -/
def writeSingle (inputs : List String) (config : DashboardConfig) (artifactUrl : Option String) :
    Except String String := do
  validateConfig config
  canvas.prepareOutputDirectory config.outputDirectory
  let assets ← singleAssets canvas config (loadRuns disk sorter inputs)
  return String.join ((renderAssets assets config.publicUrlBase artifactUrl).map (· ++ "\n"))

/-- Write the dashboards of both sides and describe them. -/
def writeComparison (baselineInputs comparisonInputs : List String) (config : DashboardConfig)
    (artifactUrl : Option String) : Except String String := do
  validateConfig config
  canvas.prepareOutputDirectory config.outputDirectory
  let assets ← comparisonAssets canvas config (loadRuns disk sorter baselineInputs)
    (loadRuns disk sorter comparisonInputs)
  return String.join ((renderAssets assets config.publicUrlBase artifactUrl).map (· ++ "\n"))

end Calls

section Names

/-- The word of a role is a word. -/
theorem role_nonempty (role : RevisionRole) : (toString role).toList ≠ [] := by
  cases role <;> decide +kernel

/-- The roles differ in their first letter. -/
theorem role_of_letter {role role' : RevisionRole}
    (same : (toString role).toList.head? = (toString role').toList.head?) : role = role' := by
  cases role <;> cases role' <;> first
    | rfl
    | exact absurd same (by decide +kernel)

/-- The letters of a file's name. -/
theorem assetFileName_toList (stem : String) (role : RevisionRole) (scenario : String) :
    (assetFileName stem role scenario).toList = stem.toList ++
      ('-' :: ((toString role).toList ++ '-' :: (scenario.toList ++ ".svg".toList))) := by
  unfold assetFileName
  simp only [String.toList_append, toString_text]
  simp

/-- Behind one stem a name tells the role and the label. -/
theorem assetFileName_injective {stem : String} {role role' : RevisionRole}
    {scenario scenario' : String}
    (same : assetFileName stem role scenario = assetFileName stem role' scenario') :
    role = role' ∧ scenario = scenario' := by
  have texts := congrArg String.toList same
  rw [assetFileName_toList, assetFileName_toList] at texts
  have behind := (List.cons.inj (List.append_cancel_left texts)).2
  obtain rfl : role = role' := by
    have first := congrArg List.head? behind
    rw [List.head?_append_of_ne_nil _ (role_nonempty role),
      List.head?_append_of_ne_nil _ (role_nonempty role')] at first
    exact role_of_letter first
  refine ⟨rfl, ?_⟩
  have labels := (List.cons.inj (List.append_cancel_left behind)).2
  exact String.toList_inj.mp (List.append_cancel_right labels)

end Names

section Visits

/-- A scenario and the role it is drawn in. -/
abbrev Work := ScenarioSpec × RevisionRole

/-- An asset is of a scenario, in a role. -/
structure Depicts (stem : String) (work : Work) (asset : DashboardAsset) : Prop where
  scenario : asset.scenario = scenarioLabel work.1
  role : asset.role = work.2
  fileName : asset.fileName = assetFileName stem work.2 (scenarioLabel work.1)

/-- The assets are of some works, none of them twice, and of visited scenarios only. -/
structure Shelved (stem : String) (works : List Work) (progress : Progress) : Prop where
  depicted : List.Forall₂ (Depicts stem) works progress.assets
  once : works.Nodup
  visited : ∀ work ∈ works, work.1 ∈ progress.scenarios

variable {canvas : Canvas} {config : DashboardConfig}

/-- What is written shows its scenario in its role, under their names. -/
theorem writeAssetData_depicts {run : RunData} {data : DashboardData} {role : RevisionRole}
    {limits : DashboardLimits} {asset : DashboardAsset}
    (written : writeAssetData canvas config run data role limits = .ok asset) :
    Depicts config.assetStem (run.result.scenario, role) asset := by
  simp only [writeAssetData, bind_eq_ok] at written
  obtain ⟨_, -, _, -, returned⟩ := written
  obtain rfl := Except.ok.inj returned
  exact ⟨rfl, rfl, rfl⟩

/-- So it does when drawn alone. -/
theorem writeAsset_depicts {run : RunData} {samples : SampleSet} {role : RevisionRole}
    {asset : DashboardAsset} (written : writeAsset canvas config run samples role = .ok asset) :
    Depicts config.assetStem (run.result.scenario, role) asset := by
  obtain ⟨_, -, written⟩ := (bind_eq_ok _ _ _).mp written
  exact writeAssetData_depicts written

/-- A scenario is visited, and drawn in some roles or in none. -/
theorem Shelved.push {stem : String} {works : List Work} {progress : Progress}
    (shelved : Shelved stem works progress) {scenario : ScenarioSpec}
    (fresh : scenario ∉ progress.scenarios) {roles : List RevisionRole} (distinct : roles.Nodup)
    {assets : List DashboardAsset}
    (depicted : List.Forall₂ (fun role asset => Depicts stem (scenario, role) asset) roles assets) :
    Shelved stem (works ++ roles.map (scenario, ·)) ((progress.visit scenario).push assets) := by
  refine ⟨?_, ?_, ?_⟩
  · exact List.rel_append shelved.depicted (List.forall₂_map_left_iff.mpr depicted)
  · refine List.nodup_append.mpr ⟨shelved.once, ?_, ?_⟩
    · exact distinct.map (fun first second same => (Prod.mk.inj same).2)
    · rintro work member other among rfl
      obtain ⟨role, -, rfl⟩ := List.mem_map.mp among
      exact fresh (shelved.visited _ member)
  · intro work member
    rcases List.mem_append.mp member with before | here
    · exact List.mem_append_left _ (shelved.visited work before)
    · obtain ⟨role, -, rfl⟩ := List.mem_map.mp here
      exact List.mem_append_right _ (by simp)

/-- Visiting a scenario without drawing it. -/
theorem Shelved.visit {stem : String} {works : List Work} {progress : Progress}
    (shelved : Shelved stem works progress) (scenario : ScenarioSpec) :
    Shelved stem works (progress.visit scenario) :=
  ⟨shelved.depicted, shelved.once,
    fun work member => List.mem_append_left _ (shelved.visited work member)⟩

/-- The only run of a scenario is one of that scenario. -/
theorem uniqueScenario_scenario {runs : List RunData} {run : RunData} {scenario : ScenarioSpec}
    (unique : uniqueScenario runs scenario = some run) : run.result.scenario = scenario := by
  have only := uniqueScenario_eq_some.mp unique
  exact (mem_runsOf.mp (by rw [only]; simp)).2

/-- Both runs of a matching pair are. -/
theorem matchingPair_scenario {baseline comparison : List RunData} {scenario : ScenarioSpec}
    {pair : RunData × RunData} (matching : matchingPair baseline comparison scenario = some pair) :
    pair.1.result.scenario = scenario ∧ pair.2.result.scenario = scenario := by
  simp only [matchingPair, Option.bind_eq_bind, Option.bind_eq_some_iff,
    Option.ite_none_right_eq_some, Option.some.injEq] at matching
  obtain ⟨baselineRun, inBaseline, comparisonRun, inComparison, -, rfl⟩ := matching
  exact ⟨uniqueScenario_scenario inBaseline, uniqueScenario_scenario inComparison⟩

/-- A candidate of a report on one side is drawn once or not at all. -/
theorem singleStep_shelved {runs : List RunData} {progress next : Progress} {candidate : RunData}
    (before : ∃ works, Shelved config.assetStem works progress)
    (stepped : singleStep canvas config runs progress candidate = .ok next) :
    ∃ works, Shelved config.assetStem works next := by
  obtain ⟨works, shelved⟩ := before
  simp only [singleStep] at stepped
  split at stepped
  · exact ⟨works, Except.ok.inj stepped ▸ shelved⟩
  · next unseen =>
    have fresh : candidate.result.scenario ∉ progress.scenarios := by simpa using unseen
    have skipped := shelved.visit candidate.result.scenario
    split at stepped
    · exact ⟨works, Except.ok.inj stepped ▸ skipped⟩
    · next run unique =>
      split at stepped
      · exact ⟨works, Except.ok.inj stepped ▸ skipped⟩
      · obtain ⟨asset, written, returned⟩ := (bind_eq_ok _ _ _).mp stepped
        obtain rfl := Except.ok.inj returned
        have depicts := writeAsset_depicts written
        rw [uniqueScenario_scenario unique] at depicts
        exact ⟨_, shelved.push fresh (List.nodup_singleton .single) (.cons depicts .nil)⟩

/-- A candidate of a comparison is drawn on both sides or not at all. -/
theorem comparisonStep_shelved {baseline comparison : List RunData} {progress next : Progress}
    {candidate : RunData} (before : ∃ works, Shelved config.assetStem works progress)
    (stepped : comparisonStep canvas config baseline comparison progress candidate = .ok next) :
    ∃ works, Shelved config.assetStem works next := by
  obtain ⟨works, shelved⟩ := before
  simp only [comparisonStep] at stepped
  split at stepped
  · exact ⟨works, Except.ok.inj stepped ▸ shelved⟩
  · next unseen =>
    have fresh : candidate.result.scenario ∉ progress.scenarios := by simpa using unseen
    have skipped := shelved.visit candidate.result.scenario
    split at stepped
    · exact ⟨works, Except.ok.inj stepped ▸ skipped⟩
    · next baselineRun comparisonRun matching =>
      obtain ⟨ofBaseline, ofComparison⟩ := matchingPair_scenario matching
      split at stepped
      · obtain ⟨_, -, stepped⟩ := (bind_eq_ok _ _ _).mp stepped
        obtain ⟨_, -, stepped⟩ := (bind_eq_ok _ _ _).mp stepped
        obtain ⟨baselineAsset, written, stepped⟩ := (bind_eq_ok _ _ _).mp stepped
        obtain ⟨comparisonAsset, written', returned⟩ := (bind_eq_ok _ _ _).mp stepped
        obtain rfl := Except.ok.inj returned
        have depicts := writeAssetData_depicts written
        have depicts' := writeAssetData_depicts written'
        rw [ofBaseline] at depicts
        rw [ofComparison] at depicts'
        have distinct : [RevisionRole.baseline, RevisionRole.comparison].Nodup := by decide
        exact ⟨_, shelved.push fresh distinct (.cons depicts (.cons depicts' .nil))⟩
      · exact ⟨works, Except.ok.inj stepped ▸ skipped⟩

/-- Before the first scenario nothing has been drawn. -/
theorem unvisited_shelved (stem : String) : ∃ works, Shelved stem works ⟨[], []⟩ :=
  ⟨[], .nil, List.nodup_nil, by simp⟩

end Visits

section Groups

variable {stem : String} {works : List Work} {assets : List DashboardAsset}

/-- Works without a repetition are drawn into files without a repetition. -/
theorem fileNames_nodup (depicted : List.Forall₂ (Depicts stem) works assets)
    (once : works.Nodup) : (assets.map DashboardAsset.fileName).Nodup := by
  have named : assets.map DashboardAsset.fileName =
      works.map (fun work => assetFileName stem work.2 (scenarioLabel work.1)) :=
    map_eq_of_forall₂ _ _ depicted (fun _ _ _ depicts => depicts.fileName)
  rw [named]
  refine List.Nodup.map_on (fun first _ second _ same => ?_) once
  obtain ⟨role, label⟩ := @assetFileName_injective stem first.2 second.2 _ _ same
  exact Prod.ext (scenarioLabel_injective label) role

/-- A label that comes up is that of some dashboard. -/
theorem mem_assetScenarios {label : String} (member : label ∈ assetScenarios assets) :
    ∃ asset ∈ assets, asset.scenario = label := by
  have folded (assets : List DashboardAsset) (found : List String)
      (member : label ∈ assets.foldl (fun scenarios asset =>
        if scenarios.contains asset.scenario then scenarios
        else scenarios ++ [asset.scenario]) found) :
      label ∈ found ∨ ∃ asset ∈ assets, asset.scenario = label := by
    induction assets generalizing found with
    | nil => exact Or.inl member
    | cons asset rest inductionHypothesis =>
      rcases inductionHypothesis _ member with before | ⟨other, among, same⟩
      · dsimp only at before
        split at before
        · exact Or.inl before
        · rcases List.mem_append.mp before with earlier | here
          · exact Or.inl earlier
          · exact Or.inr ⟨asset, List.mem_cons_self, (List.mem_singleton.mp here).symm⟩
      · exact Or.inr ⟨other, List.mem_cons_of_mem _ among, same⟩
  rcases folded assets [] member with none | found
  · cases none
  · exact found

/-- Picking assets by the label of a scenario picks those of the scenario. -/
theorem filter_label (depicted : List.Forall₂ (Depicts stem) works assets) (spec : ScenarioSpec) :
    assets.filter (fun asset => asset.scenario = scenarioLabel spec) =
      ((works.zip assets).filter (fun shown => shown.1.1 = spec)).map Prod.snd := by
  induction depicted with
  | nil => rfl
  | @cons work asset _ _ depicts _ inductionHypothesis =>
    have same : asset.scenario = scenarioLabel spec ↔ work.1 = spec := by
      rw [depicts.scenario]
      exact ⟨fun label => scenarioLabel_injective label, fun own => own ▸ rfl⟩
    rw [List.filter_cons, List.zip_cons_cons, List.filter_cons, inductionHypothesis]
    by_cases own : work.1 = spec <;> simp [same, own]

/-- A group of assets is those of one scenario. -/
theorem assetGroups_unmixed (depicted : List.Forall₂ (Depicts stem) works assets)
    {group : String × List DashboardAsset} (member : group ∈ assetGroups assets) :
    ∃ spec, group.1 = scenarioLabel spec ∧
      group.2 = ((works.zip assets).filter (fun shown => shown.1.1 = spec)).map Prod.snd := by
  obtain ⟨label, among, rfl⟩ := List.mem_map.mp member
  obtain ⟨asset, drawn, rfl⟩ := mem_assetScenarios among
  obtain ⟨work, -, depicts⟩ := exists_of_forall₂ (List.Forall₂.flip depicted) drawn
  refine ⟨work.1, depicts.scenario, ?_⟩
  dsimp only
  rw [depicts.scenario, filter_label depicted]

end Groups

/-- Assets of different works, drawn into files of different names and grouped by their
scenarios. -/
structure NamedApart (stem : String) (works : List Work) (assets : List DashboardAsset) : Prop where
  depicted : List.Forall₂ (Depicts stem) works assets
  once : works.Nodup
  apart : (assets.map DashboardAsset.fileName).Nodup
  unmixed : ∀ group ∈ assetGroups assets, ∃ spec, group.1 = scenarioLabel spec ∧
    group.2 = ((works.zip assets).filter (fun shown => shown.1.1 = spec)).map Prod.snd

/-- Works that are drawn once each are named apart and grouped unmixed. -/
theorem Shelved.namedApart {stem : String} {works : List Work} {progress : Progress}
    (shelved : Shelved stem works progress) : NamedApart stem works progress.assets :=
  ⟨shelved.depicted, shelved.once, fileNames_nodup shelved.depicted shelved.once,
    fun _ member => assetGroups_unmixed shelved.depicted member⟩

/-- However far a report on one side has come through its runs. -/
theorem singleLoop_namedApart {canvas : Canvas} {config : DashboardConfig}
    {runs visited : List RunData} {progress : Progress}
    (looped : visited.foldlM (singleStep canvas config runs) ⟨[], []⟩ = .ok progress) :
    ∃ works, NamedApart config.assetStem works progress.assets := by
  obtain ⟨works, shelved⟩ := foldlM_keeps (fun _ _ _ before stepped =>
    singleStep_shelved before stepped) (unvisited_shelved config.assetStem) looped
  exact ⟨works, shelved.namedApart⟩

/-- However far a comparison has come through its runs. -/
theorem comparisonLoop_namedApart {canvas : Canvas} {config : DashboardConfig}
    {baseline comparison visited : List RunData} {progress : Progress}
    (looped : visited.foldlM (comparisonStep canvas config baseline comparison) ⟨[], []⟩ =
      .ok progress) : ∃ works, NamedApart config.assetStem works progress.assets := by
  obtain ⟨works, shelved⟩ := foldlM_keeps (fun _ _ _ before stepped =>
    comparisonStep_shelved before stepped) (unvisited_shelved config.assetStem) looped
  exact ⟨works, shelved.namedApart⟩

/-- A text that shows assets which were named apart. -/
def ShownApart (config : DashboardConfig) (artifactUrl : Option String) (text : String) : Prop :=
  ∃ works assets, NamedApart config.assetStem works assets ∧ text =
    String.join ((renderAssets assets config.publicUrlBase artifactUrl).map (· ++ "\n"))

/-- Two scenarios differ in both of their labels. However far a call has come through
its runs, the dashboards it has drawn are of different scenarios or roles, no two are
in files of one name, and each group by label is the dashboards of one scenario; and
what a call returns shows such dashboards. -/
theorem labels_identify_scenarios :
    (∀ left right : ScenarioSpec, left ≠ right →
      scenarioLabel left ≠ scenarioLabel right ∧ chartLabel left ≠ chartLabel right) ∧
    (∀ canvas config (runs visited : List RunData) progress,
      visited.foldlM (singleStep canvas config runs) ⟨[], []⟩ = .ok progress →
      ∃ works, NamedApart config.assetStem works progress.assets) ∧
    (∀ canvas config (baseline comparison visited : List RunData) progress,
      visited.foldlM (comparisonStep canvas config baseline comparison) ⟨[], []⟩ = .ok progress →
      ∃ works, NamedApart config.assetStem works progress.assets) ∧
    (∀ disk canvas sorter inputs config artifactUrl text,
      writeSingle disk canvas sorter inputs config artifactUrl = .ok text →
      ShownApart config artifactUrl text) ∧
    ∀ disk canvas sorter baselineInputs comparisonInputs config artifactUrl text,
      writeComparison disk canvas sorter baselineInputs comparisonInputs config artifactUrl =
        .ok text → ShownApart config artifactUrl text := by
  refine ⟨fun left right apart => ⟨fun same => apart (scenarioLabel_injective same),
    fun same => apart (chartLabel_injective same)⟩, ?_, ?_, ?_, ?_⟩
  · intro canvas config runs visited progress looped
    exact singleLoop_namedApart looped
  · intro canvas config baseline comparison visited progress looped
    exact comparisonLoop_namedApart looped
  · intro disk canvas sorter inputs config artifactUrl text shown
    simp only [writeSingle, singleAssets, bind_eq_ok] at shown
    obtain ⟨_, -, _, -, _, ⟨progress, looped, listed⟩, returned⟩ := shown
    obtain rfl := Except.ok.inj listed
    obtain ⟨works, apart⟩ := singleLoop_namedApart looped
    exact ⟨works, progress.assets, apart, (Except.ok.inj returned).symm⟩
  · intro disk canvas sorter baselineInputs comparisonInputs config artifactUrl text shown
    simp only [writeComparison, comparisonAssets, bind_eq_ok] at shown
    obtain ⟨_, -, _, -, _, ⟨progress, looped, listed⟩, returned⟩ := shown
    obtain rfl := Except.ok.inj listed
    obtain ⟨works, apart⟩ := comparisonLoop_namedApart looped
    exact ⟨works, progress.assets, apart, (Except.ok.inj returned).symm⟩

end SfuLoad.Report
