import SfuLoad.Report.Comparison
import SfuLoad.Report.Survival

/-!
# From input paths to a rendered report

Every input is loaded on its own, into a run or a failure that names its path.
Whatever a comparator calls equal comes from the same path, and so is the same
run or failure. Unstable sorts can then only arrange the loaded inputs in one
way, and nothing that is rendered knows the order the paths were given in.
-/

namespace SfuLoad.Report

open Arithmetic (Crowded)
open Kit.Checked Kit.Fallible Kit.Lines Kit.Sorting Std
open Model hiding checkedAdd checkedMul

/-- How many inputs a report takes. -/
def maxInputs : Nat := 256

/-- How long a result may be. -/
def resultLimitBytes : Nat := 1024 * 1024

/-- How long a telemetry file may be. -/
def samplesLimitBytes : Nat := 16 * 1024 * 1024

section Links

/-- The name of an owner or of a repository in an address. -/
def validRepositoryComponent (value : List Char) : Bool :=
  !value.isEmpty && value.all (fun byte => byte.isAlphanum || ['-', '_', '.'].contains byte)

/-- A number in an address. -/
def numericIdentifier (value : List Char) : Bool :=
  !value.isEmpty && value.all Char.isDigit

/-- The path of an artifact. -/
def validArtifactPath (parts : List (List Char)) : Bool :=
  match parts with
  | [owner, repository, actions, runs, runId, artifacts, artifactId] =>
      actions = "actions".toList && runs = "runs".toList && artifacts = "artifacts".toList &&
        validRepositoryComponent owner && validRepositoryComponent repository &&
        numericIdentifier runId && numericIdentifier artifactId
  | _ => false

/-- The address of the artifact, if it is given. -/
def validateArtifactUrl (artifactUrl : Option String) : Machine Unit :=
  match artifactUrl with
  | none => return ()
  | some url =>
      let path := "https://github.com/".toList.isPrefixOf? url.toList
      require ((path.map (List.splitOn '/')).any validArtifactPath)
        "artifact URL must identify one GitHub Actions artifact"

end Links

section Paths

/-- A path in pieces: what stands before its first stroke, and the names behind the
strokes. Empty names and single dots at its end do not count. -/
def trimNames (names : List (List Char)) : List (List Char) :=
  (names.reverse.dropWhile (fun name => name.isEmpty || name = ['.'])).reverse

/-- The name of a file, which neither a root nor two dots have. -/
def fileName (path : List Char) : Option (List Char) :=
  match path.splitOn '/' with
  | [] => none
  | first :: rest =>
    let last := (trimNames rest).getLast?.getD first
    if last.isEmpty || last = ['.'] || last = ['.', '.'] then none else some last

/-- What is left of a path without its last name. Empty names and dots in front of
the name go with it, the root and a first dot stay. -/
def parentPath (path : List Char) : List Char :=
  match path.splitOn '/' with
  | [] => []
  | first :: rest =>
    let names := trimNames rest
    if names.isEmpty then []
    else
      let kept := trimNames names.dropLast
      if first.isEmpty && kept.isEmpty then ['/'] else ['/'].intercalate (first :: kept)

/-- A name in a directory. -/
def joinPath (path name : String) : String :=
  if path = "" || path.toList.getLast? = some '/' then path ++ name else path ++ "/" ++ name

/-- The path of a file with its name replaced. Where there is no name, the new one
is only appended. -/
def withFileName (path name : String) : String :=
  match fileName path.toList with
  | some _ => joinPath (String.ofList (parentPath path.toList)) name
  | none => joinPath path name

example : ["runs/a.json", "a.json", "/a.json", "./a.json", "runs//./a.json/.", "runs/..", "/"].map
    (withFileName · "samples.jsonl") =
    ["runs/samples.jsonl", "samples.jsonl", "/samples.jsonl", "./samples.jsonl",
      "runs/samples.jsonl", "runs/../samples.jsonl", "/samples.jsonl"] := by
  decide

end Paths

section Loading

/-- What the disk answers when it fails. A file that is not there is told from the rest. -/
structure IoError where
  notFound : Bool
  text : String

/-- What the program finds on disk and how it is decoded, the same whenever it
looks. -/
structure Disk where
  isDir : String → Bool
  metadata : String → Except IoError Nat
  read : String → Except IoError (List UInt8)
  fromSlice : List UInt8 → Except String ScenarioResult
  fromUtf8 : List UInt8 → Except String Text
  serde : Serde

variable (disk : Disk)

/-- An error under a message that says what was being done. -/
def withContext {ε α : Type} (result : Except ε α) (text : ε → String) (message : String) :
    Except String α :=
  result.mapError (fun error => s!"{message}: {text error}")

/-- The bytes of a file that is known to be short enough when it is opened. -/
def readInspected (path : String) (size limit : Nat) : Except String (List UInt8) := do
  ensure (size ≤ limit) s!"{path} exceeds its {limit} byte report-input limit"
  let payload ← withContext (disk.read path) IoError.text s!"failed to read {path}"
  ensure (payload.length ≤ limit) s!"{path} grew beyond its {limit} byte report-input limit"
  return payload

/-- A file of at most so many bytes. -/
def readBounded (path : String) (limit : Nat) : Except String (List UInt8) := do
  let size ← withContext (disk.metadata path) IoError.text s!"failed to inspect {path}"
  readInspected disk path size limit

/-- A file that may be missing. -/
def readOptionalBounded (path : String) (limit : Nat) : Except String (Option Text) :=
  match disk.metadata path with
  | .error error =>
      if error.notFound then .ok none else .error s!"failed to inspect {path}: {error.text}"
  | .ok size => do
      let payload ← readInspected disk path size limit
      return some (← withContext (disk.fromUtf8 payload) id s!"{path} is not UTF-8")

/-- One input: its result, and the telemetry that lies beside it. -/
def loadRun (input : String) : Except String RunData := do
  let resultPath := if disk.isDir input then joinPath input "result.json" else input
  let payload ← readBounded disk resultPath resultLimitBytes
  let result ← withContext (disk.fromSlice payload) id s!"failed to decode {resultPath}"
  let samplesPath := withFileName resultPath "samples.jsonl"
  let samples ← readOptionalBounded disk samplesPath samplesLimitBytes
  return { source := input, result, samples := samples.map (parseSamples disk.serde) }

/-- The failure of an input, if it does not load. -/
def loadFailure (input : String) : Option LoadFailure :=
  match loadRun disk input with
  | .ok _ => none
  | .error error => some ⟨input, error⟩

/-- The runs and the failures of some inputs, in the order of the inputs. -/
def loadInputs (inputs : List String) : Side where
  runs := inputs.filterMap (fun input => (loadRun disk input).toOption)
  failures := inputs.filterMap (loadFailure disk)

/-- The report of some inputs, from their paths. -/
def render (mode : Mode) (sorter : Sorter) (debug : ScenarioResult → String)
    (inputs : List String) (artifactUrl : Option String) : Machine String := do
  require (inputs ≠ []) "at least one report input is required"
  require (inputs.length ≤ maxInputs) "at most 256 report inputs are allowed"
  validateArtifactUrl artifactUrl
  let loaded := loadInputs disk inputs
  renderReport mode sorter debug loaded.runs loaded.failures artifactUrl

namespace Comparison

variable (mode : Mode)

/-- The shorter comparison of the runs of one side. -/
def compareSide (left right : RunData) : Machine Ordering := do
  let keys ← compareSpecs mode left.result.scenario right.result.scenario
  return keys.then (compareOn RunData.source left right)

/-- The inputs of one side of a comparison. -/
def loadSide (sorter : Sorter) (inputs : List String) : Machine Side := do
  let loaded := loadInputs disk inputs
  let runs ← sorter.sortUnstableBy (compareSide mode) loaded.runs
  let failures ← sorter.sortUnstableBy
    (fun left right => .ok (compareOn LoadFailure.source left right)) loaded.failures
  return { runs, failures }

/-- The comparison of two sides, from their paths. -/
def render (sorter : Sorter) (baselineInputs comparisonInputs : List String)
    (artifactUrl : Option String) : Machine String := do
  require (baselineInputs ≠ []) "baseline inputs are required"
  require (comparisonInputs ≠ []) "comparison inputs are required"
  require (baselineInputs.length ≤ maxInputs) "at most 256 baseline inputs are allowed"
  require (comparisonInputs.length ≤ maxInputs) "at most 256 comparison inputs are allowed"
  validateArtifactUrl artifactUrl
  let baseline ← loadSide disk mode sorter baselineInputs
  let comparison ← loadSide disk mode sorter comparisonInputs
  renderSides mode sorter baseline comparison artifactUrl

/-- The order the comparisons of a side stand for. -/
def orderSide : RunData → RunData → Ordering :=
  compareLex compareKeys (compareOn RunData.source)

/-- The comparator of a side is transitive, as both of its parts are. -/
instance : TransCmp orderSide := by
  unfold orderSide
  infer_instance

end Comparison

end Loading

section Separation

variable {mode : Mode} {disk : Disk} {sorter : Sorter} {debug : ScenarioResult → String}
  {inputs inputs' : List String}

/-- A loaded run is what its source loads. -/
theorem loadRun_source {input : String} {run : RunData} (loaded : loadRun disk input = .ok run) :
    loadRun disk run.source = .ok run := by
  have source : run.source = input := by
    simp only [loadRun, bind_eq_ok] at loaded
    obtain ⟨_, _, _, _, _, _, built⟩ := loaded
    rw [← Except.ok.inj built]
  rw [source, loaded]

/-- A loaded run is what its path loads. -/
theorem loaded_of_mem {run : RunData} (among : run ∈ (loadInputs disk inputs).runs) :
    loadRun disk run.source = .ok run := by
  obtain ⟨input, _, loaded⟩ := List.mem_filterMap.mp among
  cases answered : loadRun disk input with
  | error error =>
    rw [answered] at loaded
    cases loaded
  | ok found =>
    rw [answered] at loaded
    obtain rfl := Option.some.inj loaded
    exact loadRun_source answered

/-- And a failure is that of its path. -/
theorem failed_of_mem {failure : LoadFailure} (among : failure ∈ (loadInputs disk inputs).failures) :
    loadRun disk failure.source = .error failure.error := by
  obtain ⟨input, _, failed⟩ := List.mem_filterMap.mp among
  unfold loadFailure at failed
  split at failed
  · cases failed
  · next error answered =>
    obtain rfl := Option.some.inj failed
    exact answered

/-- Runs of one source are one run, telemetry included. -/
theorem run_separated {left right : RunData} (inLeft : left ∈ (loadInputs disk inputs).runs)
    (inRight : right ∈ (loadInputs disk inputs).runs) (same : left.source = right.source) :
    left = right := by
  have loadedLeft := loaded_of_mem inLeft
  rw [same, loaded_of_mem inRight] at loadedLeft
  exact (Except.ok.inj loadedLeft).symm

/-- Failures of one source have one error. -/
theorem failure_separated {left right : LoadFailure}
    (inLeft : left ∈ (loadInputs disk inputs).failures)
    (inRight : right ∈ (loadInputs disk inputs).failures) (same : left.source = right.source) :
    left = right := by
  have failedLeft := failed_of_mem inLeft
  rw [same, failed_of_mem inRight] at failedLeft
  have sameError := Except.error.inj failedLeft
  cases left
  cases right
  simp_all

/-- Comparators that come to the source only call one source equal. -/
theorem source_of_orderRuns {left right : RunData} (equal : orderRuns debug left right = .eq) :
    left.source = right.source := by
  simp only [orderRuns, compareRest, compareLex, Ordering.then_eq_eq, compareOn] at equal
  exact LawfulEqOrd.compare_eq_iff_eq.mp equal.2.2.1

/-- Another order of the paths gives the same runs in another order. -/
theorem loadInputs_runs_perm (perm : inputs.Perm inputs') :
    (loadInputs disk inputs).runs.Perm (loadInputs disk inputs').runs :=
  perm.filterMap _

/-- It gives the same failures in another order. -/
theorem loadInputs_failures_perm (perm : inputs.Perm inputs') :
    (loadInputs disk inputs).failures.Perm (loadInputs disk inputs').failures :=
  perm.filterMap _

/-- The checks on the number of inputs do not see the order. -/
theorem ne_nil_of_perm (perm : inputs.Perm inputs') : inputs ≠ [] ↔ inputs' ≠ [] := by
  rw [← List.length_pos_iff, ← List.length_pos_iff, perm.length_eq]

/-- Failures are sorted into one order, by their sources and whatever comes next. -/
theorem sorted_failures_eq {order : LoadFailure → LoadFailure → Ordering} [TransCmp order]
    (bySource : ∀ left right, order left right = .eq → left.source = right.source)
    (perm : inputs.Perm inputs') :
    sorter.sortUnstableBy (fun left right => .ok (order left right))
        (loadInputs disk inputs).failures =
      sorter.sortUnstableBy (fun left right => .ok (order left right))
        (loadInputs disk inputs').failures :=
  sorter.sortUnstableBy_perm order (loadInputs_failures_perm perm) (fun _ _ _ _ => rfl)
    (fun left inLeft right inRight equal =>
      failure_separated inLeft inRight (bySource left right equal))

/-- One of the loaded runs is a smoke whose peers cannot be counted. -/
def Crowds (disk : Disk) (inputs : List String) : Prop :=
  ∃ run ∈ (loadInputs disk inputs).runs, Crowded run.result.scenario

/-- Neither does what stops a checking build. -/
theorem crowds_perm (perm : inputs.Perm inputs') : Crowds disk inputs ↔ Crowds disk inputs' := by
  simp only [Crowds, (loadInputs_runs_perm perm).mem_iff]

/-- A build that wraps counts all peers, and the other one those of all scenarios
but one. -/
theorem counted_of_settled (settled : mode = .wrapping ∨ ¬Crowds disk inputs) :
    ∀ run ∈ (loadInputs disk inputs).runs,
      Arithmetic.peersPerRoom mode run.result.scenario = .ok run.result.scenario.peersPerRoom := by
  intro run among
  rcases settled with rfl | countable
  · exact Arithmetic.peersPerRoom_wrapping _
  · exact Arithmetic.peersPerRoom_eq (fun crowded => countable ⟨run, among, crowded⟩)

/-- A build that does not wrap checks. -/
theorem checking_of_ne (checks : mode ≠ .wrapping) : mode = .checking := by
  cases mode with
  | checking => rfl
  | wrapping => exact absurd rfl checks

/-- Two renderings come to the same, except that a checking build may stop in both,
where a run is crowded. -/
def RenderedAlike (mode : Mode) (crowds : Prop) (one other : Machine String) : Prop :=
  match mode with
  | .wrapping => one = other
  | .checking => one = other ∨ crowds ∧ ¬Completes one ∧ ¬Completes other

/-- What is equal is rendered alike. -/
theorem RenderedAlike.of_eq {crowds : Prop} {one other : Machine String} (same : one = other) :
    RenderedAlike mode crowds one other := by
  cases mode with
  | wrapping => exact same
  | checking => exact Or.inl same

/-- A crowded smoke stops a checking report in any order. -/
theorem render_crowded (crowds : Crowds disk inputs) (artifactUrl : Option String) :
    ¬Completes (render disk .checking sorter debug inputs artifactUrl) := by
  obtain ⟨run, among, crowded⟩ := crowds
  rintro ⟨text, written⟩
  simp only [render, renderReport, bind_eq_ok] at written
  obtain ⟨_, _, _, _, _, _, lines, lined, _⟩ := written
  exact reportLines_crowded among crowded ⟨lines, lined⟩

/-- Failures that are called equal have one path. -/
theorem source_of_compareFailures (left right : LoadFailure)
    (equal : compareFailures left right = .eq) : left.source = right.source := by
  simp only [compareFailures, compareLex, Ordering.then_eq_eq, compareOn] at equal
  exact LawfulEqOrd.compare_eq_iff_eq.mp equal.1

section Runs

variable (perm : inputs.Perm inputs')
include perm

/-- The full comparison of a report leaves one order of the loaded runs. -/
theorem sorted_runs_eq (settled : mode = .wrapping ∨ ¬Crowds disk inputs) :
    sorter.sortUnstableBy (compareRuns mode debug) (loadInputs disk inputs).runs =
      sorter.sortUnstableBy (compareRuns mode debug) (loadInputs disk inputs').runs := by
  have counted := counted_of_settled settled
  exact sorter.sortUnstableBy_perm (orderRuns debug) (loadInputs_runs_perm perm)
    (fun left inLeft right inRight => compareRuns_eq (counted left inLeft) (counted right inRight))
    (fun left inLeft right inRight equal =>
      run_separated inLeft inRight (source_of_orderRuns equal))

/-- A report does not depend on the order of its inputs. -/
theorem render_perm (artifactUrl : Option String) :
    RenderedAlike mode (Crowds disk inputs)
      (render disk mode sorter debug inputs artifactUrl)
      (render disk mode sorter debug inputs' artifactUrl) := by
  by_cases settled : mode = .wrapping ∨ ¬Crowds disk inputs
  · refine .of_eq ?_
    simp only [render, require_congr _ (ne_nil_of_perm perm), perm.length_eq, renderReport,
      reportLines, sorted_runs_eq perm settled, sorted_failures_eq source_of_compareFailures perm]
  · obtain ⟨checks, countable⟩ := not_or.mp settled
    obtain rfl := checking_of_ne checks
    have crowds := not_not.mp countable
    exact Or.inr ⟨crowds, render_crowded crowds artifactUrl,
      render_crowded ((crowds_perm perm).mp crowds) artifactUrl⟩

end Runs

section Sides

open Comparison

/-- Where the peers can be counted, two scenarios compare by their keys. -/
theorem compareSpecs_eq {left right : ScenarioSpec}
    (leftCounted : Arithmetic.peersPerRoom mode left = .ok left.peersPerRoom)
    (rightCounted : Arithmetic.peersPerRoom mode right = .ok right.peersPerRoom) :
    compareSpecs mode left right = .ok (compareScenarios left right) := by
  rw [compareSpecs, Arithmetic.scenarioKey_eq leftCounted, ok_bind,
    Arithmetic.scenarioKey_eq rightCounted, ok_bind]
  rfl

/-- A crowded smoke is compared with nothing, from either side. -/
theorem compareSpecs_crowded {spec : ScenarioSpec} (crowded : Crowded spec) (other : ScenarioSpec) :
    ¬Completes (compareSpecs .checking spec other) ∧
      ¬Completes (compareSpecs .checking other spec) := by
  have keyless : ¬Completes (Arithmetic.scenarioKey .checking spec) := by
    rintro ⟨key, keyed⟩
    simp only [Arithmetic.scenarioKey, bind_eq_ok] at keyed
    obtain ⟨_, _, _, _, _, _, peers, counted, _⟩ := keyed
    exact Arithmetic.peersPerRoom_crowded crowded ⟨peers, counted⟩
  refine ⟨fun compared => keyless compared.of_bind, ?_⟩
  rintro ⟨ordering, compared⟩
  obtain ⟨_, _, compared⟩ := (bind_eq_ok _ _ _).mp compared
  exact keyless (Completes.of_bind ⟨ordering, compared⟩)

/-- The shorter comparison of a side leaves one order of its runs as well. -/
theorem side_runs_eq (perm : inputs.Perm inputs')
    (settled : mode = .wrapping ∨ ¬Crowds disk inputs) :
    sorter.sortUnstableBy (compareSide mode) (loadInputs disk inputs).runs =
      sorter.sortUnstableBy (compareSide mode) (loadInputs disk inputs').runs := by
  have counted := counted_of_settled settled
  refine sorter.sortUnstableBy_perm orderSide (loadInputs_runs_perm perm) ?_ ?_
  · intro left inLeft right inRight
    rw [compareSide, compareSpecs_eq (counted left inLeft) (counted right inRight), ok_bind]
    rfl
  · intro left inLeft right inRight equal
    simp only [orderSide, compareLex, Ordering.then_eq_eq, compareOn] at equal
    exact run_separated inLeft inRight (LawfulEqOrd.compare_eq_iff_eq.mp equal.2)

/-- A side does not depend on the order of its inputs once its runs are sorted alike. -/
theorem loadSide_eq (perm : inputs.Perm inputs')
    (alike : sorter.sortUnstableBy (compareSide mode) (loadInputs disk inputs).runs =
      sorter.sortUnstableBy (compareSide mode) (loadInputs disk inputs').runs) :
    loadSide disk mode sorter inputs = loadSide disk mode sorter inputs' := by
  have bySource (left right : LoadFailure)
      (equal : compareOn LoadFailure.source left right = .eq) : left.source = right.source :=
    LawfulEqOrd.compare_eq_iff_eq.mp equal
  rw [loadSide, loadSide, alike, sorted_failures_eq bySource perm]

/-- Sorting a side arranges its runs. -/
theorem loadSide_runs_perm {side : Side}
    (loaded : loadSide disk mode sorter inputs = .ok side) :
    side.runs.Perm (loadInputs disk inputs).runs := by
  obtain ⟨runs, sorted, rest⟩ := (bind_eq_ok _ _ _).mp loaded
  obtain ⟨failures, _, built⟩ := (bind_eq_ok _ _ _).mp rest
  rw [← Except.ok.inj built]
  exact sorter.rearranges sorted

variable {baseline baseline' comparison comparison' : List String}

/-- Among several runs a thorough sorter comes to compare the crowded one. -/
theorem compare_crowded (thorough : sorter.Thorough)
    (crowds : Crowds disk baseline ∨ Crowds disk comparison)
    (several : 2 ≤ (loadInputs disk baseline).runs.length +
      (loadInputs disk comparison).runs.length) (artifactUrl : Option String) :
    ¬Completes (Comparison.render disk .checking sorter baseline comparison artifactUrl) := by
  rintro ⟨text, written⟩
  simp only [Comparison.render, bind_eq_ok] at written
  obtain ⟨_, _, _, _, _, _, _, _, _, _, left, loaded, right, loaded', written⟩ := written
  have perm := loadSide_runs_perm loaded
  have perm' := loadSide_runs_perm loaded'
  obtain ⟨run, among, crowded⟩ : ∃ run ∈ left.runs ++ right.runs, Crowded run.result.scenario := by
    rcases crowds with ⟨run, among, crowded⟩ | ⟨run, among, crowded⟩
    · exact ⟨run, List.mem_append_left _ (perm.mem_iff.mpr among), crowded⟩
    · exact ⟨run, List.mem_append_right _ (perm'.mem_iff.mpr among), crowded⟩
  refine thorough (List.mem_map.mpr ⟨run, among, rfl⟩) ?_ (compareSpecs_crowded crowded)
    (Completes.of_bind ⟨text, written⟩)
  rw [List.length_map, List.length_append, perm.length_eq, perm'.length_eq]
  exact several

/-- One item has only one order. -/
theorem eq_of_perm_short {α : Type} {items items' : List α} (perm : items.Perm items')
    (short : items.length ≤ 1) : items = items' := by
  match items, short with
  | [], _ => exact (List.nil_perm.mp perm).symm
  | [only], _ => exact (List.perm_singleton.mp perm.symm).symm

/-- A comparison does not depend on the order of the inputs of either side.

Proof: where all runs are counted, each side is sorted into one order. Where one is
not, either there are several, and the sort of their scenarios stops, or there is
nothing but it to sort. -/
theorem compare_perm (perm : baseline.Perm baseline') (perm' : comparison.Perm comparison')
    (thorough : mode = .checking → Crowds disk baseline ∨ Crowds disk comparison →
      sorter.Thorough) (artifactUrl : Option String) :
    RenderedAlike mode (Crowds disk baseline ∨ Crowds disk comparison)
      (Comparison.render disk mode sorter baseline comparison artifactUrl)
      (Comparison.render disk mode sorter baseline' comparison' artifactUrl) := by
  have runs := @loadInputs_runs_perm disk _ _ perm
  have runs' := @loadInputs_runs_perm disk _ _ perm'
  have sidesAlike
      (sorted : sorter.sortUnstableBy (compareSide mode) (loadInputs disk baseline).runs =
        sorter.sortUnstableBy (compareSide mode) (loadInputs disk baseline').runs)
      (sorted' : sorter.sortUnstableBy (compareSide mode) (loadInputs disk comparison).runs =
        sorter.sortUnstableBy (compareSide mode) (loadInputs disk comparison').runs) :
      Comparison.render disk mode sorter baseline comparison artifactUrl =
        Comparison.render disk mode sorter baseline' comparison' artifactUrl := by
    simp only [Comparison.render, require_congr _ (ne_nil_of_perm perm),
      require_congr _ (ne_nil_of_perm perm'), perm.length_eq, perm'.length_eq,
      loadSide_eq perm sorted, loadSide_eq perm' sorted']
  by_cases settled : mode = .wrapping ∨ ¬(Crowds disk baseline ∨ Crowds disk comparison)
  · exact .of_eq (sidesAlike
      (side_runs_eq perm (settled.imp_right fun none crowds => none (Or.inl crowds)))
      (side_runs_eq perm' (settled.imp_right fun none crowds => none (Or.inr crowds))))
  · obtain ⟨checks, countable⟩ := not_or.mp settled
    obtain rfl := checking_of_ne checks
    have crowds := not_not.mp countable
    by_cases several : 2 ≤ (loadInputs disk baseline).runs.length +
      (loadInputs disk comparison).runs.length
    · refine Or.inr ⟨crowds, compare_crowded (thorough rfl crowds) crowds several artifactUrl,
        compare_crowded (thorough rfl crowds) ?_ ?_ artifactUrl⟩
      · exact crowds.imp (crowds_perm perm).mp (crowds_perm perm').mp
      · rw [← runs.length_eq, ← runs'.length_eq]
        exact several
    · exact .of_eq (sidesAlike (by rw [eq_of_perm_short runs (by omega)])
        (by rw [eq_of_perm_short runs' (by omega)]))

end Sides

end Separation

/-- Neither what is rendered nor what it fails with depends on the order of the
inputs, for any sorter, any disk and any text of results, in a build that wraps. A
build with overflow checks renders alike as well; only where one of the runs is a
smoke whose peers it cannot count, it may return in neither order instead. -/
theorem rendering_ignores_input_order (mode : Mode) (disk : Disk) (sorter : Sorter)
    (debug : ScenarioResult → String) :
    (∀ inputs inputs' artifactUrl, inputs.Perm inputs' →
      RenderedAlike mode (Crowds disk inputs)
        (render disk mode sorter debug inputs artifactUrl)
        (render disk mode sorter debug inputs' artifactUrl)) ∧
    (∀ baseline baseline' comparison comparison' artifactUrl,
      baseline.Perm baseline' → comparison.Perm comparison' →
      (mode = .checking → Crowds disk baseline ∨ Crowds disk comparison → sorter.Thorough) →
      RenderedAlike mode (Crowds disk baseline ∨ Crowds disk comparison)
        (Comparison.render disk mode sorter baseline comparison artifactUrl)
        (Comparison.render disk mode sorter baseline' comparison' artifactUrl)) :=
  ⟨fun _ _ artifactUrl perm => render_perm perm artifactUrl,
    fun _ _ _ _ artifactUrl perm perm' thorough =>
      compare_perm perm perm' thorough artifactUrl⟩

/-- The text of a smoke's result, up to its numbers. -/
def smokeParts : List String := [
  "\x7b\"schemaVersion\":4,\"profile\":\"opus-fanout-smoke-v3\",\"oSfuRevision\":null," ++
    "\"scenario\":\x7b\"type\":\"smoke\",\"receivers\":",
  ",\"packets\":1\x7d,\"serverPolicy\":\x7b\"mediaWorkers\":1,\"roomSize\":",
  ",\"maxPreAuthWebsocketSessionsPerOrigin\":",
  ",\"maxActiveAudioSpeakers\":4,\"maxVideoDownloadsPerReceiver\":10," ++
    "\"maxBitrateInBps\":8000000,\"maxBitrateOutBps\":10000000\x7d," ++
    "\"plan\":\x7b\"streams\":1,\"routes\":",
  ",\"offeredPackets\":1,\"offeredPayloadBytes\":80,\"expectedDeliveries\":",
  ",\"expectedDeliveryPayloadBytes\":",
  "\x7d,\"offeredPackets\":1,\"offeredPayloadBytes\":80,\"deliveredPackets\":",
  ",\"deliveredPayloadBytes\":",
  ",\"correctness\":\x7b\"missingPackets\":0,\"duplicatePackets\":0,\"outOfOrderPackets\":0," ++
    "\"unexpectedPackets\":0,\"payloadMismatches\":0\x7d,\"elapsedMs\":900,\"maxSendLagMs\":2\x7d"]

/-- The bytes of a smoke's result, where every receiver gets the one packet. -/
def smokeBytes (receivers peers bytes : String) : List UInt8 :=
  (smokeParts.zip [receivers, peers, peers, receivers, receivers, bytes, receivers, bytes, ""]).flatMap
    (fun (part, number) =>
      (part.toList ++ number.toList).map (fun char => UInt8.ofNat char.toNat))

attribute [local irreducible] smokeBytes

/-- What those bytes stand for. -/
def smokeResult (receivers : UInt32) : ScenarioResult where
  schemaVersion := 4
  profile := "opus-fanout-smoke-v3"
  oSfuRevision := none
  scenario := .smoke receivers 1
  serverPolicy := ⟨1, receivers + 1, receivers + 1, 4, 10, 8000000, 10000000⟩
  plan := ⟨1, receivers.toUInt64, 1, 80, receivers.toUInt64, receivers.toUInt64 * 80⟩
  offeredPackets := 1
  offeredPayloadBytes := 80
  deliveredPackets := receivers.toUInt64
  deliveredPayloadBytes := receivers.toUInt64 * 80
  correctness := .zero
  elapsedMs := 900
  maxSendLagMs := 2

/-- What a disk answers where nothing is. -/
def absent : IoError := ⟨true, "No such file or directory (os error 2)"⟩

/-- A disk with the results of two smokes, neither of them sampled. -/
def twoSmokes : Disk where
  isDir path := path = "runs/one" || path = "runs/two"
  metadata path :=
    if path = "runs/one/result.json" then .ok (smokeBytes "1" "2" "80").length
    else if path = "runs/two/result.json" then .ok (smokeBytes "2" "3" "160").length
    else .error absent
  read path :=
    if path = "runs/one/result.json" then .ok (smokeBytes "1" "2" "80")
    else if path = "runs/two/result.json" then .ok (smokeBytes "2" "3" "160")
    else .error absent
  fromSlice payload :=
    if payload = smokeBytes "1" "2" "80" then .ok (smokeResult 1)
    else if payload = smokeBytes "2" "3" "160" then .ok (smokeResult 2)
    else .error "expected value at line 1 column 1"
  fromUtf8 bytes := .ok (bytes.map (fun byte => Char.ofNat byte.toNat))
  serde := ⟨fun _ => [], fun _ => .error "expected value at line 1 column 1",
    fun _ => .error "missing field"⟩

/-- A directory with a result and no samples loads. -/
theorem loadRun_unsampled {disk : Disk} {input : String} {payload : List UInt8}
    {result : ScenarioResult} (directory : disk.isDir input = true)
    (size : disk.metadata (joinPath input "result.json") = .ok payload.length)
    (read : disk.read (joinPath input "result.json") = .ok payload)
    (short : payload.length ≤ resultLimitBytes) (decoded : disk.fromSlice payload = .ok result)
    (unsampled : disk.metadata (withFileName (joinPath input "result.json") "samples.jsonl") =
      .error absent) :
    loadRun disk input = .ok ⟨input, result, none⟩ := by
  have payloadRead : readBounded disk (joinPath input "result.json") resultLimitBytes =
      .ok payload := by
    simp only [readBounded, size, readInspected, read, withContext, Except.mapError, ok_bind,
      ensure_of_holds _ short]
    rfl
  simp only [loadRun, directory, if_true, payloadRead, ok_bind, withContext, decoded,
    Except.mapError, readOptionalBounded, unsampled, absent]
  rfl

/-- Only the numbers decide how long a result is. -/
theorem smokeBytes_length (receivers peers bytes : String) :
    (smokeBytes receivers peers bytes).length = (smokeParts.map (fun part => part.toList.length)).sum +
      4 * receivers.length + 2 * peers.length + 2 * bytes.length := by
  simp only [smokeBytes, smokeParts, List.zip_cons_cons, List.zip_nil_right, List.flatMap_cons,
    List.flatMap_nil, List.map_cons, List.map_nil, List.sum_cons, List.sum_nil, List.length_append,
    List.length_map, List.length_nil, String.length_toList,
    String.length_empty]
  omega

/-- The fixed text of a smoke's result is short. -/
theorem smokeParts_short : (smokeParts.map (fun part => part.toList.length)).sum ≤ 1000 := by
  decide +kernel

/-- So is its file, once the numbers are in. -/
theorem smokeBytes_short {receivers peers bytes : String}
    (short : receivers.length + peers.length + bytes.length ≤ 100) :
    (smokeBytes receivers peers bytes).length ≤ resultLimitBytes := by
  have parts := smokeParts_short
  rw [smokeBytes_length, resultLimitBytes]
  omega

/-- The results of the two smokes differ in length. -/
theorem smokeBytes_differ : smokeBytes "2" "3" "160" ≠ smokeBytes "1" "2" "80" := by
  intro same
  have sizes := congrArg List.length same
  have numbers : "2".length = 1 ∧ "3".length = 1 ∧ "160".length = 3 ∧ "1".length = 1 ∧
      "80".length = 2 := by decide
  rw [smokeBytes_length, smokeBytes_length] at sizes
  omega

/-- The first run is what its path loads. -/
theorem one_loads : loadRun twoSmokes "runs/one" = .ok ⟨"runs/one", smokeResult 1, none⟩ := by
  have path : joinPath "runs/one" "result.json" = "runs/one/result.json" := by decide
  have samples : withFileName "runs/one/result.json" "samples.jsonl" = "runs/one/samples.jsonl" := by
    decide
  have short := @smokeBytes_short "1" "2" "80" (by decide)
  refine loadRun_unsampled ?_ ?_ ?_ short ?_ ?_ <;> simp [twoSmokes, path, samples]

/-- The second run is what its path loads. -/
theorem two_loads : loadRun twoSmokes "runs/two" = .ok ⟨"runs/two", smokeResult 2, none⟩ := by
  have path : joinPath "runs/two" "result.json" = "runs/two/result.json" := by decide
  have samples : withFileName "runs/two/result.json" "samples.jsonl" = "runs/two/samples.jsonl" := by
    decide
  have short := @smokeBytes_short "2" "3" "160" (by decide)
  refine loadRun_unsampled ?_ ?_ ?_ short ?_ ?_ <;>
    simp [twoSmokes, path, samples, smokeBytes_differ]

/-- Both runs load, in the order of their paths. -/
theorem twoSmokes_load : (loadInputs twoSmokes ["runs/two", "runs/one"]).runs =
    [⟨"runs/two", smokeResult 2, none⟩, ⟨"runs/one", smokeResult 1, none⟩] := by
  simp [loadInputs, one_loads, two_loads, Except.toOption]

/-- And neither has too many receivers. -/
theorem twoSmokes_countable : ¬Crowds twoSmokes ["runs/two", "runs/one"] := by
  rintro ⟨run, among, crowded⟩
  rw [twoSmokes_load] at among
  simp only [List.mem_cons, List.not_mem_nil, or_false] at among
  rcases among with rfl | rfl <;> cases crowded

/-- Two smokes either way round, alone and on both sides, in a build with overflow checks. -/
theorem swapped_smokes_render_alike :
    render twoSmokes .checking insertion (fun _ => "") ["runs/two", "runs/one"] none =
      render twoSmokes .checking insertion (fun _ => "") ["runs/one", "runs/two"] none ∧
    Comparison.render twoSmokes .checking insertion ["runs/two", "runs/one"]
        ["runs/two", "runs/one"] none =
      Comparison.render twoSmokes .checking insertion ["runs/one", "runs/two"]
        ["runs/one", "runs/two"] none := by
  have alike := rendering_ignores_input_order .checking twoSmokes insertion (fun _ => "")
  constructor
  · rcases alike.1 _ _ none (.swap "runs/one" "runs/two" []) with same | ⟨crowds, _⟩
    · exact same
    · exact absurd crowds twoSmokes_countable
  · rcases alike.2 _ _ _ _ none (.swap "runs/one" "runs/two" []) (.swap "runs/one" "runs/two" [])
      (fun _ _ => insertion_thorough) with same | ⟨crowds, _⟩
    · exact same
    · exact absurd crowds (not_or.mpr ⟨twoSmokes_countable, twoSmokes_countable⟩)

end SfuLoad.Report
