import SfuLoad.Kit.Sorting
import SfuLoad.Report.Parse

/-!
# Every line of a telemetry file is accounted for

A line that is not blank becomes a measurement, an accepted phase marker, or a
loss, and only one of them. The account is kept line by line; the check at the
end may add one loss that belongs to no line, and the sort moves nothing past a
sample of the same time.
-/

namespace SfuLoad.Report

open scoped List
open Kit Kit.Lines Model

/-- The lines of a text that are not blank. -/
def contentLines (payload : Text) : List Text :=
  ((lines payload).map trim).filter (fun line => !line.isEmpty)

/-- Phases were recorded or asked for, and some are missing. -/
def ParseState.incomplete (self : ParseState) : Bool :=
  (self.phasesRequired || !self.set.phases.isEmpty) &&
    self.set.phases.length != ScenarioPhase.count

/-- Samples that measured something. -/
def SampleSet.measured (set : SampleSet) : Nat := set.samples.countP (fun sample => !sample.isGap)

/-- What a set that was read from so many lines satisfies. -/
structure SampleSet.Accounted (set : SampleSet) (lines : Nat) : Prop where
  phases : set.phases.map PhaseMarker.phase <+: ScenarioPhase.ordered
  errors : set.errors.length = min set.unavailable maxTelemetryErrors
  counted : set.measured + set.phases.length + set.unavailable = lines

namespace SampleSet

variable {set next : SampleSet} {count : Nat}

/-- The first few errors are kept, one for each loss. -/
theorem lose_errors (kept : set.errors.length = min set.unavailable maxTelemetryErrors)
    (error : String) : (set.lose error).errors.length =
      min (set.lose error).unavailable maxTelemetryErrors := by
  rw [lose_unavailable]
  by_cases few : set.errors.length < maxTelemetryErrors
  · have added : (set.lose error).errors = set.errors ++ [error] := by
      simp only [lose, retainError, if_pos few]
    rw [added, List.length_append, List.length_singleton]
    omega
  · have same : (set.lose error).errors = set.errors := by
      simp only [lose, retainError, if_neg few]
    rw [same]
    omega

/-- What is pushed behind a loss measured nothing. -/
theorem bare_isGap {gap : Option TelemetrySample} (bare : ∀ sample ∈ gap,
    sample = .gap sample.elapsedMs sample.finalSample sample.scrapeDurationMs) :
    gap.toList.countP (fun sample => !sample.isGap) = 0 := by
  refine List.countP_eq_zero.mpr (fun sample member => ?_)
  rw [bare sample (Option.mem_toList.mp member)]
  simp [TelemetrySample.gap]

/-- A marker that is accepted continues the order of phases. -/
theorem phases_extended {elapsedMs : UInt64} {phase : ScenarioPhase} {marker : PhaseMarker}
    (ordered : set.phases.map PhaseMarker.phase <+: ScenarioPhase.ordered)
    (accepted : PhaseMarker.new elapsedMs phase set.phases.getLast? = .ok marker) :
    (set.phases ++ [marker]).map PhaseMarker.phase <+: ScenarioPhase.ordered := by
  obtain ⟨next, _, rfl⟩ := PhaseMarker.new_eq_ok.mp accepted
  obtain ⟨rest, whole⟩ := ordered
  have position : phase.ordinal = set.phases.length := by
    rw [← next]
    cases last : set.phases.getLast? with
    | none => simp [List.getLast?_eq_none_iff.mp last]
    | some marker =>
      obtain ⟨front, split⟩ := List.getLast?_eq_some_iff.mp last
      have located : ScenarioPhase.ordered[front.length]? = some marker.phase := by
        rw [← whole, split]
        simp
      rw [Option.elim_some, ← (ScenarioPhase.ordered_getElem?_eq_some _ _).mp located, split]
      simp
  have located := (ScenarioPhase.ordered_getElem?_eq_some phase phase.ordinal).mpr rfl
  rw [position, ← whole, List.getElem?_append_right (by simp), List.length_map,
    Nat.sub_self] at located
  cases rest with
  | nil => simp at located
  | cons first rest =>
    obtain rfl : first = phase := by simpa using located
    exact ⟨rest, by rw [List.map_append, ← whole]; simp⟩

/-- One line adds one to the account, and at most one sample at the end. -/
theorem LineStep.accounted (step : LineStep set next) (account : set.Accounted count) :
    next.Accounted (count + 1) ∧ set.samples <+: next.samples := by
  cases step with
  | measured sample whole =>
    refine ⟨⟨account.phases, account.errors, ?_⟩, List.prefix_append _ _⟩
    have counted := account.counted
    simp only [SampleSet.measured, push, List.countP_append, Option.toList_some,
      List.countP_singleton, whole] at counted ⊢
    simp
    omega
  | marked elapsedMs phase marker accepted =>
    refine ⟨⟨phases_extended account.phases accepted, account.errors, ?_⟩, List.prefix_rfl⟩
    have counted := account.counted
    simp only [SampleSet.measured, List.length_append, List.length_singleton] at counted ⊢
    omega
  | lost error gap bare =>
    refine ⟨⟨?_, lose_errors account.errors error, ?_⟩, ?_⟩
    · simpa [push] using account.phases
    · have counted := account.counted
      simp only [SampleSet.measured, push, List.countP_append, lose_samples, lose_phases,
        lose_unavailable, bare_isGap bare] at counted ⊢
      omega
    · rw [push, lose_samples]
      exact List.prefix_append _ _

end SampleSet

/-- Reading more lines adds one to the account each, behind the samples so far. -/
theorem parse_accounted (serde : Serde) {state : ParseState} {count : Nat}
    (account : state.set.Accounted count) (lines : List Text) :
    (lines.foldl (parseLine serde) state).set.Accounted (count + lines.length) ∧
      state.set.samples <+: (lines.foldl (parseLine serde) state).set.samples := by
  induction lines generalizing state count with
  | nil => exact ⟨account, List.prefix_rfl⟩
  | cons line lines inductionHypothesis =>
    obtain ⟨next, added⟩ := (parseLine_step serde state line).accounted account
    obtain ⟨whole, later⟩ := inductionHypothesis next
    rw [List.length_cons, Nat.add_comm lines.length, ← Nat.add_assoc]
    exact ⟨whole, added.trans later⟩

/-- Before the first line there is nothing to account for. -/
theorem initial_accounted : ParseState.initial.set.Accounted 0 :=
  ⟨List.nil_prefix, rfl, rfl⟩

/-- The closing check adds a loss when phases are missing, and changes nothing else. -/
theorem checkPhases_account (state : ParseState) (kept : state.set.errors.length =
      min state.set.unavailable maxTelemetryErrors) :
    state.checkPhases.samples = state.set.samples ∧ state.checkPhases.phases = state.set.phases ∧
      state.checkPhases.unavailable =
        state.set.unavailable + (if state.incomplete then 1 else 0) ∧
      state.checkPhases.errors.length = min state.checkPhases.unavailable maxTelemetryErrors := by
  have checked : state.checkPhases = if state.incomplete then
      state.set.lose "telemetry phase sequence is incomplete" else state.set := rfl
  rw [checked]
  split
  · exact ⟨SampleSet.lose_samples _ _, SampleSet.lose_phases _ _,
      SampleSet.lose_unavailable _ _, SampleSet.lose_errors kept _⟩
  · exact ⟨rfl, rfl, rfl, kept⟩

/-- Whatever a file holds: the phases read are the first ones of the order, at
times that do not decrease; the samples are in time order, and in the file's order
at one time; at most eight errors are kept, and some when anything was lost; and
every line that is not blank is one measurement, one phase or one loss. The only
other loss is that of an incomplete phase sequence. -/
theorem every_line_accounted (serde : Serde) (payload : Text) :
    let read := parseLines serde payload
    let set := parseSamples serde payload
    (set.phases.map PhaseMarker.phase <+: ScenarioPhase.ordered ∧
      set.phases.Pairwise (fun earlier later => earlier.elapsedMs ≤ later.elapsedMs)) ∧
    (set.samples.Pairwise (fun earlier later => earlier.elapsedMs ≤ later.elapsedMs) ∧
      (∀ elapsedMs, set.samples.filter (fun sample => sample.elapsedMs = elapsedMs) =
        read.set.samples.filter (fun sample => sample.elapsedMs = elapsedMs)) ∧
      ∀ front rest, contentLines payload = front ++ rest →
        (front.foldl (parseLine serde) .initial).set.samples <+: read.set.samples) ∧
    (set.errors.length ≤ 8 ∧ (0 < set.unavailable → set.errors ≠ [])) ∧
    set.unavailable = read.set.unavailable + (if read.incomplete then 1 else 0) ∧
    (contentLines payload).length =
      set.samples.countP (fun sample => !sample.isGap) + set.phases.length + set.unavailable -
        (if read.incomplete then 1 else 0) := by
  intro read set
  obtain ⟨account, _⟩ := parse_accounted serde initial_accounted (contentLines payload)
  change read.set.Accounted _ at account
  obtain ⟨samples, phases, unavailable, errors⟩ := checkPhases_account read account.errors
  have ordered := parseSamples_ordered serde payload
  have sorted : set.samples = read.set.samples.mergeSort
      (fun earlier later => earlier.elapsedMs ≤ later.elapsedMs) := by
    rw [← samples]
    rfl
  refine ⟨⟨?_, ordered.phases⟩, ⟨ordered.samples, fun elapsedMs => ?_, ?_⟩, ⟨?_, ?_⟩,
    unavailable, ?_⟩
  · change read.checkPhases.phases.map _ <+: _
    rw [phases]
    exact account.phases
  · rw [sorted]
    refine Sorting.filter_mergeSort elapsed_trans elapsed_total ?_ _
    intro first second same other
    simp only [decide_eq_true_eq] at same other ⊢
    rw [same, other]
    exact UInt64.le_refl _
  · intro front rest split
    obtain ⟨begun, _⟩ := parse_accounted serde initial_accounted front
    have later := (parse_accounted serde begun rest).2
    rw [← List.foldl_append, ← split] at later
    exact later
  · have kept : set.errors.length = min set.unavailable maxTelemetryErrors := errors
    exact kept ▸ Nat.min_le_right _ _
  · intro lost none
    have kept : set.errors.length = min set.unavailable maxTelemetryErrors := errors
    rw [none, List.length_nil] at kept
    have some : maxTelemetryErrors = 8 := rfl
    omega
  · have counted := account.counted
    have measured : set.samples.countP (fun sample => !sample.isGap) = read.set.measured := by
      rw [sorted]
      exact (List.mergeSort_perm _ _).countP_eq _
    change _ = _ + read.checkPhases.phases.length + read.checkPhases.unavailable - _
    rw [measured, phases, unavailable]
    omega

end SfuLoad.Report
