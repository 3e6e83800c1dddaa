import SfuLoad.Report.Partition
import SfuLoad.Report.Survival

/-!
# The key of a scenario

The key does not hold the packets of a smoke. What it holds instead are the planned
deliveries, which are the receivers times the packets as long as there is a plan, and
every scenario that is valid has one. So the key tells valid scenarios apart, and a
list in its order has equal scenarios in one piece.
-/

namespace SfuLoad.Report

open Kit.Checked (Mode)
open Kit.Sorting Model Std
open scoped List

/-- Valid smokes are planned. -/
theorem planned_of_valid {receivers packets : UInt32}
    (valid : (ScenarioSpec.smoke receivers packets).validate = .ok ()) :
    ¬Unplanned receivers packets := by
  obtain ⟨some, few, _, short⟩ := ScenarioSpec.smoke_bounds valid
  have area : receivers.toNat * packets.toNat ≤ 99 * 180000 := Nat.mul_le_mul few short
  rintro (none | overflow)
  · rw [none, UInt32.toNat_zero] at some
    omega
  · omega

/-- The key of a valid scenario is its own: of a smoke it has the receivers and the
deliveries, so the packets too. -/
theorem eq_of_scenarioKey {spec other : ScenarioSpec} (valid : spec.validate = .ok ())
    (sameKey : scenarioKey spec = scenarioKey other) : spec = other := by
  rcases scenarioKey_eq_iff.mp sameKey with same | confused
  · exact same
  · cases confused with
    | smokes receivers packets others different unplanned unplanned' rounded =>
      exact absurd unplanned (planned_of_valid valid)

/-- In the order of the key nothing stands between two equal scenarios. -/
theorem one_piece_of_ordered {specs : List ScenarioSpec}
    (valid : ∀ spec ∈ specs, spec.validate = .ok ())
    (ordered : specs.Pairwise (fun earlier later => (compareScenarios earlier later).isLE))
    {spec other : ScenarioSpec} (returned : [spec, other, spec] <+ specs) : other = spec := by
  have alike := alike_of_return ordered returned
  have among : spec ∈ specs := returned.subset List.mem_cons_self
  exact (eq_of_scenarioKey (valid spec among) (compareScenarios_eq_iff.mp alike)).symm

/-- Runs that a report has sorted are in the order of their scenarios' keys. -/
theorem ordered_of_compareRuns {mode : Mode} {sorter : Sorter} {debug : ScenarioResult → String}
    {runs sorted : List RunData} (valid : ∀ run ∈ runs, run.result.scenario.validate = .ok ())
    (returned : sorter.sortUnstableBy (compareRuns mode debug) runs = .ok sorted) :
    (sorted.map (fun run => run.result.scenario)).Pairwise
      (fun earlier later => (compareScenarios earlier later).isLE) := by
  have counted (run : RunData) (member : run ∈ runs) :
      Arithmetic.peersPerRoom mode run.result.scenario = .ok run.result.scenario.peersPerRoom :=
    Arithmetic.peersPerRoom_eq (Arithmetic.not_crowded_of_valid (valid run member))
  obtain ⟨sorted', returned', inOrder⟩ := @Sorter.returns sorter _ (orderRuns debug) _
    (compareRuns mode debug) runs (fun left inLeft right inRight =>
      compareRuns_eq (counted left inLeft) (counted right inRight))
  rw [returned] at returned'
  obtain rfl := Except.ok.inj returned'
  rw [List.pairwise_map]
  exact inOrder.imp (fun before => Ordering.isLE_left_of_isLE_then before)

/-- The key tells valid scenarios apart. However an unstable sort by the key arranges
them, equal scenarios end up in one piece, dropping adjacent duplicates leaves each
scenario once, and the sorted runs of a report have the runs of a scenario together. -/
theorem scenario_key_separates :
    (∀ spec other : ScenarioSpec, spec.validate = .ok () → other.validate = .ok () →
      scenarioKey spec = scenarioKey other → spec = other) ∧
    (∀ sort, Sorts compareScenarios sort → ∀ specs : List ScenarioSpec,
      (∀ spec ∈ specs, spec.validate = .ok ()) →
      (sort specs).Perm specs ∧
      (∀ spec other, [spec, other, spec] <+ sort specs → other = spec) ∧
      (dedup (sort specs)).Nodup ∧ ∀ spec, spec ∈ dedup (sort specs) ↔ spec ∈ specs) ∧
    ∀ mode (sorter : Sorter) debug (runs sorted : List RunData),
      (∀ run ∈ runs, run.result.scenario.validate = .ok ()) →
      sorter.sortUnstableBy (compareRuns mode debug) runs = .ok sorted →
      ∀ spec other, [spec, other, spec] <+ sorted.map (fun run => run.result.scenario) →
        other = spec := by
  refine ⟨fun spec other valid _ sameKey => eq_of_scenarioKey valid sameKey, ?_, ?_⟩
  · intro sort sorts specs valid
    have together (spec other : ScenarioSpec) (returned : [spec, other, spec] <+ sort specs) :
        other = spec :=
      one_piece_of_ordered (fun spec member => valid spec (sorts.mem_iff.mp member))
        (sorts.ordered specs) returned
    refine ⟨sorts.rearranges specs, together, ?_, fun spec => ?_⟩
    · exact nodup_dedup_iff.mpr (fun spec other returned => (together spec other returned).symm)
    · rw [mem_dedup, sorts.mem_iff]
  · intro mode sorter debug runs sorted valid returned spec other among
    refine one_piece_of_ordered ?_ (ordered_of_compareRuns valid returned) among
    intro spec member
    obtain ⟨run, inSorted, rfl⟩ := List.mem_map.mp member
    exact valid run ((sorter.rearranges returned).mem_iff.mp inSorted)

end SfuLoad.Report
