import SfuLoad.Kit.Rounding
import SfuLoad.Report.Fanout
import SfuLoad.Report.Render

/-!
# The axis of a chart

The axis of a panel is made from its largest value: a tenth more, rounded up to two
digits, and no more than what a chart can show exactly. None of the steps can leave its
type, so that the axis is that of unbounded arithmetic, and it grows with the values.
-/

namespace SfuLoad.Report

open Kit.Checked Kit.Rounding
open Kit.Fallible (bind_eq_ok exists_of_forall₂ forall₂_of_mapM ok_bind)
open Kit.Saturating (largest_le_iff min_toNat max_toNat toNat_le_limit)

/-- The largest integer that a chart shows exactly. -/
abbrev exactLimit : Nat := 2 ^ 53 - 1

/-- A tenth more than a value, rounded up, within the exact integers. -/
def padded (largest : Nat) : Nat := min ((11 * largest + 9) / 10) exactLimit

/-- The axis for a largest value, without types that have an end. -/
def exactAxis (largest minimum : Nat) : Nat :=
  if largest = 0 then max minimum 1
  else if largest ≤ minimum then minimum
  else max (max (min (roundedUp 10 (padded largest)) exactLimit) largest) minimum

section Exact

variable {largest minimum : Nat}

/-- Padding leaves no axis of height zero. -/
theorem padded_pos (present : largest ≠ 0) : 0 < padded largest := by
  simp only [padded, exactLimit]
  omega

/-- A greater value is padded to no less. -/
theorem padded_mono {other : Nat} (ordered : largest ≤ other) : padded largest ≤ padded other := by
  simp only [padded]
  omega

/-- Within the exact integers the steps are far from the end of a word. -/
theorem padded_steps (largest : Nat) :
    leadingStep 10 (padded largest) ≤ 10 ^ 14 ∧ roundedUp 10 (padded largest) ≤ 10 ^ 16 := by
  have small : padded largest < 10 ^ 16 :=
    Nat.lt_of_le_of_lt (Nat.min_le_right _ _) (by decide)
  have digits : Nat.log 10 (padded largest) ≤ 15 := by
    rcases Nat.eq_zero_or_pos (padded largest) with zero | positive
    · simp [zero]
    · exact Nat.le_of_lt_succ (Nat.log_lt_of_lt_pow positive.ne' small)
  constructor
  · exact Nat.pow_le_pow_right (by decide) (by omega)
  · exact (roundedUp_le_pow (by decide) _).trans (Nat.pow_le_pow_right (by decide) (by omega))

/-- The axis covers the largest value. -/
theorem le_exactAxis (largest minimum : Nat) : largest ≤ exactAxis largest minimum := by
  unfold exactAxis
  split
  · omega
  · split <;> omega

/-- And the minimum that is asked for. -/
theorem minimum_le_exactAxis (largest minimum : Nat) : minimum ≤ exactAxis largest minimum := by
  unfold exactAxis
  split
  · omega
  · split <;> omega

/-- It is never empty. -/
theorem one_le_exactAxis (largest minimum : Nat) : 1 ≤ exactAxis largest minimum := by
  unfold exactAxis
  split
  · omega
  · split <;> omega

/-- And stays within what a chart can show exactly. -/
theorem exactAxis_le (largestSmall : largest ≤ exactLimit) (minimumSmall : minimum ≤ exactLimit) :
    exactAxis largest minimum ≤ exactLimit := by
  unfold exactAxis
  simp only [exactLimit] at largestSmall minimumSmall ⊢
  split
  · omega
  · split <;> omega

/-- A value above the minimum has its headroom. -/
theorem padded_le_exactAxis (above : minimum < largest) :
    padded largest ≤ exactAxis largest minimum := by
  have rounded := le_roundedUp (by decide : 1 < 10) (padded largest)
  have capped : padded largest ≤ exactLimit := Nat.min_le_right _ _
  rw [exactAxis, if_neg (by omega), if_neg (by omega)]
  exact le_max_of_le_left (le_max_of_le_left (le_min rounded capped))

/-- The axis grows with the largest value.

Proof: below the minimum the axis is the minimum, or one, and above it every part of
the axis grows. -/
theorem exactAxis_mono {other : Nat} (ordered : largest ≤ other) :
    exactAxis largest minimum ≤ exactAxis other minimum := by
  have least := minimum_le_exactAxis other minimum
  have positive := one_le_exactAxis other minimum
  by_cases none : largest = 0
  · rw [exactAxis, if_pos none]
    exact max_le least positive
  · rw [exactAxis, if_neg none]
    by_cases below : largest ≤ minimum
    · rw [if_pos below]
      exact least
    · rw [if_neg below, exactAxis, if_neg (by omega), if_neg (by omega)]
      have rounded := roundedUp_mono (by decide : 1 < 10) (padded_mono ordered)
      exact max_le_max_right _ (max_le_max (min_le_min_right _ rounded) ordered)

end Exact

/-- The steps of the axis return, and nothing is lost on the way. -/
theorem chartAxisMax_eq (mode : Mode) (values : List UInt64) (minimum : UInt64) :
    ∃ axis, chartAxisMax mode values minimum = .ok axis ∧
      axis.toNat = exactAxis (values.max?.getD 0).toNat minimum.toNat := by
  unfold chartAxisMax exactAxis
  generalize values.max?.getD 0 = maximum
  dsimp only
  have zero : maximum = 0 ↔ maximum.toNat = 0 := by rw [← UInt64.toNat_inj, UInt64.toNat_zero]
  by_cases none : maximum = 0
  · rw [if_pos none, if_pos (zero.mp none)]
    refine ⟨_, rfl, ?_⟩
    rw [max_toNat, UInt64.toNat_one]
  · have present := fun empty => none (zero.mpr empty)
    rw [if_neg none, if_neg present]
    by_cases below : maximum ≤ minimum
    · rw [if_pos below, if_pos (UInt64.le_iff_toNat_le.mp below)]
      exact ⟨_, rfl, rfl⟩
    · rw [if_neg below, if_neg (fun least => below (UInt64.le_iff_toNat_le.mpr least))]
      have bound := maximum.toNat_lt
      rw [mul_of_lt (by rw [u128]; omega), ok_bind, divCeil_of_ne (by decide), ok_bind]
      have shape : (maximum.toNat * 11 + 10 - 1) / 10 = (11 * maximum.toNat + 9) / 10 := by omega
      rw [shape]
      generalize capped : min (if (11 * maximum.toNat + 9) / 10 < u64 then
        UInt64.ofNat ((11 * maximum.toNat + 9) / 10) else maxMermaidInteger) maxMermaidInteger =
          axis
      have exact_padding : axis.toNat = padded maximum.toNat := by
        have largest : maxMermaidInteger.toNat = exactLimit := rfl
        rw [← capped, min_toNat, largest, padded]
        split
        · next small => rw [UInt64.toNat_ofNat_of_lt' small]
        · next large =>
          rw [largest, Nat.min_self, Nat.min_eq_right]
          simp only [u64, Nat.not_lt] at large
          exact Nat.le_trans (by decide) large
      obtain ⟨stepSmall, roundedSmall⟩ := padded_steps maximum.toNat
      have positive := padded_pos present
      have logged : (10 : Nat) ^ (Nat.log 10 axis.toNat - 1) = leadingStep 10 axis.toNat := rfl
      rw [ilog10_of_ne (by rw [exact_padding]; exact positive.ne'), ok_bind,
        pow_of_lt (by rw [logged, exact_padding]; exact Nat.lt_of_le_of_lt stepSmall (by decide)),
        ok_bind, divCeil_of_ne (Nat.pow_pos (by decide)).ne', ok_bind]
      refine ⟨_, rfl, ?_⟩
      rw [max_toNat, max_toNat, min_toNat, clamped_toNat]
      have rounded : (axis.toNat + 10 ^ (Nat.log 10 axis.toNat - 1) - 1) /
          10 ^ (Nat.log 10 axis.toNat - 1) * 10 ^ (Nat.log 10 axis.toNat - 1) =
            roundedUp 10 (padded maximum.toNat) := by
        rw [← exact_padding]
        rfl
      rw [rounded, Nat.min_eq_left (roundedSmall.trans (by decide))]
      rfl

section Panels

variable {mode : Mode} {title description yAxis : String} {labels : List String}
  {minimum : UInt64} {series : List ChartSeries}

/-- The chart of one panel: the parts of the series in a range of labels, all of them
within the axis. -/
def PanelWithin (description yAxis : String) (series : List ChartSeries)
    (range : Nat × Nat) (panel : List String) : Prop :=
  ∃ title labels axis parts,
    renderCategoryChart title description labels yAxis axis parts = .ok panel ∧
    List.Forall₂ (fun line part => part.name = line.name ∧
      slice line.values range = some part.values) series parts ∧
    ∀ part ∈ parts, ∀ value ∈ part.values, value ≤ axis

/-- An expected value is there, or the computation has stopped. -/
theorem expect_eq_ok {α : Type} (value : Option α) (message : String) (result : α) :
    expect value message = .ok result ↔ value = some result := by
  cases value <;> simp [expect]

/-- All points of a drawn panel lie within its axis. -/
theorem renderPanel_within {chunkCount : Nat} {chunk : (Nat × Nat) × Nat} {panel : List String}
    (drawn : renderPanel mode title description labels yAxis minimum series chunkCount chunk =
      .ok panel) : PanelWithin description yAxis series chunk.1 panel := by
  obtain ⟨chartLabels, _, drawn⟩ := (bind_eq_ok _ _ _).mp drawn
  obtain ⟨chartTitle, _, drawn⟩ := (bind_eq_ok _ _ _).mp drawn
  obtain ⟨parts, cut, drawn⟩ := (bind_eq_ok _ _ _).mp drawn
  obtain ⟨axis, scaled, drawn⟩ := (bind_eq_ok _ _ _).mp drawn
  refine ⟨chartTitle, chartLabels, axis, parts, drawn, ?_, ?_⟩
  · refine (forall₂_of_mapM cut).imp (fun line part answered => ?_)
    obtain ⟨values, present, returned⟩ := (bind_eq_ok _ _ _).mp answered
    obtain rfl := Except.ok.inj returned
    exact ⟨rfl, (expect_eq_ok _ _ _).mp present⟩
  · obtain ⟨axis', scaled', exact_axis⟩ := chartAxisMax_eq mode (parts.flatMap ChartSeries.values)
      minimum
    rw [scaled] at scaled'
    obtain rfl := Except.ok.inj scaled'
    have covers := le_exactAxis ((parts.flatMap ChartSeries.values).max?.getD 0).toNat minimum.toNat
    rw [← exact_axis, ← UInt64.le_iff_toNat_le, largest_le_iff] at covers
    intro part member value among
    exact covers value (List.mem_flatMap.mpr ⟨part, member, among⟩)

/-- A chart is one notice, or panels over ranges of labels, each within its axis. -/
def ChartWithin (mode : Mode) (title description yAxis : String) (labels : List String)
    (series : List ChartSeries) (lines : List String) : Prop :=
  (∃ reason : String, lines = paragraph
    s!"The {title} chart is omitted because {reason}. The tabular metrics remain available.") ∨
  ∃ ranges panels heading, chartRanges mode labels.length labels.length 0 = .ok ranges ∧
    lines = heading ++ panels.flatten ∧
    List.Forall₂ (PanelWithin description yAxis series) ranges panels

/-- And so do those of all its panels. -/
theorem renderCategoryCharts_within {lines : List String}
    (drawn : renderCategoryCharts mode title description labels yAxis minimum series = .ok lines) :
    ChartWithin mode title description yAxis labels series lines := by
  obtain ⟨_, _, drawn⟩ := (bind_eq_ok _ _ _).mp drawn
  obtain ⟨_, _, drawn⟩ := (bind_eq_ok _ _ _).mp drawn
  obtain ⟨_, _, drawn⟩ := (bind_eq_ok _ _ _).mp drawn
  dsimp only at drawn
  split at drawn
  · exact Or.inl ⟨_, (Except.ok.inj drawn).symm⟩
  split at drawn
  · exact Or.inl ⟨_, (Except.ok.inj drawn).symm⟩
  split at drawn
  · exact Or.inl ⟨_, (Except.ok.inj drawn).symm⟩
  obtain ⟨ranges, split, drawn⟩ := (bind_eq_ok _ _ _).mp drawn
  obtain ⟨panels, each, drawn⟩ := (bind_eq_ok _ _ _).mp drawn
  refine Or.inr ⟨ranges, panels, _, split, (Except.ok.inj drawn).symm, ?_⟩
  have placed := (forall₂_of_mapM each).imp (fun chunk panel answered =>
    renderPanel_within answered)
  have numbered := List.forall₂_map_left_iff.mpr placed
  rwa [List.zipIdx_map_fst] at numbered

end Panels

/-- The axis of a panel covers its values and its minimum, can be shown exactly, leaves
a tenth above a largest value that exceeds the minimum, and grows with the values. The
steps it is made in have room in a word, in every build. All that a chart draws is
within the axis of its panel. -/
theorem chart_axis_covers (mode : Mode) (values : List UInt64) (minimum : UInt64)
    (nonempty : values ≠ []) (exact_values : ∀ value ∈ values, value.toNat ≤ 2 ^ 53 - 1)
    (exact_minimum : minimum.toNat ≤ 2 ^ 53 - 1) :
    ∃ axis, chartAxisMax mode values minimum = .ok axis ∧
      1 ≤ axis.toNat ∧ axis.toNat ≤ 2 ^ 53 - 1 ∧ (∀ value ∈ values, value ≤ axis) ∧
      minimum ≤ axis ∧
      (∃ largest ∈ values, (∀ value ∈ values, value ≤ largest) ∧
        (minimum < largest → min ((11 * largest.toNat + 9) / 10) (2 ^ 53 - 1) ≤ axis.toNat) ∧
        11 * largest.toNat + 9 < 2 ^ 64 ∧ leadingStep 10 (padded largest.toNat) < 2 ^ 64 ∧
        roundedUp 10 (padded largest.toNat) < 2 ^ 64) ∧
      (∀ enlarged axis', List.Forall₂ (· ≤ ·) values enlarged →
        chartAxisMax mode enlarged minimum = .ok axis' → axis ≤ axis') ∧
      ∀ title description labels yAxis series lines,
        renderCategoryCharts mode title description labels yAxis minimum series = .ok lines →
        ChartWithin mode title description yAxis labels series lines := by
  obtain ⟨axis, returned, exact_axis⟩ := chartAxisMax_eq mode values minimum
  obtain ⟨largest, found⟩ := Option.isSome_iff_exists.mp (List.isSome_max?_iff.mpr nonempty)
  obtain ⟨among, bounds⟩ := List.max?_eq_some_iff.mp found
  rw [found, Option.getD_some] at exact_axis
  have covers (value : UInt64) (member : value ∈ values) : value ≤ axis := by
    rw [UInt64.le_iff_toNat_le, exact_axis]
    exact (UInt64.le_iff_toNat_le.mp (bounds value member)).trans (le_exactAxis _ _)
  have exact_largest := exact_values largest among
  obtain ⟨stepSmall, roundedSmall⟩ := padded_steps largest.toNat
  refine ⟨axis, returned, ?_, ?_, covers, ?_, ⟨largest, among, bounds, ?_, ?_, ?_, ?_⟩, ?_, ?_⟩
  · rw [exact_axis]
    exact one_le_exactAxis _ _
  · rw [exact_axis]
    exact exactAxis_le exact_largest exact_minimum
  · rw [UInt64.le_iff_toNat_le, exact_axis]
    exact minimum_le_exactAxis _ _
  · intro above
    rw [exact_axis]
    exact padded_le_exactAxis (UInt64.lt_iff_toNat_lt.mp above)
  · omega
  · exact Nat.lt_of_le_of_lt stepSmall (by decide)
  · exact Nat.lt_of_le_of_lt roundedSmall (by decide)
  · intro enlarged axis' grown returned'
    obtain ⟨same, answered, exact_axis'⟩ := chartAxisMax_eq mode enlarged minimum
    rw [returned'] at answered
    obtain rfl := Except.ok.inj answered
    obtain ⟨other, inEnlarged, above⟩ := exists_of_forall₂ grown among
    have ordered : largest ≤ enlarged.max?.getD 0 :=
      UInt64.le_trans above (largest_le_iff.mp (UInt64.le_refl _) other inEnlarged)
    rw [UInt64.le_iff_toNat_le, exact_axis, exact_axis']
    exact exactAxis_mono (UInt64.le_iff_toNat_le.mp ordered)
  · intro title description labels yAxis series lines drawn
    exact renderCategoryCharts_within drawn

/-- A processor load of just over one core leaves a tenth above it. -/
theorem chart_axis_covers_core :
    ∃ axis, chartAxisMax .wrapping [40, 101] 100 = .ok axis ∧
      (∀ value ∈ [40, 101], value ≤ axis) ∧ 112 ≤ axis.toNat := by
  have loads : ∀ value ∈ ([40, 101] : List UInt64), value.toNat ≤ 2 ^ 53 - 1 := by simp
  obtain ⟨axis, returned, _, _, covers, _, ⟨largest, among, bounds, headroom, _⟩, _⟩ :=
    chart_axis_covers .wrapping [40, 101] 100 (by simp) loads (by decide)
  refine ⟨axis, returned, covers, ?_⟩
  have above : (101 : UInt64) ≤ largest := bounds 101 (by decide)
  rw [UInt64.le_iff_toNat_le] at above
  have exceeds : (100 : UInt64) < largest :=
    UInt64.lt_iff_toNat_lt.mpr (Nat.lt_of_lt_of_le (by decide) above)
  have room := headroom exceeds
  have plain : (101 : UInt64).toNat = 101 := rfl
  have bounded : largest.toNat < 2 ^ 64 := largest.toNat_lt
  omega

end SfuLoad.Report
