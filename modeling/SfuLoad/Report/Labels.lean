import SfuLoad.Kit.Spelling
import SfuLoad.Report.Formats
import SfuLoad.Report.Pairing

/-!
# Labels of scenarios

A label is a word for the kind of workload and its numbers, each with a letter or a
stroke behind it. The words differ in their first letter and no separator opens with
a digit, so that two scenarios never share a label.
-/

namespace SfuLoad.Report

open Kit.Lines (Text)
open Kit.Spelling Model

/-- What stands in front of the numbers of a file's label. -/
def labelWord : ScenarioSpec → Text
  | .smoke _ _ => "smoke-".toList
  | .audioMesh _ _ _ => "audio-mesh-".toList
  | .videoGallery _ _ _ _ => "video-gallery-".toList
  | .mixedConference _ _ _ _ _ => "mixed-conference-".toList

/-- What stands in front of the numbers of a chart's label. -/
def chartWord : ScenarioSpec → Text
  | .smoke _ _ => "S ".toList
  | .audioMesh _ _ _ => "A ".toList
  | .videoGallery _ _ _ _ => "V ".toList
  | .mixedConference _ _ _ _ _ => "M ".toList

/-- The numbers of a scenario, each with what stands behind it. The labels of files
and of charts differ in the stroke between two numbers. -/
def labelFields (stroke : Char) : ScenarioSpec → List (Nat × Text)
  | .smoke receivers packets => [(receivers.toNat, ['r', stroke]), (packets.toNat, ['p'])]
  | .audioMesh rooms peers seconds =>
      [(rooms.toNat, ['x']), (peers.toNat, [stroke]), (seconds.toNat, ['s'])]
  | .videoGallery rooms peers publishers seconds =>
      [(rooms.toNat, ['x']), (peers.toNat, [stroke]), (publishers.toNat, ['p', stroke]),
        (seconds.toNat, ['s'])]
  | .mixedConference rooms peers audioPublishers videoPublishers seconds =>
      [(rooms.toNat, ['x']), (peers.toNat, [stroke]), (audioPublishers.toNat, ['a', stroke]),
        (videoPublishers.toNat, ['v', stroke]), (seconds.toNat, ['s'])]

/-- A number is spelled in decimal. -/
theorem number_toList (number : UInt32) : (toString number).toList = decimal number.toNat :=
  Nat.toList_repr

/-- A text is spelled as it is. -/
theorem toString_text (text : String) : toString text = text := rfl

/-- A label is its word and its numbers, each before its separator. -/
theorem scenarioLabel_toList (spec : ScenarioSpec) :
    (scenarioLabel spec).toList = labelWord spec ++ spelled (labelFields '-' spec) := by
  cases spec <;> unfold scenarioLabel labelWord labelFields spelled <;>
    simp only [String.toList_append, number_toList, toString_text, List.flatMap_cons,
      List.flatMap_nil] <;>
    simp

/-- So is a short label. -/
theorem chartLabel_toList (spec : ScenarioSpec) :
    (chartLabel spec).toList = chartWord spec ++ spelled (labelFields '/' spec) := by
  cases spec <;> unfold chartLabel chartWord labelFields spelled <;>
    simp only [String.toList_append, number_toList, toString_text, List.flatMap_cons,
      List.flatMap_nil] <;>
    simp

/-- No separator opens with a digit. -/
theorem labelFields_separated {stroke : Char} (plain : stroke.isDigit = false)
    (spec : ScenarioSpec) : ∀ field ∈ labelFields stroke spec, Separates field.2 := by
  cases spec <;> simp [labelFields, Separates, plain]

/-- The workloads of one kind. -/
def kind : ScenarioSpec → Nat
  | .smoke _ _ => 0
  | .audioMesh _ _ _ => 1
  | .videoGallery _ _ _ _ => 2
  | .mixedConference _ _ _ _ _ => 3

/-- Within a kind the separators are the same, and the numbers are all there is. -/
theorem labelFields_injective {stroke : Char} (plain : stroke.isDigit = false)
    {left right : ScenarioSpec} (same_kind : kind left = kind right)
    (same : spelled (labelFields stroke left) = spelled (labelFields stroke right)) :
    left = right := by
  have separators : (labelFields stroke left).map Prod.snd =
      (labelFields stroke right).map Prod.snd := by
    cases left <;> cases right <;> first | (cases same_kind; done) | rfl
  have numbers := spelled_injective (labelFields_separated plain left) separators same
  cases left <;> cases right <;> simp [labelFields, UInt32.toNat_inj] at numbers ⊢
  all_goals exact numbers

/-- Behind words that tell the kinds apart and do not depend on the numbers, the
numbers tell the scenarios apart. -/
theorem worded_injective {word : ScenarioSpec → Text} {stroke : Char}
    (plain : stroke.isDigit = false)
    (worded : ∀ left right, kind left = kind right → word left = word right)
    (apart : ∀ left right, (word left).head? = (word right).head? → kind left = kind right)
    (opens : ∀ spec, word spec ≠ []) {left right : ScenarioSpec}
    (same : word left ++ spelled (labelFields stroke left) =
      word right ++ spelled (labelFields stroke right)) : left = right := by
  have first := congrArg List.head? same
  rw [List.head?_append_of_ne_nil _ (opens left), List.head?_append_of_ne_nil _ (opens right)]
    at first
  have same_kind := apart left right first
  rw [worded left right same_kind] at same
  exact labelFields_injective plain same_kind (List.append_cancel_left same)

/-- So the label tells the scenario: the word its kind, and each number ends where its
separator begins. -/
theorem scenarioLabel_injective {left right : ScenarioSpec}
    (same : scenarioLabel left = scenarioLabel right) : left = right := by
  have texts := congrArg String.toList same
  rw [scenarioLabel_toList, scenarioLabel_toList] at texts
  refine worded_injective (by decide) ?_ ?_ ?_ texts
  · intro left right same_kind
    cases left <;> cases right <;> first | (cases same_kind; done) | rfl
  · intro left right first
    cases left <;> cases right <;> unfold labelWord at first <;> simp at first <;> rfl
  · intro spec
    cases spec <;> unfold labelWord <;> simp

/-- The short label does too. -/
theorem chartLabel_injective {left right : ScenarioSpec}
    (same : chartLabel left = chartLabel right) : left = right := by
  have texts := congrArg String.toList same
  rw [chartLabel_toList, chartLabel_toList] at texts
  refine worded_injective (by decide) ?_ ?_ ?_ texts
  · intro left right same_kind
    cases left <;> cases right <;> first | (cases same_kind; done) | rfl
  · intro left right first
    cases left <;> cases right <;> unfold chartWord at first <;> simp at first <;> rfl
  · intro spec
    cases spec <;> unfold chartWord <;> simp

end SfuLoad.Report
