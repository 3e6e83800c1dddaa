import Mathlib.Data.List.Infix
import SfuLoad.Kit.Lines

/-!
# Replacing a line of a text

A text of terminated lines is searched for the first occurrence of a pattern. When the
pattern is a line with its terminator, it occurs where a line ends with it, so replacing
its first occurrence replaces the first such line.
-/

namespace Kit.Replacing

open Kit.Lines

universe u
variable {α : Type u} [DecidableEq α]

/-- The text with the first occurrence of a pattern replaced. -/
def replaceFirst (pattern replacement : List α) : List α → List α
  | [] => if pattern = [] then replacement else []
  | item :: rest =>
    if pattern <+: item :: rest then replacement ++ (item :: rest).drop pattern.length
    else item :: replaceFirst pattern replacement rest

/-- An occurrence in front is replaced. -/
theorem replaceFirst_of_front (pattern replacement rest : List α) :
    replaceFirst pattern replacement (pattern ++ rest) = replacement ++ rest := by
  cases whole : pattern ++ rest with
  | nil =>
    obtain ⟨rfl, rfl⟩ := List.append_eq_nil_iff.mp whole
    simp [replaceFirst]
  | cons item tail =>
    have opens : pattern <+: item :: tail := ⟨rest, whole⟩
    rw [replaceFirst, if_pos opens, ← whole, List.drop_left]

/-- What stands before the first occurrence is kept. -/
theorem replaceFirst_append {pattern : List α} (replacement : List α) {lead rest : List α}
    (absent : ∀ before after, lead = before ++ after → after ≠ [] →
      ¬pattern <+: after ++ rest) :
    replaceFirst pattern replacement (lead ++ rest) =
      lead ++ replaceFirst pattern replacement rest := by
  induction lead with
  | nil => rfl
  | cons item lead inductionHypothesis =>
    have notHere := absent [] (item :: lead) rfl (List.cons_ne_nil _ _)
    rw [List.cons_append] at notHere ⊢
    rw [replaceFirst, if_neg notHere, List.cons_append]
    refine congrArg (item :: ·) (inductionHypothesis fun before after split nonempty => ?_)
    exact absent (item :: before) after (by rw [split, List.cons_append]) nonempty

/-- The end of a line. -/
def terminator : Text := ['\r', '\n']

/-- Lines, each with its end. -/
def render (lines : List Text) : Text := lines.flatMap (· ++ terminator)

/-- The first line is written before the others. -/
theorem render_cons (line : Text) (lines : List Text) :
    render (line :: lines) = line ++ terminator ++ render lines := rfl

/-- Lists of lines are written one after the other. -/
theorem render_append (first second : List Text) :
    render (first ++ second) = render first ++ render second := List.flatMap_append

/-- A text without a line end in it. -/
def Single (line : Text) : Prop := '\r' ∉ line ∧ '\n' ∉ line

/-- Whether a text holds a line end can be decided. -/
instance (line : Text) : Decidable (Single line) := by
  unfold Single
  infer_instance

/-- Two texts without a line end have none when put together. -/
theorem single_append {front back : Text} (single : Single front) (single' : Single back) :
    Single (front ++ back) := by
  simp only [Single, List.mem_append, not_or]
  exact ⟨⟨single.1, single'.1⟩, single.2, single'.2⟩

/-- Lines that were written are read back. -/
theorem lines_render {written : List Text} (each : ∀ line ∈ written, Single line) :
    lines (render written) = written := by
  induction written with
  | nil => rfl
  | cons line rest inductionHypothesis =>
    have whole : '\n' ∉ line ++ ['\r'] := by
      simpa using (each line List.mem_cons_self).2
    have opens : render (line :: rest) = (line ++ ['\r']) ++ '\n' :: render rest := by
      rw [render_cons]
      simp [terminator]
    have stripped : stripReturn (line ++ ['\r']) = line := by
      simp [stripReturn]
    rw [lines, opens, linesFrom_terminated [] _ _ whole, List.nil_append, stripped]
    exact congrArg (line :: ·) (inductionHypothesis fun other member =>
      each other (List.mem_cons_of_mem _ member))

/-- Of two texts that run up to the same character alike, the parts before it are equal. -/
theorem same_of_separated {separator : Char} {left right leftRest rightRest : Text}
    (leftFree : separator ∉ left) (rightFree : separator ∉ right)
    (same : left ++ separator :: leftRest = right ++ separator :: rightRest) : left = right := by
  induction left generalizing right with
  | nil =>
    cases right with
    | nil => rfl
    | cons character right =>
      obtain rfl := (List.cons.inj same).1
      exact absurd List.mem_cons_self rightFree
  | cons character left inductionHypothesis =>
    cases right with
    | nil =>
      obtain rfl := (List.cons.inj same).1
      exact absurd List.mem_cons_self leftFree
    | cons other right =>
      obtain ⟨rfl, rest⟩ := List.cons.inj same
      have leftFree := fun member => leftFree (List.mem_cons_of_mem _ member)
      have rightFree := fun member => rightFree (List.mem_cons_of_mem _ member)
      rw [inductionHypothesis leftFree rightFree rest]

/-- A terminated line occurs in another one only at the end of a line that ends with it. -/
theorem not_prefix_of_line {pattern line rest after before : Text} (single : Single pattern)
    (nonempty : pattern ≠ []) (lineSingle : Single line) (apart : ¬pattern <:+ line)
    (split : line ++ terminator = before ++ after) (present : after ≠ []) :
    ¬pattern ++ terminator <+: after ++ rest := by
  rintro ⟨behind, same⟩
  rcases List.append_eq_append_iff.mp split with ⟨gap, rfl, ends⟩ | ⟨gap, rfl, rfl⟩
  · -- The occurrence would begin in the terminator.
    cases pattern with
    | nil => exact nonempty rfl
    | cons character pattern =>
      cases after with
      | nil => exact present rfl
      | cons other after =>
        have opens : character = other := (List.cons.inj same).1
        have among : other ∈ terminator := ends ▸ List.mem_append_right gap List.mem_cons_self
        subst opens
        simp only [terminator, List.mem_cons, List.not_mem_nil, or_false] at among
        rcases among with rfl | rfl
        · exact single.1 List.mem_cons_self
        · exact single.2 List.mem_cons_self
  · -- It begins in the line, and runs up to the same line end.
    have gapFree : '\r' ∉ gap := fun member => lineSingle.1 (List.mem_append_right before member)
    have aligned : pattern ++ '\r' :: ('\n' :: behind) = gap ++ '\r' :: ('\n' :: rest) := by
      simpa [terminator] using same
    exact apart (same_of_separated single.1 gapFree aligned ▸ List.suffix_append before gap)

/-- A terminated line does not occur among lines none of which ends with it. -/
theorem not_infix_render {pattern : Text} {lines : List Text} (single : Single pattern)
    (nonempty : pattern ≠ []) (each : ∀ line ∈ lines, Single line)
    (apart : ∀ line ∈ lines, ¬pattern <:+ line) :
    ¬pattern ++ terminator <:+: render lines := by
  induction lines with
  | nil => simp [render, terminator]
  | cons line lines inductionHypothesis =>
    have later := inductionHypothesis (fun other member => each other (List.mem_cons_of_mem _ member))
      (fun other member => apart other (List.mem_cons_of_mem _ member))
    rintro ⟨start, behind, same⟩
    rw [render_cons, List.append_assoc] at same
    -- An occurrence begins in the first line, or after it.
    rcases List.append_eq_append_iff.mp same with ⟨gap, ends, rest⟩ | ⟨gap, -, rest⟩
    · by_cases empty : gap = []
      · subst empty
        exact later ⟨[], behind, rest⟩
      · exact not_prefix_of_line single nonempty (each line List.mem_cons_self)
          (apart line List.mem_cons_self) ends empty ⟨behind, rest⟩
    · exact later ⟨gap, behind, rest.symm ▸ List.append_assoc _ _ _⟩

/-- A terminated line occurs among lines exactly when one of them ends with it. -/
theorem infix_render_iff {pattern : Text} {lines : List Text} (single : Single pattern)
    (nonempty : pattern ≠ []) (each : ∀ line ∈ lines, Single line) :
    pattern ++ terminator <:+: render lines ↔ ∃ line ∈ lines, pattern <:+ line := by
  constructor
  · intro occurs
    by_contra absent
    exact not_infix_render single nonempty each
      (fun line member ends => absent ⟨line, member, ends⟩) occurs
  · rintro ⟨line, member, start, rfl⟩
    obtain ⟨before, after, rfl⟩ := List.append_of_mem member
    refine ⟨render before ++ start, render after, ?_⟩
    simp [render]

/-- The end of a line is replaced, whatever the line opens with. -/
theorem replaceFirst_ending {pattern start rest : Text} (replacement : Text)
    (single : Single pattern) (whole : Single (start ++ pattern)) :
    replaceFirst (pattern ++ terminator) replacement (start ++ pattern ++ terminator ++ rest) =
      start ++ replacement ++ rest := by
  have absent (before after : Text) (split : start = before ++ after) (present : after ≠ []) :
      ¬pattern ++ terminator <+: after ++ (pattern ++ terminator ++ rest) := by
    rintro ⟨behind, same⟩
    subst split
    have laterFree : '\r' ∉ after ++ pattern := fun member => whole.1 (by
      rw [List.append_assoc]
      exact List.mem_append_right before member)
    have aligned : pattern ++ '\r' :: ('\n' :: behind) =
        (after ++ pattern) ++ '\r' :: ('\n' :: rest) := by
      simpa [terminator] using same
    exact present (List.self_eq_append_left.mp (same_of_separated single.1 laterFree aligned))
  have kept := replaceFirst_append replacement absent
  rw [replaceFirst_of_front] at kept
  simpa only [List.append_assoc] using kept

/-- The replaced occurrence is at the end of the first line that ends with the pattern. -/
theorem replaceFirst_line {pattern start : Text} (replacement : Text) {before after : List Text}
    (single : Single pattern) (nonempty : pattern ≠ [])
    (lines : ∀ line ∈ before, Single line) (whole : Single (start ++ pattern))
    (apart : ∀ line ∈ before, ¬pattern <:+ line) :
    replaceFirst (pattern ++ terminator) replacement (render (before ++ (start ++ pattern) :: after)) =
      render before ++ start ++ replacement ++ render after := by
  induction before with
  | nil =>
    rw [List.nil_append, render_cons, replaceFirst_ending replacement single whole]
    rfl
  | cons line before inductionHypothesis =>
    have here : replaceFirst (pattern ++ terminator) replacement
        (line ++ terminator ++ render (before ++ (start ++ pattern) :: after)) =
          line ++ terminator ++ replaceFirst (pattern ++ terminator) replacement
            (render (before ++ (start ++ pattern) :: after)) :=
      replaceFirst_append replacement (fun lead rest split present =>
        not_prefix_of_line single nonempty (lines line List.mem_cons_self)
          (apart line List.mem_cons_self) split present)
    have later := inductionHypothesis (fun other member => lines other (List.mem_cons_of_mem _ member))
      (fun other member => apart other (List.mem_cons_of_mem _ member))
    rw [later] at here
    rw [List.cons_append, render_cons, render_cons, here]
    simp only [List.append_assoc]

end Kit.Replacing
