import Mathlib.Data.List.Basic

/-!
# Lines of text

A text is a list of characters. Lines end at a newline, or at a carriage return
in front of one; the last line may go without. A file written line by line is
read back as the lines that were written.
-/

namespace Kit.Lines

/-- A text, as the list of its characters. -/
abbrev Text := List Char

/-- What holds of all characters of a text is decided along the text. -/
instance (priority := 1100) decidableForallMem (holds : Char → Prop) [DecidablePred holds]
    (text : Text) : Decidable (∀ character ∈ text, holds character) :=
  List.decidableBAll holds text

/-- What holds of the characters that a text is spelled with holds of its characters. -/
theorem forall_mem_spelled {holds : Char → Prop} {characters : Text}
    (each : ∀ character ∈ characters, holds character) :
    ∀ character ∈ (String.ofList characters).toList, holds character := by
  rwa [String.toList_ofList]

/-- The white space of the Unicode standard. -/
def isWhitespace (character : Char) : Bool :=
  let code := character.toNat
  (0x09 ≤ code && code ≤ 0x0d) || code == 0x20 || code == 0x85 || code == 0xa0 || code == 0x1680 ||
    (0x2000 ≤ code && code ≤ 0x200a) || code == 0x2028 || code == 0x2029 || code == 0x202f ||
    code == 0x205f || code == 0x3000

/-- A text without the white space around it. -/
def trim (text : Text) : Text :=
  ((text.dropWhile isWhitespace).reverse.dropWhile isWhitespace).reverse

/-- A terminated line without a carriage return at its end. -/
def stripReturn (line : Text) : Text :=
  if line.getLast? = some '\r' then line.dropLast else line

/-- The lines of a text, the first of which has begun. -/
def linesFrom (begun : Text) : Text → List Text
  | [] => if begun.isEmpty then [] else [begun]
  | character :: rest =>
    if character = '\n' then stripReturn begun :: linesFrom [] rest
    else linesFrom (begun ++ [character]) rest

/-- The lines of a text. -/
def lines (text : Text) : List Text := linesFrom [] text

/-- The text before and after the last occurrence of a character. -/
def rsplitOnce (separator : Char) : Text → Option (Text × Text)
  | [] => none
  | character :: rest =>
    match rsplitOnce separator rest with
    | some (before, after) => some (character :: before, after)
    | none => if character = separator then some ([], rest) else none

/-- A line that holds no newline ends at the next one, together with what was collected for
it before. -/
theorem linesFrom_terminated (begun line rest : Text) (whole : '\n' ∉ line) :
    linesFrom begun (line ++ '\n' :: rest) = stripReturn (begun ++ line) :: linesFrom [] rest := by
  induction line generalizing begun with
  | nil => simp [linesFrom]
  | cons character line inductionHypothesis =>
    have other : character ≠ '\n' := fun same => whole (same ▸ List.mem_cons_self)
    rw [List.cons_append, linesFrom, if_neg other,
      inductionHypothesis _ (fun member => whole (List.mem_cons_of_mem _ member)),
      List.append_assoc, List.singleton_append]

/-- A split text has parts exactly when it is the parts with the separator between them. -/
theorem splitOn_eq_iff {separator : Char} {parts : List Text} (nonempty : parts ≠ [])
    (whole : ∀ part ∈ parts, separator ∉ part) (text : Text) :
    text.splitOn separator = parts ↔ text = [separator].intercalate parts := by
  constructor
  · rintro rfl
    exact (List.intercalate_splitOn separator).symm
  · rintro rfl
    exact List.splitOn_intercalate separator whole nonempty

/-- What stands among joined parts is the separator or stands in a part. -/
theorem mem_intercalate {separator character : Char} {parts : List Text}
    (member : character ∈ [separator].intercalate parts) :
    character = separator ∨ ∃ part ∈ parts, character ∈ part := by
  induction parts with
  | nil => simp at member
  | cons part rest inductionHypothesis =>
    cases rest with
    | nil => exact Or.inr ⟨part, by simp, by simpa using member⟩
    | cons next rest =>
      rw [List.intercalate_cons_cons, List.append_assoc, List.mem_append] at member
      rcases member with here | behind
      · exact Or.inr ⟨part, by simp, here⟩
      · rcases List.mem_cons.mp behind with between | later
        · exact Or.inl between
        · rcases inductionHypothesis later with between | ⟨other, among, there⟩
          · exact Or.inl between
          · exact Or.inr ⟨other, List.mem_cons_of_mem _ among, there⟩

/-- The first part of a split text is what stands before the first separator. -/
theorem exists_splitOn_eq (separator : Char) (text : Text) :
    ∃ parts, text.splitOn separator =
      text.takeWhile (fun character => character ≠ separator) :: parts := by
  induction text with
  | nil => exact ⟨[], rfl⟩
  | cons character rest inductionHypothesis =>
    obtain ⟨parts, split⟩ := inductionHypothesis
    rw [List.splitOn_cons_eq_if_modifyHead, split]
    by_cases separates : character = separator
    · rw [if_pos (beq_iff_eq.mpr separates), List.takeWhile_cons_of_neg (by simpa using separates)]
      exact ⟨_, rfl⟩
    · rw [if_neg (by simpa using separates), List.takeWhile_cons_of_pos (by simpa using separates)]
      exact ⟨parts, rfl⟩

/-- Text that opens with `{` and closes with `}`, without a line break. -/
structure Braced (line : Text) : Prop where
  whole : '\n' ∉ line
  braces : ∃ inner, line = '{' :: inner ++ ['}']

/-- A line that ends in a brace ends in no carriage return. -/
theorem Braced.stripReturn {line : Text} (braced : Braced line) : stripReturn line = line := by
  obtain ⟨inner, rfl⟩ := braced.braces
  rw [Lines.stripReturn, List.getLast?_append]
  simp

/-- A line between braces has no white space at its ends. -/
theorem Braced.trim {line : Text} (braced : Braced line) : trim line = line := by
  obtain ⟨inner, rfl⟩ := braced.braces
  have opening : isWhitespace '{' = false := by decide
  have closing : isWhitespace '}' = false := by decide
  simp [Lines.trim, opening, closing]

/-- Lines that were written one by one are read back. -/
theorem lines_of_written (written : List Text) (braced : ∀ line ∈ written, Braced line) :
    lines (written.flatMap (fun line => line ++ ['\n'])) = written := by
  induction written with
  | nil => rfl
  | cons line rest inductionHypothesis =>
    have first := braced line List.mem_cons_self
    have later := inductionHypothesis (fun other member =>
      braced other (List.mem_cons_of_mem _ member))
    rw [List.flatMap_cons, List.append_assoc, List.singleton_append, lines,
      linesFrom_terminated _ _ _ first.whole, List.nil_append, first.stripReturn]
    exact congrArg (line :: ·) later

end Kit.Lines
