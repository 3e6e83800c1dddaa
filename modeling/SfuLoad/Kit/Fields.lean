import SfuLoad.Kit.Lines

/-!
# Fields of a text

A pattern is searched for from the end of a text, and a text is split at white
space. What follows an occurrence of a pattern tells whether it is the last one;
tokens without white space are found again when they are written with a space
between them.
-/

namespace Kit.Fields

open Kit.Lines

/-- Where a pattern occurs last. -/
def rfind (pattern : Text) : Text → Option Nat
  | [] => if pattern.isEmpty then some 0 else none
  | character :: rest =>
    match rfind pattern rest with
    | some index => some (index + 1)
    | none => if pattern.isPrefixOf (character :: rest) then some 0 else none

/-- The characters that separate fields. -/
def isAsciiWhitespace (character : Char) : Bool :=
  [' ', '\t', '\n', '\x0c', '\r'].contains character

/-- The fields of a text, the first of which has begun. -/
def fieldsFrom (begun : Text) : Text → List Text
  | [] => if begun.isEmpty then [] else [begun]
  | character :: rest =>
    if isAsciiWhitespace character then
      if begun.isEmpty then fieldsFrom [] rest else begun :: fieldsFrom [] rest
    else fieldsFrom (begun ++ [character]) rest

/-- The fields of a text, none of them empty. -/
def splitAsciiWhitespace (text : Text) : List Text := fieldsFrom [] text

/-- Tokens with a space between them. -/
def spaced : List Text → Text
  | [] => []
  | [token] => token
  | token :: next :: rest => token ++ ' ' :: spaced (next :: rest)

section Search

variable {first second : Char} {text : Text}

/-- A pattern whose first character does not occur, does not occur. -/
theorem rfind_none (absent : first ∉ text) : rfind [first, second] text = none := by
  induction text with
  | nil => rfl
  | cons character rest inductionHypothesis =>
    have different := List.ne_of_not_mem_cons absent
    rw [rfind, inductionHypothesis (List.not_mem_of_not_mem_cons absent)]
    simp [List.isPrefixOf, different]

/-- The last occurrence is found at its own place whatever stands before it. -/
theorem rfind_append {pattern after : Text} {index : Nat} (found : rfind pattern after = some index)
    (before : Text) : rfind pattern (before ++ after) = some (before.length + index) := by
  induction before with
  | nil => simpa using found
  | cons character rest inductionHypothesis =>
    rw [List.cons_append, rfind, inductionHypothesis]
    simp only [List.length_cons, Option.some.injEq]
    omega

/-- An occurrence with nothing of the pattern behind it is the last. -/
theorem rfind_last {after : Text} (different : first ≠ second) (absent : first ∉ after)
    (before : Text) :
    rfind [first, second] (before ++ first :: second :: after) = some before.length := by
  have behind : rfind [first, second] (second :: after) = none :=
    rfind_none (by simp [different, absent])
  have here : rfind [first, second] (first :: second :: after) = some 0 := by
    rw [rfind, behind]
    simp [List.isPrefixOf]
  exact rfind_append here before

end Search

/-- A token that splitting at white space finds again. -/
structure IsToken (token : Text) : Prop where
  nonempty : token ≠ []
  whole : ∀ character ∈ token, isAsciiWhitespace character = false

/-- The characters of a token are collected without being split. -/
theorem fieldsFrom_token {begun token : Text}
    (whole : ∀ character ∈ token, isAsciiWhitespace character = false) (rest : Text) :
    fieldsFrom begun (token ++ rest) = fieldsFrom (begun ++ token) rest := by
  induction token generalizing begun with
  | nil => simp
  | cons character token inductionHypothesis =>
    obtain ⟨here, later⟩ := List.forall_mem_cons.mp whole
    rw [List.cons_append, fieldsFrom, here, if_neg (by simp), inductionHypothesis later,
      List.append_assoc, List.singleton_append]

/-- Tokens written with spaces are found again. -/
theorem splitAsciiWhitespace_spaced {tokens : List Text}
    (plain : ∀ token ∈ tokens, IsToken token) :
    splitAsciiWhitespace (spaced tokens) = tokens := by
  induction tokens with
  | nil => rfl
  | cons token rest inductionHypothesis =>
    obtain ⟨⟨nonempty, whole⟩, later⟩ := List.forall_mem_cons.mp plain
    have begun : token.isEmpty = false := by simpa using nonempty
    have found := inductionHypothesis later
    cases rest with
    | nil =>
      have read := @fieldsFrom_token [] token whole []
      rw [List.append_nil, List.nil_append] at read
      rw [spaced, splitAsciiWhitespace, read, fieldsFrom, begun]
      rfl
    | cons next others =>
      have blank : isAsciiWhitespace ' ' = true := rfl
      rw [spaced, splitAsciiWhitespace, fieldsFrom_token whole, List.nil_append, fieldsFrom, blank,
        if_pos rfl, begun]
      exact congrArg (token :: ·) found

/-- Nothing occurs among spaced tokens but what occurs in one, and spaces. -/
theorem not_mem_spaced {tokens : List Text} {character : Char}
    (absent : ∀ token ∈ tokens, character ∉ token) (notSpace : character ≠ ' ') :
    character ∉ spaced tokens := by
  induction tokens with
  | nil => simp [spaced]
  | cons token rest inductionHypothesis =>
    obtain ⟨here, later⟩ := List.forall_mem_cons.mp absent
    have behind := inductionHypothesis later
    cases rest with
    | nil => exact here
    | cons next others => simp [spaced, here, notSpace, behind]

end Kit.Fields
