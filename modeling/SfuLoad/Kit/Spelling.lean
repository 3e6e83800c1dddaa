import SfuLoad.Kit.Lines

/-!
# Numbers in a text

Decimal numbers, each with a separator behind it, are put end to end. A separator
that does not open with a digit tells where the number before it ends, so that the
text is of one row of numbers only.
-/

namespace Kit.Spelling

open Kit.Lines

/-- The decimal digits of a number, without zeros in front. -/
abbrev decimal (number : Nat) : Text := Nat.toDigits 10 number

/-- Numbers with a separator behind each. -/
def spelled (fields : List (Nat × Text)) : Text :=
  fields.flatMap (fun field => decimal field.1 ++ field.2)

/-- A text opens with a character that is no digit. -/
def Separates (separator : Text) : Prop :=
  ∃ character rest, separator = character :: rest ∧ character.isDigit = false

/-- A text behind a separator changes nothing about how the separator opens. -/
theorem Separates.append {separator : Text} (separates : Separates separator) (after : Text) :
    Separates (separator ++ after) := by
  obtain ⟨character, rest, rfl, plain⟩ := separates
  exact ⟨character, rest ++ after, rfl, plain⟩

/-- A number is known from its digits. -/
theorem decimal_injective {left right : Nat} (same : decimal left = decimal right) :
    left = right := by
  have read := congrArg (fun digits => Nat.ofDigitChars 10 digits 0) same
  simpa only [Nat.ofDigitChars_ten_toDigits] using read

/-- What follows a number tells where it ends. -/
theorem decimal_takeWhile (number : Nat) {after : Text} (separates : Separates after) :
    (decimal number ++ after).takeWhile Char.isDigit = decimal number := by
  obtain ⟨character, rest, rfl, plain⟩ := separates
  have digits (digit : Char) (member : digit ∈ decimal number) : digit.isDigit = true :=
    Nat.isDigit_of_mem_toDigits (by decide) (by decide) member
  rw [List.takeWhile_append_of_pos digits, List.takeWhile_cons, plain]
  simp

/-- A number and what follows it are known from their text: the separators tell where the
digits end. -/
theorem decimal_append_inj {left right : Nat} {after after' : Text} (separates : Separates after)
    (separates' : Separates after') (same : decimal left ++ after = decimal right ++ after') :
    left = right ∧ after = after' := by
  have digits : decimal left = decimal right := by
    rw [← decimal_takeWhile left separates, same, decimal_takeWhile right separates']
  rw [digits] at same
  exact ⟨decimal_injective digits, List.append_cancel_left same⟩

/-- Rows of numbers with the same separators that are spelled alike are the same. -/
theorem spelled_injective {fields fields' : List (Nat × Text)}
    (separated : ∀ field ∈ fields, Separates field.2)
    (separators : fields.map Prod.snd = fields'.map Prod.snd)
    (same : spelled fields = spelled fields') : fields = fields' := by
  induction fields generalizing fields' with
  | nil => exact (List.map_eq_nil_iff.mp separators.symm).symm
  | cons field rest inductionHypothesis =>
    obtain ⟨field', rest', rfl, separator, separators⟩ := List.map_eq_cons_iff.mp separators.symm
    have separates := separated field List.mem_cons_self
    simp only [spelled, List.flatMap_cons, List.append_assoc, separator] at same
    obtain ⟨number, behind⟩ :=
      decimal_append_inj (separates.append _) (separates.append _) same
    have later := inductionHypothesis (fun other member =>
      separated other (List.mem_cons_of_mem _ member)) separators.symm
      (List.append_cancel_left behind)
    rw [later, Prod.ext number separator.symm]

end Kit.Spelling
