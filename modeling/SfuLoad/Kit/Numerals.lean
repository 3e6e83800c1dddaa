import SfuLoad.Kit.Lines
import Mathlib.Algebra.Ring.Int.Defs
import Mathlib.Algebra.Ring.Nat

/-!
# Decimal numbers in text

A number is a sign, where its type has one, and at least one decimal digit; it has
to be in the range of its type. A plus sign is accepted by every type.
-/

namespace Kit.Numerals

open Kit.Lines

/-- The value of a decimal digit. -/
def digitValue (character : Char) : Option Nat :=
  if '0' ≤ character ∧ character ≤ '9' then some (character.toNat - '0'.toNat) else none

/-- The number that digits write, of which there is at least one. -/
def readDigits (text : Text) : Option Nat :=
  if text.isEmpty then none
  else text.foldlM (fun number character =>
    (digitValue character).map (fun digit => number * 10 + digit)) 0

/-- A text without a plus sign in front. -/
def unsignedPart (text : Text) : Text := if text.head? = some '+' then text.tail else text

/-- An unsigned number, unless it is too large for its type. -/
def parseU64 (text : Text) : Option UInt64 :=
  ((readDigits (unsignedPart text)).filter (fun number => number < 2 ^ 64)).map UInt64.ofNat

/-- A number with its sign, of any size. -/
def readSigned (text : Text) : Option Int :=
  if text.head? = some '-' then (readDigits text.tail).map (fun number => -Int.ofNat number)
  else (readDigits (unsignedPart text)).map Int.ofNat

/-- A signed number, unless it is out of the range of its type. -/
def parseI64 (text : Text) : Option Int :=
  (readSigned text).filter (fun number => -2 ^ 63 ≤ number ∧ number < 2 ^ 63)

/-- What was parsed is in the range of its type. -/
theorem parseI64_range {text : Text} {number : Int} (parsed : parseI64 text = some number) :
    -2 ^ 63 ≤ number ∧ number < 2 ^ 63 := by
  have inside := (Option.filter_eq_some_iff.mp parsed).2
  simpa only [decide_eq_true_eq] using inside

end Kit.Numerals
