import SfuLoad.Report.Arithmetic
import Mathlib.Data.List.Basic

/-!
# Numbers and texts in the cells of a report

Numbers are grouped, scaled to a unit or split into a whole and a decimal part.
Every one of these computations returns. Text from outside is escaped before it
becomes a cell.
-/

namespace SfuLoad.Report

open Kit.Checked Model
open Kit.Fallible (ok_bind)

/-- The characters a table cell may not contain, and what stands for them. The
character with code 96 is the one that opens code. -/
def tableEscapes : List (Char × String) :=
  [('&', "&amp;"), ('<', "&lt;"), ('>', "&gt;"), ('|', "&#124;"), ('\\', "&#92;"),
    ('[', "&#91;"), (']', "&#93;"), ('(', "&#40;"), (')', "&#41;"), ('!', "&#33;"),
    ('*', "&#42;"), ('_', "&#95;"), (Char.ofNat 96, "&#96;"), ('~', "&#126;"),
    ('\r', " "), ('\n', " ")]

/-- What stands for a character in a cell: an entity, a space or itself. -/
def escapeCharacter (character : Char) : String :=
  (tableEscapes.lookup character).getD (toString character)

/-- A text as it may stand in a cell. -/
def escapeTable (value : String) : String :=
  String.join (value.toList.map escapeCharacter)

/-- Whether something was observed. -/
def observed (value : Bool) : String :=
  if value then "yes" else "no"

/-- Whether the packets were sent in time. -/
def pacingLabel (result : ScenarioResult) : String :=
  if pacingValid result then "valid" else "INVALID"

/-- The publishers of a room, by what they send. -/
def publisherLabel (spec : ScenarioSpec) : String :=
  let audio := spec.audioPublishersPerRoom
  let video := spec.videoPublishersPerRoom
  if video = 0 then s!"{audio} audio"
  else if audio = 0 then s!"{video} video"
  else s!"{audio} audio / {video} video"

/-- The short label of a scenario on an axis. -/
def chartLabel : ScenarioSpec → String
  | .smoke receivers packets => s!"S {receivers}r/{packets}p"
  | .audioMesh rooms peers seconds => s!"A {rooms}x{peers}/{seconds}s"
  | .videoGallery rooms peers publishers seconds =>
      s!"V {rooms}x{peers}/{publishers}p/{seconds}s"
  | .mixedConference rooms peers audioPublishers videoPublishers seconds =>
      s!"M {rooms}x{peers}/{audioPublishers}a/{videoPublishers}v/{seconds}s"

section Numbers

variable (mode : Mode)

/-- Does a comma stand before the digit at an index? -/
def separated (length index : Nat) : Machine Bool :=
  if 0 < index then return (← sub mode usize length index) % 3 = 0 else return false

/-- The digits from an index on, with a comma before each group of three. -/
def groupedFrom (length : Nat) : Nat → List Char → Machine (List Char)
  | _, [] => return []
  | index, digit :: rest => do
      let separated ← separated mode length index
      let grouped ← groupedFrom length (index + 1) rest
      return if separated then ',' :: digit :: grouped else digit :: grouped

/-- A number in groups of three digits. -/
def grouped (value : UInt64) : Machine String := do
  let digits := (toString value).toList
  let _ ← add mode usize digits.length (digits.length / 3)
  return String.ofList (← groupedFrom mode digits.length 0 digits)

/-- A quotient rounded to the nearest number. -/
def roundedDiv (value divisor : UInt64) : Machine UInt64 := do
  let half ← div divisor.toNat 2
  return clamped (← div (← add mode u128 value.toNat half) divisor.toNat)

/-- A number with zeros in front, up to a width. -/
def zeroPadded (width number : Nat) : String :=
  String.ofList ((toString number).toList.leftpad width '0')

/-- Thousandths of a percent. -/
def formatCpuPercent (value : UInt64) : Machine String := do
  let whole ← div value.toNat 1000
  let milli ← rem value.toNat 1000
  return s!"{whole}.{zeroPadded 3 milli}%"

/-- Tenths as a decimal. -/
def formatTenths (tenths : Nat) : Machine String := do
  let whole ← div tenths 10
  let tenth ← rem tenths 10
  return s!"{whole}.{tenth}"

/-- Bytes in mebibytes with one digit. -/
def formatMebibytes (value : UInt64) : Machine String := do
  let tenths ← div (← mul mode u128 value.toNat 10) (1024 * 1024)
  return s!"{← formatTenths tenths} MiB"

/-- Milliseconds. -/
def formatMilliseconds (value : UInt64) : Machine String :=
  return s!"{← grouped mode value} ms"

/-- Deliveries of a second of CPU time. -/
def formatDeliveryEfficiency (value : UInt64) : Machine String :=
  return s!"{← grouped mode value} deliveries/CPU-s"

/-- A rate of packets. -/
def formatPacketsPerSecond (value : UInt64) : Machine String :=
  return s!"{← grouped mode value} packets/s"

/-- A rate in some unit with one digit. -/
def formatDecimalRate (value unit : UInt64) (suffix : String) : Machine String := do
  let tenths ← div (← mul mode u128 value.toNat 10) unit.toNat
  return s!"{← formatTenths tenths} {suffix}"

/-- A rate of bits in the unit that suits it. -/
def formatBitsPerSecond (value : UInt64) : Machine String :=
  if 1000000000 ≤ value then formatDecimalRate mode value 1000000000 "Gbit/s"
  else if 1000000 ≤ value then formatDecimalRate mode value 1000000 "Mbit/s"
  else if 1000 ≤ value then formatDecimalRate mode value 1000 "kbit/s"
  else return s!"{← grouped mode value} bit/s"

/-- A value that may be missing. -/
def formatOptional (value : Option UInt64) (format : UInt64 → Machine String) : Machine String :=
  match value with
  | none => return "n/a"
  | some value => format value

/-- The delay of the packet loop, and the samples in which it did not answer. -/
def formatPacketLoopHealth (summary : TelemetrySummary) : Machine String := do
  let numeric ← formatOptional summary.packetLoopDelayMs (formatMilliseconds mode)
  if summary.packetLoopUnresponsiveSamples = 0 then return numeric
  else
    let unit := if summary.packetLoopUnresponsiveSamples = 1 then "sample" else "samples"
    return s!"UNRESPONSIVE ({summary.packetLoopUnresponsiveSamples} {unit}, numeric max {numeric})"

end Numbers

section Completion

variable {mode : Mode}

/-- A digit's place is counted from the end without going below zero. -/
theorem separated_completes {length index : Nat} (inside : index ≤ length) :
    Completes (separated mode length index) := by
  unfold separated
  split
  · rw [sub_of_le inside, ok_bind]
    exact completes_pure _
  · exact completes_pure _

/-- So grouping returns; the induction is over the digits left. -/
theorem groupedFrom_completes {length index : Nat} {digits : List Char}
    (inside : index + digits.length ≤ length) :
    Completes (groupedFrom mode length index digits) := by
  induction digits generalizing index with
  | nil => exact completes_pure _
  | cons digit rest hypothesis =>
    rw [List.length_cons] at inside
    rw [groupedFrom]
    refine (separated_completes (by omega)).bind (fun _ _ => ?_)
    exact (hypothesis (by omega)).bind (fun _ _ => completes_pure _)

/-- A 64-bit number has at most twenty digits. -/
theorem length_digits_le (value : UInt64) : (toString value).toList.length ≤ 20 := by
  have short : value.toNat < 10 ^ 20 := by
    have bound := value.toNat_lt
    omega
  exact (Nat.length_repr_le_iff (by decide)).mpr short

/-- Every number can be grouped. -/
@[simp] theorem grouped_completes (value : UInt64) : Completes (grouped mode value) := by
  have few := length_digits_le value
  rw [grouped, add_of_lt (by rw [usize]; omega), ok_bind]
  exact (groupedFrom_completes (by omega)).bind (fun _ _ => completes_pure _)

/-- A rounded quotient adds half of its divisor in 128 bits, where it fits. -/
theorem roundedDiv_completes {divisor : UInt64} (present : divisor ≠ 0) (value : UInt64) :
    Completes (roundedDiv mode value divisor) := by
  have bound := value.toNat_lt
  have divisorBound := divisor.toNat_lt
  have positive : divisor.toNat ≠ 0 := fun none => present (UInt64.toNat_inj.mp none)
  have fits : value.toNat + divisor.toNat / 2 < u128 := by
    rw [u128]
    omega
  rw [roundedDiv, div_of_ne (by decide), ok_bind, add_of_lt fits, ok_bind, div_of_ne positive]
  exact completes_ok _

/-- A percentage is formatted: both divisors are a constant other than zero. -/
@[simp] theorem formatCpuPercent_completes (value : UInt64) :
    Completes (formatCpuPercent value) := by
  rw [formatCpuPercent, div_of_ne (by decide), ok_bind, rem_of_ne (by decide)]
  exact completes_ok _

/-- Tenths are formatted, for the same reason. -/
@[simp] theorem formatTenths_completes (tenths : Nat) : Completes (formatTenths tenths) := by
  rw [formatTenths, div_of_ne (by decide), ok_bind, rem_of_ne (by decide)]
  exact completes_ok _

/-- Mebibytes are: ten times a word fits 128 bits. -/
@[simp] theorem formatMebibytes_completes (value : UInt64) :
    Completes (formatMebibytes mode value) := by
  rw [formatMebibytes, mul_words value.toNat_lt (by decide), ok_bind, div_of_ne (by decide),
    ok_bind]
  exact (formatTenths_completes _).bind (fun _ _ => completes_pure _)

/-- Milliseconds are formatted by grouping. -/
@[simp] theorem formatMilliseconds_completes (value : UInt64) :
    Completes (formatMilliseconds mode value) :=
  (grouped_completes value).bind (fun _ _ => completes_pure _)

/-- So is an efficiency. -/
@[simp] theorem formatDeliveryEfficiency_completes (value : UInt64) :
    Completes (formatDeliveryEfficiency mode value) :=
  (grouped_completes value).bind (fun _ _ => completes_pure _)

/-- So is a rate of packets. -/
@[simp] theorem formatPacketsPerSecond_completes (value : UInt64) :
    Completes (formatPacketsPerSecond mode value) :=
  (grouped_completes value).bind (fun _ _ => completes_pure _)

/-- A rate is formatted in any unit that is not zero. -/
theorem formatDecimalRate_completes {unit : UInt64} (present : unit.toNat ≠ 0) (value : UInt64)
    (suffix : String) : Completes (formatDecimalRate mode value unit suffix) := by
  rw [formatDecimalRate, mul_words value.toNat_lt (by decide), ok_bind, div_of_ne present,
    ok_bind]
  exact (formatTenths_completes _).bind (fun _ _ => completes_pure _)

/-- A rate of bits is, since none of its units is zero. -/
@[simp] theorem formatBitsPerSecond_completes (value : UInt64) :
    Completes (formatBitsPerSecond mode value) := by
  unfold formatBitsPerSecond
  split
  · exact formatDecimalRate_completes (by decide) value _
  · split
    · exact formatDecimalRate_completes (by decide) value _
    · split
      · exact formatDecimalRate_completes (by decide) value _
      · exact (grouped_completes value).bind (fun _ _ => completes_pure _)

/-- A value that may be missing is formatted if it is when there. -/
@[simp] theorem formatOptional_completes {value : Option UInt64}
    {format : UInt64 → Machine String} (formats : ∀ value, Completes (format value)) :
    Completes (formatOptional value format) := by
  cases value with
  | none => exact completes_pure _
  | some value => exact formats value

/-- So the health of the packet loop is. -/
@[simp] theorem formatPacketLoopHealth_completes (summary : TelemetrySummary) :
    Completes (formatPacketLoopHealth mode summary) := by
  refine Completes.bind (formatOptional_completes formatMilliseconds_completes) (fun _ _ => ?_)
  split
  · exact completes_pure _
  · exact completes_pure _

end Completion

end SfuLoad.Report
