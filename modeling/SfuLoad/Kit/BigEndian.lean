import Mathlib.Data.List.Induction
import Mathlib.Tactic.Ring

/-!
# Big-endian bytes of a natural number

A fixed number of bytes carries a natural number with its most significant byte
first. Encoding drops whatever does not fit; decoding never fails. The two
directions are mutually inverse on numbers that fit and on every byte string.
-/

namespace Kit.BigEndian

/-- The lowest `width` bytes of a number, most significant first. -/
def encode : Nat → Nat → List UInt8
  | 0, _ => []
  | width + 1, value => encode width (value / 256) ++ [UInt8.ofNat (value % 256)]

/-- The number whose big-endian digits are the given bytes. -/
def decode (bytes : List UInt8) : Nat :=
  bytes.foldl (fun value byte => value * 256 + byte.toNat) 0

/-- An encoding has as many bytes as were asked for, whatever the value. -/
@[simp] theorem encode_length (width value : Nat) : (encode width value).length = width := by
  induction width generalizing value with
  | zero => rfl
  | succ width inductionHypothesis => simp [encode, inductionHypothesis]

/-- One further byte at the end counts once, all before it 256 times as much. -/
@[simp] theorem decode_append_byte (bytes : List UInt8) (byte : UInt8) :
    decode (bytes ++ [byte]) = decode bytes * 256 + byte.toNat := by
  simp [decode]

/-- Decoding recovers the part of a number that fits its width. -/
theorem decode_encode (width value : Nat) :
    decode (encode width value) = value % 256 ^ width := by
  induction width generalizing value with
  | zero => simp [encode, decode, Nat.mod_one]
  | succ width inductionHypothesis =>
    have digit : (UInt8.ofNat (value % 256)).toNat = value % 256 :=
      UInt8.toNat_ofNat_of_lt' (Nat.mod_lt _ (by decide))
    have split : value % 256 ^ (width + 1) = value / 256 % 256 ^ width * 256 + value % 256 := by
      rw [Nat.pow_succ', Nat.mod_mul]
      ring
    rw [encode, decode_append_byte, inductionHypothesis, digit, split]

/-- A number below the width's range survives the round trip unchanged. -/
theorem decode_encode_of_lt (width value : Nat) (fits : value < 256 ^ width) :
    decode (encode width value) = value := by
  rw [decode_encode, Nat.mod_eq_of_lt fits]

/-- The digits of a decoded byte string are that byte string. The induction
follows the least significant byte, which encoding appends last. -/
theorem encode_decode (bytes : List UInt8) : encode bytes.length (decode bytes) = bytes := by
  induction bytes using List.reverseRecOn with
  | nil => rfl
  | append_singleton bytes byte inductionHypothesis =>
    have bound : byte.toNat < 256 := byte.toNat_lt
    have quotient : (decode bytes * 256 + byte.toNat) / 256 = decode bytes := by omega
    have digit : (decode bytes * 256 + byte.toNat) % 256 = byte.toNat := by omega
    rw [List.length_append, List.length_singleton, encode, decode_append_byte, quotient, digit,
      inductionHypothesis, UInt8.ofNat_toNat]

/-- A decoded byte string stays below its width's range. -/
theorem decode_lt (bytes : List UInt8) : decode bytes < 256 ^ bytes.length := by
  induction bytes using List.reverseRecOn with
  | nil => simp [decode]
  | append_singleton bytes byte inductionHypothesis =>
    have bound : byte.toNat < 256 := byte.toNat_lt
    rw [List.length_append, List.length_singleton, decode_append_byte, Nat.pow_succ]
    omega

end Kit.BigEndian
