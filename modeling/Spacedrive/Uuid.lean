/-
Module: Spacedrive.Uuid
Purpose: Job, library and location ids as the `uuid` crate stores them (sixteen bytes) and the
  hyphenated lowercase text `Uuid::to_string` prints. The `reports` query keys one `HashMap` both
  by group keys and by `job.id.to_string()`, so whether two distinct jobs can share a key is a
  question about this formatter: `toString_injective` answers it through a decoder that reads
  the text back (`parseHyphenated_toString`).
Trusted boundary: the `Display` format of `uuid::Uuid` (groups of 8-4-4-4-12 lowercase hex digits).
Main exports: Uuid, Uuid.fromSlice, Uuid.toString, Uuid.parseHyphenated_toString,
  Uuid.toString_injective
-/
import Mathlib.Data.List.Basic

namespace Spacedrive

/-- A `uuid::Uuid`: exactly sixteen bytes. -/
structure Uuid where
  bytes : List UInt8
  length_bytes : bytes.length = 16
deriving DecidableEq

namespace Uuid

/-- `Uuid::from_slice`: any slice of sixteen bytes, and nothing else. -/
def fromSlice (bytes : List UInt8) : Option Uuid :=
  if h : bytes.length = 16 then some ⟨bytes, h⟩ else none

/-- The lowercase hex digit of a nibble. -/
def hexDigit (nibble : Nat) : Char :=
  if nibble < 10 then Char.ofNat (nibble + 48) else Char.ofNat (nibble + 87)

/-- The two hex digits of one byte, high nibble first. -/
def byteHex (byte : UInt8) : List Char :=
  [hexDigit (byte.toNat / 16), hexDigit (byte.toNat % 16)]

/-- Hex digits of the bytes, cut into groups of the given sizes by `-`; whatever is left after the
last size forms the final group. -/
def hyphenateGroups : List Nat → List UInt8 → List Char
  | [], bytes => bytes.flatMap byteHex
  | size :: sizes, bytes =>
      (bytes.take size).flatMap byteHex ++ '-' :: hyphenateGroups sizes (bytes.drop size)

/-- `Uuid::to_string`, the hyphenated form `xxxxxxxx-xxxx-xxxx-xxxx-xxxxxxxxxxxx`. -/
def toString (id : Uuid) : String :=
  ⟨hyphenateGroups [4, 2, 2, 2] id.bytes⟩

/-! ### Reading the text back -/

/-- The value of a lowercase hex digit. -/
def hexValue (digit : Char) : Nat :=
  if digit.toNat < 58 then digit.toNat - 48 else digit.toNat - 87

/-- Bytes from consecutive pairs of hex digits. -/
def unhexPairs : List Char → List UInt8
  | high :: low :: rest => UInt8.ofNat (hexValue high * 16 + hexValue low) :: unhexPairs rest
  | _ => []

/-- Decoder for the hyphenated form: drop the separators, then read digit pairs. -/
def parseHyphenated (text : List Char) : List UInt8 :=
  unhexPairs (text.filter (· ≠ '-'))

theorem hexValue_hexDigit : ∀ nibble < 16, hexValue (hexDigit nibble) = nibble := by
  decide

theorem hexDigit_ne_hyphen : ∀ nibble < 16, hexDigit nibble ≠ '-' := by
  decide

theorem high_nibble_lt (byte : UInt8) : byte.toNat / 16 < 16 := by
  have : byte.toNat < 256 := byte.toNat_lt_size
  omega

theorem byteHex_ne_hyphen (byte : UInt8) : ∀ digit ∈ byteHex byte, digit ≠ '-' := by
  have high := high_nibble_lt byte
  have low : byte.toNat % 16 < 16 := Nat.mod_lt _ (by decide)
  simp only [byteHex, List.mem_cons, List.mem_singleton, List.not_mem_nil, or_false]
  rintro digit (rfl | rfl)
  exacts [hexDigit_ne_hyphen _ high, hexDigit_ne_hyphen _ low]

theorem filter_flatMap_byteHex (bytes : List UInt8) :
    (bytes.flatMap byteHex).filter (· ≠ '-') = bytes.flatMap byteHex := by
  refine List.filter_eq_self.mpr fun digit member => ?_
  obtain ⟨byte, -, inByte⟩ := List.mem_flatMap.mp member
  simpa using byteHex_ne_hyphen byte digit inByte

/-- The separators are the only characters the decoder drops. -/
theorem filter_hyphenateGroups (sizes : List Nat) (bytes : List UInt8) :
    (hyphenateGroups sizes bytes).filter (· ≠ '-') = bytes.flatMap byteHex := by
  induction sizes generalizing bytes with
  | nil => exact filter_flatMap_byteHex bytes
  | cons size sizes ih =>
      rw [hyphenateGroups, List.filter_append, List.filter_cons_of_neg (by decide),
        filter_flatMap_byteHex, ih, ← List.flatMap_append, List.take_append_drop]

theorem unhexPairs_flatMap_byteHex (bytes : List UInt8) :
    unhexPairs (bytes.flatMap byteHex) = bytes := by
  induction bytes with
  | nil => rfl
  | cons byte bytes ih =>
      have high := high_nibble_lt byte
      have low : byte.toNat % 16 < 16 := Nat.mod_lt _ (by decide)
      have recombined : UInt8.ofNat (byte.toNat / 16 * 16 + byte.toNat % 16) = byte := by
        rw [Nat.div_add_mod']
        exact UInt8.toNat.inj (UInt8.toNat_ofNat_of_lt byte.toNat_lt_size)
      simp only [List.flatMap_cons, byteHex, List.cons_append, List.nil_append, unhexPairs,
        hexValue_hexDigit _ high, hexValue_hexDigit _ low, recombined]
      exact congrArg _ ih

/-- The decoder inverts `Uuid::to_string`. -/
theorem parseHyphenated_toString (id : Uuid) :
    parseHyphenated id.toString.data = id.bytes := by
  simp only [toString, parseHyphenated, filter_hyphenateGroups, unhexPairs_flatMap_byteHex]

/-- Distinct ids print as distinct strings. -/
theorem toString_injective : Function.Injective toString := by
  intro first second same
  have bytes := parseHyphenated_toString first
  rw [same, parseHyphenated_toString] at bytes
  cases first
  cases second
  cases bytes
  rfl

end Uuid

end Spacedrive
