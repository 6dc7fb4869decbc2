/-!
# Byte strings

The contents of files, archives and symbol bodies are lists of bytes. This module holds the
operations that every binary format of the library shares: little-endian numbers, slices and the
hexadecimal spelling.
-/

namespace Hotload

/-- The content of a file, of an archive entry or of a symbol. -/
abbrev Bytes := List UInt8

namespace Bytes

/-- The number written by `width` bytes, least significant byte first; higher digits are dropped. -/
def ofLittleEndian : Nat → Nat → Bytes
  | 0, _ => []
  | width + 1, value => UInt8.ofNat value :: ofLittleEndian width (value / 256)

/-- The number that bytes spell, least significant byte first. -/
def littleEndian : Bytes → Nat
  | [] => 0
  | byte :: rest => byte.toNat + 256 * littleEndian rest

/-- The number that bytes spell, most significant byte first. -/
def bigEndian (bytes : Bytes) : Nat :=
  bytes.foldl (fun value byte => 256 * value + byte.toNat) 0

/-- The `count` bytes that start at `offset`, or fewer where the string ends earlier. -/
def slice (bytes : Bytes) (offset count : Nat) : Bytes :=
  (bytes.drop offset).take count

/-- A number occupies exactly the width it is written with. -/
@[simp] theorem length_ofLittleEndian (width value : Nat) :
    (ofLittleEndian width value).length = width := by
  induction width generalizing value <;> simp [ofLittleEndian, *]

/-- A number that fits its width is read back unchanged. -/
theorem littleEndian_ofLittleEndian (width value : Nat) (fits : value < Nat.pow 256 width) :
    littleEndian (ofLittleEndian width value) = value := by
  induction width generalizing value with
  | zero =>
    have zero : value = 0 := Nat.lt_one_iff.1 fits
    simp [zero, ofLittleEndian, littleEndian]
  | succ width shorter =>
    have quotient : value / 256 < Nat.pow 256 width :=
      (Nat.div_lt_iff_lt_mul (by decide : 0 < 256)).2 fits
    simp only [ofLittleEndian, littleEndian, UInt8.toNat_ofNat', shorter _ quotient]
    omega

/-- A slice taken at the end of a first part and as long as the second is the second part. -/
theorem slice_middle (before middle after : Bytes) :
    slice (before ++ middle ++ after) before.length middle.length = middle := by
  simp [slice, List.append_assoc]

/-- One hexadecimal digit, in lower case. -/
def hexDigit (value : Nat) : Char :=
  if value < 10 then Char.ofNat (48 + value) else Char.ofNat (87 + value)

/-- Two lower-case hexadecimal digits per byte. -/
def hex (bytes : Bytes) : String :=
  String.ofList (bytes.flatMap fun byte => [hexDigit (byte.toNat / 16), hexDigit (byte.toNat % 16)])

/-- The value of a hexadecimal digit in either case. -/
def hexValue? (digit : Char) : Option Nat :=
  if '0' ≤ digit ∧ digit ≤ '9' then some (digit.toNat - 48)
  else if 'a' ≤ digit ∧ digit ≤ 'f' then some (digit.toNat - 87)
  else if 'A' ≤ digit ∧ digit ≤ 'F' then some (digit.toNat - 55)
  else none

/-- Reads pairs of hexadecimal digits; a single digit at the end or a foreign character fails. -/
def ofHexDigits? : List Char → Option Bytes
  | [] => some []
  | high :: low :: rest => do
    let upper ← hexValue? high
    let lower ← hexValue? low
    let others ← ofHexDigits? rest
    some (UInt8.ofNat (16 * upper + lower) :: others)
  | [_] => none

/-- Reads the hexadecimal spelling of a byte string. -/
def ofHex? (text : String) : Option Bytes :=
  ofHexDigits? text.toList

end Bytes

end Hotload
