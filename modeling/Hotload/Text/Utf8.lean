import Hotload.Bytes

/-!
# UTF-8

Text becomes bytes and bytes become text. Reading is either strict, where a malformed sequence
refuses the whole string, or lossy, where each maximal malformed part becomes one replacement
character.
-/

namespace Hotload.Text

/-- The UTF-8 encoding of a text. -/
def utf8 (text : String) : Bytes :=
  text.toUTF8.data.toList

/-- The character that stands for a malformed part. -/
def replacement : Char := Char.ofNat 0xFFFD

/-- A byte that continues a sequence. -/
def isTail (byte : UInt8) : Bool :=
  0x80 ≤ byte && byte ≤ 0xBF

/-- The second bytes that may follow a leading byte of a longer sequence, and how many bytes follow
the leading one in all. -/
def tailRange? (lead : UInt8) : Option (UInt8 × UInt8 × Nat) :=
  if 0xC2 ≤ lead && lead ≤ 0xDF then some (0x80, 0xBF, 1)
  else if lead == 0xE0 then some (0xA0, 0xBF, 2)
  else if lead == 0xED then some (0x80, 0x9F, 2)
  else if 0xE1 ≤ lead && lead ≤ 0xEF then some (0x80, 0xBF, 2)
  else if lead == 0xF0 then some (0x90, 0xBF, 3)
  else if 0xF1 ≤ lead && lead ≤ 0xF3 then some (0x80, 0xBF, 3)
  else if lead == 0xF4 then some (0x80, 0x8F, 3)
  else none

/-- The code point bits that a leading byte contributes when `tails` bytes follow it. -/
def leadBits (lead : UInt8) : Nat → Nat
  | 1 => lead.toNat % 32
  | 2 => lead.toNat % 16
  | _ => lead.toNat % 8

/-- Reads up to `tails` continuation bytes. The result is the code point when all are there, and the
number of bytes that belong to the sequence so far. -/
def takeTails : Nat → Nat → Nat → Bytes → Option Nat × Nat
  | 0, taken, value, _ => (some value, taken)
  | tails + 1, taken, value, byte :: rest =>
    if isTail byte then takeTails tails (taken + 1) (64 * value + byte.toNat % 64) rest
    else (none, taken)
  | _ + 1, taken, _, [] => (none, taken)

/-- The first character of a byte string, or nothing where it is malformed, and the number of bytes
it takes. -/
def firstChar (lead : UInt8) (rest : Bytes) : Option Char × Nat :=
  if lead < 0x80 then (some (Char.ofNat lead.toNat), 1)
  else
    match tailRange? lead, rest with
    | some (low, high, tails), second :: others =>
      if low ≤ second && second ≤ high then
        match takeTails (tails - 1) 2 (64 * leadBits lead tails + second.toNat % 64) others with
        | (some value, taken) => (some (Char.ofNat value), taken)
        | (none, taken) => (none, taken)
      else (none, 1)
    | _, _ => (none, 1)

/-- Splits a byte string into its characters; nothing stands for a malformed part. The fuel is the
number of bytes, and every step consumes at least one. -/
def decodeParts : Nat → Bytes → List (Option Char)
  | fuel + 1, lead :: rest =>
    let (first, taken) := firstChar lead rest
    first :: decodeParts fuel (rest.drop (taken - 1))
  | _, _ => []

/-- The characters of a text, read off its encoding. The recursion is over the bytes themselves, so
that the parts of a given path are found by evaluation; `String.toList` goes by byte positions,
which evaluate far slower. -/
def chars (text : String) : List Char :=
  (decodeParts (utf8 text).length (utf8 text)).map (·.getD replacement)

/-- Reads text and writes the replacement character for each malformed part. -/
def ofUtf8Lossy (bytes : Bytes) : String :=
  String.ofList ((decodeParts bytes.length bytes).map (·.getD replacement))

/-- Reads text; a malformed part anywhere refuses it. -/
def ofUtf8? (bytes : Bytes) : Option String :=
  ((decodeParts bytes.length bytes).mapM id).map String.ofList

/-- The lines of a text. A line ends at a line feed, a carriage return before it is dropped, and an
empty part after the last line feed is no line. -/
def lines (text : String) : List String :=
  let parts := text.toList.splitOn '\n'
  let kept := if parts.getLast? = some [] then parts.dropLast else parts
  kept.map fun line =>
    String.ofList (if line.getLast? = some '\r' then line.dropLast else line)

end Hotload.Text
