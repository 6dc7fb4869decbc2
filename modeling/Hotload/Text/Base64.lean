import Hotload.Bytes

/-!
# Base64

The standard alphabet with padding. Three bytes become four characters; a remainder of one or two
bytes is padded with equals signs.
-/

namespace Hotload.Text.Base64

/-- The character for a value below sixty-four. -/
def symbol (value : Nat) : Char :=
  if value < 26 then Char.ofNat (65 + value)
  else if value < 52 then Char.ofNat (71 + value)
  else if value < 62 then Char.ofNat (value - 4)
  else if value == 62 then '+' else '/'

/-- The value of a character of the alphabet. -/
def value? (symbol : Char) : Option Nat :=
  if 'A' ≤ symbol ∧ symbol ≤ 'Z' then some (symbol.toNat - 65)
  else if 'a' ≤ symbol ∧ symbol ≤ 'z' then some (symbol.toNat - 71)
  else if '0' ≤ symbol ∧ symbol ≤ '9' then some (symbol.toNat + 4)
  else if symbol = '+' then some 62
  else if symbol = '/' then some 63
  else none

/-- The characters that spell a byte string. -/
def encode : Bytes → List Char
  | a :: b :: c :: rest =>
    let group := (a.toNat * 256 + b.toNat) * 256 + c.toNat
    symbol (group / 262144) :: symbol (group / 4096 % 64) :: symbol (group / 64 % 64)
      :: symbol (group % 64) :: encode rest
  | [a, b] =>
    let group := (a.toNat * 256 + b.toNat) * 4
    [symbol (group / 4096), symbol (group / 64 % 64), symbol (group % 64), '=']
  | [a] =>
    let group := a.toNat * 16
    [symbol (group / 64), symbol (group % 64), '=', '=']
  | [] => []

/-- Reads the spelling back; only whole groups with canonical padding are accepted. -/
def decode? : List Char → Option Bytes
  | [] => some []
  | [a, b, '=', '='] => do
    let first ← value? a
    let second ← value? b
    if second % 16 = 0 then some [UInt8.ofNat (first * 4 + second / 16)] else none
  | [a, b, c, '='] => do
    let first ← value? a
    let second ← value? b
    let third ← value? c
    if third % 4 = 0 then
      some [UInt8.ofNat (first * 4 + second / 16), UInt8.ofNat (second % 16 * 16 + third / 4)]
    else none
  | a :: b :: c :: d :: rest => do
    let first ← value? a
    let second ← value? b
    let third ← value? c
    let fourth ← value? d
    let others ← decode? rest
    some (UInt8.ofNat (first * 4 + second / 16) :: UInt8.ofNat (second % 16 * 16 + third / 4)
      :: UInt8.ofNat (third % 4 * 64 + fourth) :: others)
  | _ => none

/-- Cuts a list into parts of `size` elements; the last part may be shorter. The fuel is the number
of elements. -/
def chunksFrom {α : Type} (size : Nat) : Nat → List α → List (List α)
  | 0, _ => []
  | _, [] => []
  | fuel + 1, first :: rest =>
    ((first :: rest).take size) :: chunksFrom size fuel ((first :: rest).drop size)

/-- Cuts a list into parts of `size` elements, in order. -/
def chunks {α : Type} (size : Nat) (elements : List α) : List (List α) :=
  chunksFrom size elements.length elements

end Hotload.Text.Base64
