import Hotload.Deflate.Bits

/-!
# Canonical codes

A code is given by the length of each symbol's code word. Words of one length are consecutive
numbers in the order of their symbols, and shorter words come before longer ones, so knowing the
symbols of each length is enough to decode.
-/

namespace Hotload.Deflate

/-- A canonical code: for each length, from one bit up to the longest in use, the symbols with words
of that length, in order. -/
structure Code where
  byLength : List (Array Nat)

/-- The longest length that a word may have. -/
def longest : Nat := 15

/-- Drops the empty groups at the end. -/
def dropUnused (groups : List (Array Nat)) : List (Array Nat) :=
  (groups.reverse.dropWhile (·.isEmpty)).reverse

/-- Groups the symbols by the length of their words; length zero means that a symbol has none. -/
def Code.ofLengths (lengths : List Nat) : Code :=
  let empty : Array (Array Nat) := Array.replicate longest #[]
  let groups := lengths.zipIdx.foldl
    (fun groups (length, symbol) =>
      if length = 0 then groups else groups.modify (length - 1) (·.push symbol)) empty
  ⟨dropUnused groups.toList⟩

/-- How much of the space of words remains free, counted in words of the longest length in use; a
negative number means that the words do not fit. -/
def Code.slack (code : Code) : Int :=
  code.byLength.foldl (fun left group => 2 * left - group.size) (1 : Int)

/-- Whether no symbol has a word. -/
def Code.isEmpty (code : Code) : Bool :=
  code.byLength.isEmpty

/-- Whether no word is longer than one bit. -/
def Code.isShort (code : Code) : Bool :=
  code.byLength.length ≤ 1

/-- Reads one word. `word` holds the bits read so far, and `first` the first word of the length that
is tried next. -/
def Code.readFrom (input : Array UInt8) : List (Array Nat) → Nat → Nat → Nat → Read Nat
  | [], _, _, _ => .malformed
  | group :: longer, word, first, position =>
    (bit input position).andThen fun next position =>
      let word := 2 * word + next
      if word < first + group.size then .value (group.getD (word - first) 0) position
      else Code.readFrom input longer word (2 * (first + group.size)) position

/-- Reads one word and yields its symbol. -/
def Code.read (code : Code) (input : Array UInt8) (position : Nat) : Read Nat :=
  Code.readFrom input code.byLength 0 0 position

end Hotload.Deflate
