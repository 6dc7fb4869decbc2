import Hotload.Bytes

/-!
# Reading bits

A compressed stream is read bit by bit, the least significant bit of each byte first. A read yields
a value and the position after it, or the stream ends too early, or what was read cannot be part of
a valid stream.
-/

namespace Hotload.Deflate

/-- What a read from a bit position yields. -/
inductive Read (α : Type) where
  | value (result : α) (position : Nat)
  /-- The stream ended before the value was complete. -/
  | starved
  /-- The bits are there, but no valid stream has them. -/
  | malformed

/-- Continues a successful read from where it stopped. -/
def Read.andThen {α β : Type} (read : Read α) (next : α → Nat → Read β) : Read β :=
  match read with
  | .value result position => next result position
  | .starved => .starved
  | .malformed => .malformed

/-- The bit at a position. -/
def bit (input : Array UInt8) (position : Nat) : Read Nat :=
  match input[position / 8]? with
  | some byte => .value (if byte.toNat.testBit (position % 8) then 1 else 0) (position + 1)
  | none => .starved

/-- The number that `count` bits spell, least significant bit first. -/
def bits (input : Array UInt8) : Nat → Nat → Read Nat
  | 0, position => .value 0 position
  | count + 1, position =>
    (bit input position).andThen fun low position =>
      (bits input count position).andThen fun high position => .value (low + 2 * high) position

end Hotload.Deflate
