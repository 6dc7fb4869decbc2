import Hotload.Bytes

/-!
# SHA-256

The digest of FIPS 180-4 over byte strings. The cache names its artifacts by it.
-/

namespace Hotload.Digest.Sha256

/-- The first thirty-two fraction bits of the cube roots of the first sixty-four primes. -/
def roundConstants : List UInt32 :=
  [0x428a2f98, 0x71374491, 0xb5c0fbcf, 0xe9b5dba5, 0x3956c25b, 0x59f111f1, 0x923f82a4, 0xab1c5ed5,
   0xd807aa98, 0x12835b01, 0x243185be, 0x550c7dc3, 0x72be5d74, 0x80deb1fe, 0x9bdc06a7, 0xc19bf174,
   0xe49b69c1, 0xefbe4786, 0x0fc19dc6, 0x240ca1cc, 0x2de92c6f, 0x4a7484aa, 0x5cb0a9dc, 0x76f988da,
   0x983e5152, 0xa831c66d, 0xb00327c8, 0xbf597fc7, 0xc6e00bf3, 0xd5a79147, 0x06ca6351, 0x14292967,
   0x27b70a85, 0x2e1b2138, 0x4d2c6dfc, 0x53380d13, 0x650a7354, 0x766a0abb, 0x81c2c92e, 0x92722c85,
   0xa2bfe8a1, 0xa81a664b, 0xc24b8b70, 0xc76c51a3, 0xd192e819, 0xd6990624, 0xf40e3585, 0x106aa070,
   0x19a4c116, 0x1e376c08, 0x2748774c, 0x34b0bcb5, 0x391c0cb3, 0x4ed8aa4a, 0x5b9cca4f, 0x682e6ff3,
   0x748f82ee, 0x78a5636f, 0x84c87814, 0x8cc70208, 0x90befffa, 0xa4506ceb, 0xbef9a3f7, 0xc67178f2]

/-- The eight words of chaining state. -/
structure State where
  a : UInt32
  b : UInt32
  c : UInt32
  d : UInt32
  e : UInt32
  f : UInt32
  g : UInt32
  h : UInt32

/-- The state before the first block. -/
def initial : State :=
  ⟨0x6a09e667, 0xbb67ae85, 0x3c6ef372, 0xa54ff53a, 0x510e527f, 0x9b05688c, 0x1f83d9ab, 0x5be0cd19⟩

/-- Rotation of a word to the right. -/
def rotateRight (word amount : UInt32) : UInt32 :=
  (word >>> amount) ||| (word <<< (32 - amount))

/-- The message is followed by one bit, by zeros, and by its length in bits in eight bytes, so that
whole blocks of sixty-four bytes result. -/
def pad (message : Bytes) : Bytes :=
  let length := message.length
  let zeros := (119 - length % 64) % 64
  message ++ [0x80] ++ List.replicate zeros 0 ++ (Bytes.ofLittleEndian 8 (8 * length)).reverse

/-- Splits a byte string into big-endian words of four bytes. -/
def words : Bytes → List UInt32
  | a :: b :: c :: d :: rest => UInt32.ofNat (Bytes.bigEndian [a, b, c, d]) :: words rest
  | _ => []

/-- Extends the newest-first schedule by one word, computed from the words 2, 7, 15 and 16 places
before it. -/
def extend (newest : List UInt32) : List UInt32 :=
  let at_ (back : Nat) : UInt32 := newest.getD (back - 1) 0
  let lower := rotateRight (at_ 15) 7 ^^^ rotateRight (at_ 15) 18 ^^^ (at_ 15 >>> 3)
  let upper := rotateRight (at_ 2) 17 ^^^ rotateRight (at_ 2) 19 ^^^ (at_ 2 >>> 10)
  (at_ 16 + lower + at_ 7 + upper) :: newest

/-- The sixty-four words that a block of sixteen words expands to. -/
def schedule (block : List UInt32) : List UInt32 :=
  ((List.range 48).foldl (fun newest _ => extend newest) block.reverse).reverse

/-- One round, with its constant and its word of the schedule. -/
def round (state : State) (constant word : UInt32) : State :=
  let upper := rotateRight state.e 6 ^^^ rotateRight state.e 11 ^^^ rotateRight state.e 25
  let choice := (state.e &&& state.f) ^^^ (~~~state.e &&& state.g)
  let first := state.h + upper + choice + constant + word
  let lower := rotateRight state.a 2 ^^^ rotateRight state.a 13 ^^^ rotateRight state.a 22
  let majority := (state.a &&& state.b) ^^^ (state.a &&& state.c) ^^^ (state.b &&& state.c)
  ⟨first + (lower + majority), state.a, state.b, state.c, state.d + first, state.e, state.f,
    state.g⟩

/-- Sixty-four rounds over a block, added to the state they started from. -/
def compress (state : State) (block : List UInt32) : State :=
  let mixed := (roundConstants.zip (schedule block)).foldl
    (fun current (constant, word) => round current constant word) state
  ⟨state.a + mixed.a, state.b + mixed.b, state.c + mixed.c, state.d + mixed.d,
   state.e + mixed.e, state.f + mixed.f, state.g + mixed.g, state.h + mixed.h⟩

/-- Compresses the blocks of sixteen words in order; the fuel is the number of words. -/
def run : Nat → State → List UInt32 → State
  | 0, state, _ => state
  | fuel + 1, state, remaining =>
    if remaining.isEmpty then state
    else run fuel (compress state (remaining.take 16)) (remaining.drop 16)

/-- The eight words of a state as bytes. -/
def State.toBytes (state : State) : Bytes :=
  [state.a, state.b, state.c, state.d, state.e, state.f, state.g, state.h].flatMap fun word =>
    (Bytes.ofLittleEndian 4 word.toNat).reverse

/-- The thirty-two bytes of the digest of a message. -/
def hash (message : Bytes) : Bytes :=
  let blocks := words (pad message)
  (run blocks.length initial blocks).toBytes

end Hotload.Digest.Sha256
