import Hotload.Deflate.Inflate
import Hotload.Deflate.Stored

/-!
# Deflating

Writes a content as one block in the fixed code, in which bytes that repeat earlier ones are named by
their length and distance. The coded form is not trusted: `deflate` takes it only where it is shorter
and inflates to the content, and stores the content otherwise. That a stream reads back therefore
rests on the stored form alone.
-/

namespace Hotload.Deflate

/-- One step of a coded block. -/
inductive Token where
  | literal (byte : UInt8)
  /-- As many bytes as `length` says, which were written `distance` bytes ago. -/
  | reference (length distance : Nat)
  deriving DecidableEq, Repr

/-- The number of buckets for positions already passed. -/
def bucketCount : Nat := 4096

/-- The bucket of the three bytes at a position. -/
def bucket (content : Array UInt8) (position : Nat) : Nat :=
  let byte := fun ahead => (content.getD (position + ahead) 0).toNat
  (byte 0 * 961 + byte 1 * 31 + byte 2) % bucketCount

/-- How many bytes from a position on equal those from an earlier one on, up to a limit. -/
def agreement (content : Array UInt8) (earlier position : Nat) : Nat → Nat
  | 0 => 0
  | limit + 1 =>
    match content[earlier]?, content[position]? with
    | some old, some new =>
      if old = new then agreement content (earlier + 1) (position + 1) limit + 1 else 0
    | _, _ => 0

/-- Cuts a content into steps. Each bucket holds one more than the last position that fell into it,
and the fuel is the number of bytes. -/
def tokenize (content : Array UInt8) : Nat → Nat → Array Nat → Array Token → Array Token
  | 0, _, _, tokens => tokens
  | fuel + 1, position, buckets, tokens =>
    match content[position]? with
    | none => tokens
    | some byte =>
      let slot := bucket content position
      let found := buckets.getD slot 0
      let buckets := buckets.setIfInBounds slot (position + 1)
      let distance := position + 1 - found
      let length :=
        if found = 0 ∨ distance > 32768 then 0
        else agreement content (found - 1) position 258
      if length < 3 then tokenize content fuel (position + 1) buckets (tokens.push (.literal byte))
      else
        tokenize content fuel (position + length) buckets (tokens.push (.reference length distance))

/-- The lowest bits of a number, least significant first. -/
def lowBits : Nat → Nat → List Bool
  | 0, _ => []
  | count + 1, value => (value % 2 == 1) :: lowBits count (value / 2)

/-- A word of a code, whose most significant bit comes first. -/
def wordBits (width word : Nat) : List Bool :=
  (lowBits width word).reverse

/-- The word of a symbol in the fixed code for literals and lengths. -/
def fixedWord (symbol : Nat) : List Bool :=
  if symbol < 144 then wordBits 8 (48 + symbol)
  else if symbol < 256 then wordBits 9 (256 + symbol)
  else if symbol < 280 then wordBits 7 (symbol - 256)
  else wordBits 8 (symbol - 88)

/-- The symbol in whose range a number falls, and the extra bits that complete it. -/
def ranged (table : Array (Nat × Nat)) (value : Nat) : Nat × List Bool :=
  let symbol := (table.toList.takeWhile (·.1 ≤ value)).length - 1
  let (base, extra) := table.getD symbol (0, 0)
  (symbol, lowBits extra (value - base))

/-- The bits of one step. -/
def Token.bits : Token → List Bool
  | .literal byte => fixedWord byte.toNat
  | .reference length distance =>
    let (lengthSymbol, moreLength) := ranged lengthTable length
    let (distanceSymbol, moreDistance) := ranged distanceTable distance
    fixedWord (257 + lengthSymbol) ++ moreLength ++ wordBits 5 distanceSymbol ++ moreDistance

/-- Bits on their way into bytes: whole bytes, the number that the bits of the byte under
construction spell so far, and what its next bit counts. -/
structure BitSink where
  bytes : Array UInt8 := #[]
  pending : Nat := 0
  weight : Nat := 1

/-- Takes one bit. -/
def BitSink.push (sink : BitSink) (bit : Bool) : BitSink :=
  let pending := sink.pending + if bit then sink.weight else 0
  if sink.weight = 128 then ⟨sink.bytes.push (UInt8.ofNat pending), 0, 1⟩
  else ⟨sink.bytes, pending, 2 * sink.weight⟩

/-- The bytes, with zeros after the last bit. -/
def BitSink.finish (sink : BitSink) : Bytes :=
  (if sink.weight = 1 then sink.bytes else sink.bytes.push (UInt8.ofNat sink.pending)).toList

/-- One block in the fixed code: its mark, its steps and the mark of its end. -/
def codedBlock (tokens : Array Token) : Bytes :=
  let opened := [true, true, false].foldl BitSink.push {}
  let filled := tokens.foldl (fun sink token => token.bits.foldl BitSink.push sink) opened
  ((fixedWord 256).foldl BitSink.push filled).finish

/-- The coded form of a content. -/
def coded (content : Bytes) : Bytes :=
  let input := content.toArray
  codedBlock (tokenize input input.size 0 (Array.replicate bucketCount 0) #[])

/-- Below this length a content is stored at once. -/
def worthCoding : Nat := 1024

/-- A stream that inflates to the given content. -/
def deflate (content : Bytes) : Bytes :=
  if content.length < worthCoding then store content
  else
    let stream := coded content
    if content.length ≤ stream.length then store content
    else
      match inflate stream with
      | .complete output => if output = content then stream else store content
      | _ => store content

end Hotload.Deflate
