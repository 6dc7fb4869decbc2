import Hotload.Deflate.Huffman

/-!
# Inflating

Reads a stream in the format of RFC 1951. Blocks are stored, or coded with the fixed code, or coded
with a code of their own; a coded block is a sequence of bytes and of references to bytes already
written. A stream that ends too early still yields the bytes that were complete.
-/

namespace Hotload.Deflate

/-- What a whole stream yields. -/
inductive Inflated where
  /-- The last block was read to its end. -/
  | complete (output : Bytes)
  /-- The stream ended before its last block did. -/
  | cut (output : Bytes)
  | malformed

/-- Base and number of extra bits for the length symbols from 257 on. -/
def lengthTable : Array (Nat × Nat) :=
  #[(3, 0), (4, 0), (5, 0), (6, 0), (7, 0), (8, 0), (9, 0), (10, 0), (11, 1), (13, 1), (15, 1),
    (17, 1), (19, 2), (23, 2), (27, 2), (31, 2), (35, 3), (43, 3), (51, 3), (59, 3), (67, 4),
    (83, 4), (99, 4), (115, 4), (131, 5), (163, 5), (195, 5), (227, 5), (258, 0)]

/-- Base and number of extra bits for the distance symbols. -/
def distanceTable : Array (Nat × Nat) :=
  #[(1, 0), (2, 0), (3, 0), (4, 0), (5, 1), (7, 1), (9, 2), (13, 2), (17, 3), (25, 3), (33, 4),
    (49, 4), (65, 5), (97, 5), (129, 6), (193, 6), (257, 7), (385, 7), (513, 8), (769, 8),
    (1025, 9), (1537, 9), (2049, 10), (3073, 10), (4097, 11), (6145, 11), (8193, 12), (12289, 12),
    (16385, 13), (24577, 13)]

/-- The order in which the lengths of the code for code lengths are stored. -/
def lengthOrder : List Nat :=
  [16, 17, 18, 0, 8, 7, 9, 6, 10, 5, 11, 4, 12, 3, 13, 2, 14, 1, 15]

/-- The code for literals and lengths that needs no description. -/
def fixedLiterals : Code :=
  Code.ofLengths (List.replicate 144 8 ++ List.replicate 112 9 ++ List.replicate 24 7
    ++ List.replicate 8 8)

/-- The code for distances that needs no description. -/
def fixedDistances : Code :=
  Code.ofLengths (List.replicate 32 5)

/-- Looks a symbol up in a table of bases and adds its extra bits. -/
def readExtended (input : Array UInt8) (table : Array (Nat × Nat)) (symbol position : Nat) :
    Read Nat :=
  match table[symbol]? with
  | none => .malformed
  | some (base, extra) =>
    (bits input extra position).andThen fun more position => .value (base + more) position

/-- Repeats `count` bytes that were written `distance` bytes ago. -/
def copyBack (output : Array UInt8) (distance : Nat) : Nat → Array UInt8
  | 0 => output
  | count + 1 => copyBack (output.push (output.getD (output.size - distance) 0)) distance count

/-- The outcome of one block: the output with it and the position after it, or why it stopped. -/
inductive BlockEnd where
  | reached (output : Array UInt8) (position : Nat)
  | cut (output : Array UInt8)
  | malformed

/-- A reference to earlier output: its length, its distance and the position after it. -/
def readReference (input : Array UInt8) (distances : Code) (symbol position : Nat) :
    Read (Nat × Nat) :=
  (readExtended input lengthTable (symbol - 257) position).andThen fun length position =>
    (distances.read input position).andThen fun code position =>
      (readExtended input distanceTable code position).andThen fun distance position =>
        .value (length, distance) position

/-- Reads the symbols of a coded block up to its end mark. Every symbol takes at least one bit, so
the number of bits of the stream is fuel enough. -/
def readCoded (input : Array UInt8) (literals distances : Code) :
    Nat → Nat → Array UInt8 → BlockEnd
  | 0, _, output => .cut output
  | fuel + 1, position, output =>
    match literals.read input position with
    | .starved => .cut output
    | .malformed => .malformed
    | .value symbol position =>
      if symbol < 256 then
        readCoded input literals distances fuel position (output.push (UInt8.ofNat symbol))
      else if symbol = 256 then .reached output position
      else
        match readReference input distances symbol position with
        | .starved => .cut output
        | .malformed => .malformed
        | .value (length, distance) position =>
          if distance > output.size then .malformed
          else
            readCoded input literals distances fuel position (copyBack output distance length)

/-- Reads a stored block: its length twice, once inverted, and then its bytes. -/
def readStored (input : Array UInt8) (position : Nat) (output : Array UInt8) : BlockEnd :=
  let start := (position + 7) / 8
  match bits input 16 (8 * start), bits input 16 (8 * start + 16) with
  | .value length _, .value inverse _ =>
    if length + inverse ≠ 65535 then .malformed
    else
      let body := input.extract (start + 4) (start + 4 + length)
      if body.size < length then .cut (output ++ body)
      else .reached (output ++ body) (8 * (start + 4 + length))
  | _, _ => .cut output

/-- Reads the three-bit lengths of the code for code lengths. -/
def readLengthCode (input : Array UInt8) :
    List Nat → Nat → List (Nat × Nat) → Read (List (Nat × Nat))
  | [], position, found => .value found position
  | symbol :: rest, position, found =>
    (bits input 3 position).andThen fun length position =>
      readLengthCode input rest position ((symbol, length) :: found)

/-- Reads code lengths until `wanted` of them are there. Three symbols repeat: the length before, or
zeros. -/
def readLengths (input : Array UInt8) (code : Code) (wanted : Nat) :
    Nat → Nat → Array Nat → Read (Array Nat)
  | 0, _, _ => .malformed
  | fuel + 1, position, lengths =>
    if lengths.size ≥ wanted then .value lengths position
    else
      (code.read input position).andThen fun symbol position =>
        if symbol < 16 then readLengths input code wanted fuel position (lengths.push symbol)
        else
          let (extra, base) :=
            if symbol = 16 then (2, 3) else if symbol = 17 then (3, 3) else (7, 11)
          if symbol = 16 && lengths.isEmpty then .malformed
          else
            let value := if symbol = 16 then lengths.getD (lengths.size - 1) 0 else 0
            (bits input extra position).andThen fun more position =>
              if lengths.size + base + more > wanted then .malformed
              else
                readLengths input code wanted fuel position
                  (lengths ++ Array.replicate (base + more) value)

/-- Whether a code may be used for literals or distances: its words fit, and either they use up all
space or there is at most one word, of one bit. -/
def Code.isUsable (code : Code) : Bool :=
  code.isEmpty || code.slack = 0 || (code.slack > 0 && code.isShort)

/-- Reads the description of a block's own pair of codes. -/
def readCodes (input : Array UInt8) (position : Nat) : Read (Code × Code) :=
  (bits input 5 position).andThen fun moreLiterals position =>
    (bits input 5 position).andThen fun moreDistances position =>
      (bits input 4 position).andThen fun moreLengths position =>
        let literalCount := moreLiterals + 257
        let distanceCount := moreDistances + 1
        if literalCount > 286 || distanceCount > 30 then .malformed
        else
          (readLengthCode input (lengthOrder.take (moreLengths + 4)) position []).andThen
            fun found position =>
              let lengths := (List.range 19).map fun symbol => (found.lookup symbol).getD 0
              let code := Code.ofLengths lengths
              if code.slack ≠ 0 then .malformed
              else
                (readLengths input code (literalCount + distanceCount) 400 position #[]).andThen
                  fun all position =>
                    let literals := Code.ofLengths (all.toList.take literalCount)
                    let distances := Code.ofLengths (all.toList.drop literalCount)
                    if all.getD 256 0 = 0 || !literals.isUsable || !distances.isUsable then
                      .malformed
                    else .value (literals, distances) position

/-- Reads blocks up to the last one. A block takes at least three bits, so the number of bits is
fuel enough. -/
def readBlocks (input : Array UInt8) : Nat → Nat → Array UInt8 → Inflated
  | 0, _, output => .cut output.toList
  | fuel + 1, position, output =>
    match bits input 1 position, bits input 2 (position + 1) with
    | .value last _, .value kind _ =>
      let body := position + 3
      let ending :=
        match kind with
        | 0 => readStored input body output
        | 1 => readCoded input fixedLiterals fixedDistances (8 * input.size) body output
        | 2 =>
          match readCodes input body with
          | .value (literals, distances) start =>
            readCoded input literals distances (8 * input.size) start output
          | .starved => .cut output
          | .malformed => .malformed
        | _ => .malformed
      match ending with
      | .malformed => .malformed
      | .cut output => .cut output.toList
      | .reached output after =>
        if last = 1 then .complete output.toList else readBlocks input fuel after output
    | _, _ => .cut output.toList

/-- Inflates a stream; bytes after its last block are ignored. -/
def inflate (input : Bytes) : Inflated :=
  readBlocks input.toArray (8 * input.length + 1) 0 #[]

end Hotload.Deflate
