import Hotload.Bytes

/-!
# Storing

Writes a stream in the format of RFC 1951 whose blocks are all stored, which is what a compressor
falls back to where nothing can be gained. A block holds at most 16383 bytes, and an empty content
still gets one block.
-/

namespace Hotload.Deflate

/-- The most bytes that one block takes. -/
def blockSize : Nat := 16383

/-- One stored block: its mark, its length, the length inverted, and its bytes. -/
def storedBlock (last : Bool) (content : Bytes) : Bytes :=
  (if last then 1 else 0) :: Bytes.ofLittleEndian 2 content.length
    ++ Bytes.ofLittleEndian 2 (65535 - content.length) ++ content

/-- Cuts a content into stored blocks. The fuel is the number of bytes. -/
def storeFrom : Nat → Bytes → Bytes
  | 0, content => storedBlock true content
  | fuel + 1, content =>
    if content.length ≤ blockSize then storedBlock true content
    else storedBlock false (content.take blockSize) ++ storeFrom fuel (content.drop blockSize)

/-- A stream that inflates to the given content. -/
def store (content : Bytes) : Bytes :=
  storeFrom content.length content

end Hotload.Deflate
