import Hotload.Bytes

/-!
# CRC-32

The checksum that archives keep for each entry: the remainder of the reflected polynomial
`0xEDB88320`, with the register inverted before and after.
-/

namespace Hotload.Digest.Crc32

/-- Divides one bit out of the register. -/
def shift (register : UInt32) : UInt32 :=
  if register &&& 1 == 1 then (register >>> 1) ^^^ 0xEDB88320 else register >>> 1

/-- Takes one byte into the register. -/
def step (register : UInt32) (byte : UInt8) : UInt32 :=
  let mixed := register ^^^ byte.toUInt32
  shift (shift (shift (shift (shift (shift (shift (shift mixed)))))))

/-- The checksum of a byte string. -/
def checksum (bytes : Bytes) : UInt32 :=
  (bytes.foldl step 0xFFFFFFFF) ^^^ 0xFFFFFFFF

end Hotload.Digest.Crc32
