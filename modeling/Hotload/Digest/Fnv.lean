import Hotload.Bytes

/-!
# FNV-1a

The short fingerprint under which long bodies are shown: each byte is mixed in by exclusive or and
the register is multiplied by the 64-bit prime.
-/

namespace Hotload.Digest.Fnv

/-- The 64-bit FNV-1a value of a byte string. -/
def hash (bytes : Bytes) : UInt64 :=
  bytes.foldl (fun register byte => (register ^^^ byte.toUInt64) * 0x100000001b3) 0xcbf29ce484222325

/-- The fingerprint as sixteen hexadecimal digits. -/
def text (bytes : Bytes) : String :=
  Bytes.hex (Bytes.ofLittleEndian 8 (hash bytes).toNat).reverse

end Hotload.Digest.Fnv
