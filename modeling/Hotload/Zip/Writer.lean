import Hotload.Deflate.Coded
import Hotload.Digest.Crc32
import Hotload.Text.Utf8

/-!
# Writing containers

Containers are written front to back without returning to what is already written: sizes and
checksum of an entry follow its content, and the directory follows the last entry.
-/

namespace Hotload.Zip

/-- The flags of an entry: its sizes follow it, and a name beyond ASCII is UTF-8. -/
def entryFlags (name : String) : Nat :=
  if name.toList.all (·.toNat < 128) then 8 else 2056

/-- What one entry contributes: its bytes, and its directory record when they start at an offset. -/
def writeEntry (name : String) (content : Bytes) (offset : Nat) : Bytes × Bytes :=
  let nameBytes := Text.utf8 name
  let packed := Deflate.deflate content
  let number := Bytes.ofLittleEndian
  let checksum := (Digest.Crc32.checksum content).toNat
  let shared := number 2 20 ++ number 2 (entryFlags name) ++ number 2 8 ++ number 2 0 ++ number 2 33
  let sizes := number 4 checksum ++ number 4 packed.length ++ number 4 content.length
  let header := number 4 0x04034B50 ++ shared ++ number 4 0 ++ number 4 0 ++ number 4 0
    ++ number 2 nameBytes.length ++ number 2 0 ++ nameBytes
  let record := number 4 0x02014B50 ++ number 2 20 ++ shared ++ sizes
    ++ number 2 nameBytes.length ++ number 2 0 ++ number 2 0 ++ number 2 0 ++ number 2 0
    ++ number 4 0 ++ number 4 offset ++ nameBytes
  (header ++ packed ++ number 4 0x08074B50 ++ sizes, record)

/-- Writes the entries one after the other. The result is their bytes and their directory records,
where the first entry starts at the given offset. -/
def writeEntries : List (String × Bytes) → Nat → Bytes × Bytes
  | [], _ => ([], [])
  | (name, content) :: rest, offset =>
    let (bytes, record) := writeEntry name content offset
    let (others, records) := writeEntries rest (offset + bytes.length)
    (bytes ++ others, record ++ records)

/-- The container that holds the given entries in the given order. -/
def write (entries : List (String × Bytes)) : Bytes :=
  let (bytes, records) := writeEntries entries 0
  let number := Bytes.ofLittleEndian
  bytes ++ records ++ number 4 0x06054B50 ++ number 2 0 ++ number 2 0 ++ number 2 entries.length
    ++ number 2 entries.length ++ number 4 records.length ++ number 4 bytes.length ++ number 2 0

end Hotload.Zip
