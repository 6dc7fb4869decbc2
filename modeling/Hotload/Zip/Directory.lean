import Hotload.Zip.ExtraField

/-!
# The directory of a container

A container is read from its end: an end record says where the directory starts and how many entries
it lists. Bytes before the container and after its end record are tolerated, so every place that
looks like an end record is tried, the last one first, until one leads to a directory that can be
read in full.
-/

namespace Hotload.Zip

/-- The little-endian number of `width` bytes at an offset, if the container is long enough. -/
def number? (input : Array UInt8) (offset width : Nat) : Option Nat :=
  if offset + width ≤ input.size then
    some (Bytes.littleEndian (input.extract offset (offset + width)).toList)
  else none

/-- The bytes at an offset, if the container is long enough. -/
def field? (input : Array UInt8) (offset width : Nat) : Option Bytes :=
  if offset + width ≤ input.size then some (input.extract offset (offset + width)).toList else none

/-- The marks that records start with. -/
def endMark : Nat := 0x06054B50
def longEndMark : Nat := 0x06064B50
def longLocatorMark : Nat := 0x07064B50
def directoryMark : Nat := 0x02014B50
def entryMark : Nat := 0x04034B50

/-- Whether a record with the given mark starts at an offset. -/
def hasMark (input : Array UInt8) (mark offset : Nat) : Bool :=
  input.getD offset 0 == 0x50 && number? input offset 4 == some mark

/-- The last offset below `limit` at which a mark starts and before which it ends. -/
def lastMark? (input : Array UInt8) (mark : Nat) : Nat → Option Nat
  | 0 => none
  | limit + 1 =>
    if hasMark input mark limit then some limit else lastMark? input mark limit

/-- The first offset from `start` on at which a mark starts, among the next `count` offsets. -/
def firstMark? (input : Array UInt8) (mark start : Nat) : Nat → Option Nat
  | 0 => none
  | count + 1 =>
    if hasMark input mark start then some start else firstMark? input mark (start + 1) count

/-- Where the directory is and what it is said to hold. -/
structure Location where
  /-- The number of foreign bytes before the container. -/
  shift : Nat
  start : Nat
  count : Nat
  /-- Whether the record agrees with itself on disks, counts and versions. -/
  isCoherent : Bool

/-- The directory that a long end record describes. -/
def longLocation? (input : Array UInt8) (offset target locator locatorDisk : Nat) :
    Option Location := do
  let size ← number? input (offset + 4) 8
  let madeBy ← number? input (offset + 12) 2
  let needed ← number? input (offset + 14) 2
  let disk ← number? input (offset + 16) 4
  let directoryDisk ← number? input (offset + 20) 4
  let here ← number? input (offset + 24) 8
  let count ← number? input (offset + 32) 8
  let start ← number? input (offset + 48) 8
  guard (44 ≤ size ∧ size + 12 = locator - offset ∧ directoryDisk = locatorDisk)
  guard (46 * count + start ≤ offset)
  some ⟨offset - target, start + (offset - target), count,
    here ≤ count && needed ≤ madeBy && disk == directoryDisk⟩

/-- The first of the next `count` offsets at which a long end record makes sense. -/
def firstLongLocation? (input : Array UInt8) (target locator locatorDisk : Nat) :
    Nat → Nat → Option Location
  | 0, _ => none
  | count + 1, offset =>
    if hasMark input longEndMark offset then
      match longLocation? input offset target locator locatorDisk with
      | some found => some found
      | none => firstLongLocation? input target locator locatorDisk count (offset + 1)
    else firstLongLocation? input target locator locatorDisk count (offset + 1)

/-- The directory that an end record at an offset leads to, if the record makes sense. -/
def location? (input : Array UInt8) (offset : Nat) : Option Location := do
  let disk ← number? input (offset + 4) 2
  let directoryDisk ← number? input (offset + 6) 2
  let here ← number? input (offset + 8) 2
  let count ← number? input (offset + 10) 2
  let start ← number? input (offset + 16) 4
  let comment ← number? input (offset + 20) 2
  guard (offset + 22 + comment ≤ input.size)
  let mayBeLong := count == 0xFFFF || start == deferred
  if mayBeLong && 20 ≤ offset && hasMark input longLocatorMark (offset - 20) then
    let locator := offset - 20
    let locatorDisk ← number? input (locator + 4) 4
    let target ← number? input (locator + 8) 8
    let disks ← number? input (locator + 16) 4
    guard (target < locator ∧ disks ≤ 1)
    firstLongLocation? input target locator locatorDisk (locator - target) target
  else if count = 0 then
    some ⟨offset - start, start + (offset - start), here, disk == directoryDisk⟩
  else
    guard (start < offset)
    let found ← firstMark? input directoryMark start (offset - start)
    some ⟨found - start, found, here, disk == directoryDisk⟩

/-- Reads the directory record at an offset, and the offset after it. The entry it describes has to
start before the directory, and so has its content. -/
def readEntry? (input : Array UInt8) (place : Location) (offset : Nat) : Option (Entry × Nat) := do
  guard (hasMark input directoryMark offset)
  let flags ← number? input (offset + 8) 2
  let method ← number? input (offset + 10) 2
  let checksum ← number? input (offset + 16) 4
  let packed ← number? input (offset + 20) 4
  let declared ← number? input (offset + 24) 4
  let nameLength ← number? input (offset + 28) 2
  let extraLength ← number? input (offset + 30) 2
  let commentLength ← number? input (offset + 32) 2
  let start ← number? input (offset + 42) 4
  let nameBytes ← field? input (offset + 46) nameLength
  let extra ← field? input (offset + 46 + nameLength) extraLength
  let comment ← field? input (offset + 46 + nameLength + extraLength) commentLength
  let isUtf8 := flags / 2048 % 2 == 1
  let decode := fun bytes => if isUtf8 then Text.ofUtf8Lossy bytes else ofCodePage bytes
  let draft ← readFields (extra.length + 1)
    ⟨nameBytes, decode nameBytes, decode comment, method, flags % 2 == 1, false, packed, declared,
      start⟩ extra
  guard (draft.method ≠ 99 ∨ draft.hasCipher)
  let headerStart := draft.headerStart + place.shift
  guard (headerStart < place.start)
  guard (hasMark input entryMark headerStart)
  let ownName ← number? input (headerStart + 26) 2
  let ownExtra ← number? input (headerStart + 28) 2
  let dataStart := headerStart + 30 + ownName + ownExtra
  guard (dataStart ≤ place.start)
  some (⟨draft.name, Method.ofCode draft.method, draft.isEncrypted || draft.hasCipher, checksum,
      draft.packedSize, draft.declaredSize, headerStart, dataStart⟩,
    offset + 46 + nameLength + extraLength + commentLength)

/-- Reads `count` directory records. -/
def readEntries? (input : Array UInt8) (place : Location) : Nat → Nat → Option (List Entry)
  | 0, _ => some []
  | count + 1, offset => do
    let (entry, after) ← readEntry? input place offset
    let rest ← readEntries? input place count after
    some (entry :: rest)

/-- Adds an entry to those already listed. A name that is listed already keeps its place but gets
the new entry. -/
def enlist (listed : List Entry) (entry : Entry) : List Entry :=
  if listed.any (·.name == entry.name) then
    listed.map fun other => if other.name == entry.name then entry else other
  else listed ++ [entry]

/-- The entries that the directory at a place lists, each name once. -/
def directory? (input : Array UInt8) (place : Location) : Option (List Entry) := do
  guard place.isCoherent
  let entries ← readEntries? input place place.count place.start
  some (entries.foldl enlist [])

/-- Tries every end record that starts before `limit`, the last one first. -/
def openBefore (input : Array UInt8) : Nat → Nat → Option (List Entry)
  | 0, _ => none
  | fuel + 1, limit => do
    let offset ← lastMark? input endMark limit
    match (location? input offset).bind (directory? input) with
    | some entries => some entries
    | none => openBefore input fuel offset

/-- The entries of a container in the order of its directory, or nothing if it is none. -/
def entries? (container : Bytes) : Option (List Entry) :=
  let input := container.toArray
  openBefore input (input.size + 1) input.size

end Hotload.Zip
