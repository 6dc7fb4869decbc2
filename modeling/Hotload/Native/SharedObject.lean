import Hotload.Bytes
import Hotload.Text.Utf8

/-!
# Shared objects

A native library is a file in the Executable and Linkable Format. This module reads from it what a
look-up by name needs: the names that the library exports. Only 64-bit little-endian libraries for
the x86-64 processor are accepted.
-/

namespace Hotload.Native

/-- The number of `width` bytes at an offset. -/
def number? (file : Bytes) (offset width : Nat) : Option Nat :=
  let field := Bytes.slice file offset width
  if field.length = width then some (Bytes.littleEndian field) else none

/-- A part of the file and the addresses it gets in memory. -/
structure Segment where
  kind : Nat
  offset : Nat
  address : Nat
  size : Nat
  deriving DecidableEq, Repr

/-- The segment that a header record at an offset describes; its bytes have to be there. -/
def segment? (file : Bytes) (record : Nat) : Option Segment := do
  let kind ← number? file record 4
  let offset ← number? file (record + 8) 8
  let address ← number? file (record + 16) 8
  let size ← number? file (record + 32) 8
  if kind = 1 && file.length < offset + size then none else some ⟨kind, offset, address, size⟩

/-- The segments of a library. -/
def segments? (file : Bytes) : Option (List Segment) := do
  let start ← number? file 32 8
  let width ← number? file 54 2
  let count ← number? file 56 2
  if width ≠ 56 then none
  else (List.range count).mapM fun index => segment? file (start + width * index)

/-- Whether a file starts like a library that can be loaded. -/
def hasLibraryHeader (file : Bytes) : Bool :=
  file.take 7 = [0x7F, 0x45, 0x4C, 0x46, 2, 1, 1] && number? file 16 2 = some 3
    && number? file 18 2 = some 62

/-- Where in the file an address comes from. -/
def offsetOf? (segments : List Segment) (address : Nat) : Option Nat :=
  (segments.find? fun segment =>
    segment.kind = 1 && segment.address ≤ address && address < segment.address + segment.size).map
      fun segment => segment.offset + (address - segment.address)

/-- The records of the dynamic section, up to the empty one that ends it. -/
def dynamicRecords (file : Bytes) : Nat → Nat → List (Nat × Nat)
  | 0, _ => []
  | fuel + 1, offset =>
    match number? file offset 8, number? file (offset + 8) 8 with
    | some tag, some value =>
      if tag = 0 then [] else (tag, value) :: dynamicRecords file fuel (offset + 16)
    | _, _ => []

/-- The name at an offset of the file, up to the byte that ends it. -/
def nameAt (file : Bytes) (offset : Nat) : String :=
  Text.ofUtf8Lossy ((file.drop offset).takeWhile (· ≠ 0))

/-- The name that a symbol record exports. A local symbol, an undefined one and one without address
export nothing. -/
def exportedName? (file : Bytes) (names record : Nat) : Option String := do
  let name ← number? file record 4
  let traits ← number? file (record + 4) 1
  let visibility ← number? file (record + 5) 1
  let section_ ← number? file (record + 6) 2
  let address ← number? file (record + 8) 8
  let isGlobal := traits / 16 = 1 ∨ traits / 16 = 2
  let isVisible := visibility % 4 = 0 ∨ visibility % 4 = 3
  if isGlobal ∧ isVisible ∧ section_ ≠ 0 ∧ address ≠ 0 then some (nameAt file (names + name))
  else none

/-- The names that a library exports, or nothing if the file is none. -/
def exports? (file : Bytes) : Option (List String) :=
  if !hasLibraryHeader file then none
  else do
    let segments ← segments? file
    let dynamic ← segments.find? (·.kind = 2)
    let records := dynamicRecords file (dynamic.size / 16) dynamic.offset
    let table := fun tag => (records.lookup tag).bind (offsetOf? segments)
    match table 4, table 5, table 6 with
    | some hashes, some names, some symbols =>
      let count ← number? file (hashes + 4) 4
      some ((List.range count).filterMap fun index =>
        exportedName? file names (symbols + 24 * index))
    | _, _, _ => some []

/-- Whether a name can be looked up at all: it must not hold a null character. -/
def isSearchable (name : String) : Bool :=
  '\x00' ∉ name.toList

end Hotload.Native
