import Hotload.Zip.CodePage
import Hotload.Zip.Entry

/-!
# Extra fields

The directory may add fields to an entry: sizes of more than four bytes, another spelling of the
name, the parameters of an encryption, or times. A field that breaks off ends the list silently; one
that contradicts itself makes the whole directory unreadable.
-/

namespace Hotload.Zip

/-- What the directory says about an entry, as far as its extra fields may still change it. -/
structure Draft where
  nameBytes : Bytes
  name : String
  comment : String
  method : Nat
  isEncrypted : Bool
  hasCipher : Bool
  packedSize : Nat
  declaredSize : Nat
  headerStart : Nat

/-- The outcome of reading one extra field. -/
inductive FieldResult where
  /-- The changed draft and the bytes after the field. -/
  | next (draft : Draft) (rest : Bytes)
  /-- The bytes ended inside the field; what was read of it before holds. -/
  | brokenOff (draft : Draft)
  | contradictory

/-- The value that marks a four-byte size or offset as given in an extra field. -/
def deferred : Nat := 0xFFFFFFFF

/-- Takes a number of `width` bytes. -/
def takeNumber? (width : Nat) (bytes : Bytes) : Option (Nat × Bytes) :=
  if bytes.length < width then none
  else some (Bytes.littleEndian (bytes.take width), bytes.drop width)

/-- Continues with the bytes after a field whose remaining length is known. -/
def skip (draft : Draft) (count : Nat) (bytes : Bytes) : FieldResult :=
  if bytes.length < count then .brokenOff draft else .next draft (bytes.drop count)

/-- Reads the field with the long sizes. Only what the entry itself defers is present, unless the
field is long enough to hold all three numbers. -/
def readLongSizes (draft : Draft) (length : Nat) (bytes : Bytes) : FieldResult :=
  let all := length ≥ 24
  let wantsDeclared := all || draft.declaredSize == deferred
  match if wantsDeclared then takeNumber? 8 bytes else some (draft.declaredSize, bytes) with
  | none => .brokenOff draft
  | some (declared, bytes) =>
    let draft := { draft with declaredSize := declared }
    let wantsPacked := all || draft.packedSize == deferred
    match if wantsPacked then takeNumber? 8 bytes else some (draft.packedSize, bytes) with
    | none => .brokenOff draft
    | some (packed, bytes) =>
      let draft := { draft with packedSize := packed }
      let wantsStart := all || draft.headerStart == deferred
      match if wantsStart then takeNumber? 8 bytes else some (draft.headerStart, bytes) with
      | none => .brokenOff draft
      | some (start, bytes) =>
        let draft := { draft with headerStart := start }
        let used := 8 * (wantsDeclared.toNat + wantsPacked.toNat + wantsStart.toNat)
        if length < used then .contradictory else skip draft (length - used) bytes

/-- Reads the field with the parameters of an encryption. -/
def readCipher (draft : Draft) (length : Nat) (bytes : Bytes) : FieldResult :=
  if length ≠ 7 then .contradictory
  else if bytes.length < 7 then .brokenOff draft
  else
    let version := Bytes.littleEndian (bytes.take 2)
    let vendor := Bytes.littleEndian (Bytes.slice bytes 2 2)
    let strength := Bytes.littleEndian (Bytes.slice bytes 4 1)
    let method := Bytes.littleEndian (Bytes.slice bytes 5 2)
    if vendor ≠ 0x4541 || (version ≠ 1 && version ≠ 2) || strength < 1 || strength > 3 then
      .contradictory
    else .next { draft with hasCipher := true, method := method } (bytes.drop 7)

/-- Reads the field with the times of one file system. -/
def readFileTimes (draft : Draft) (length : Nat) (bytes : Bytes) : FieldResult :=
  if length ≠ 32 then .contradictory
  else
    match takeNumber? 4 bytes with
    | none => .brokenOff draft
    | some (_, bytes) =>
      match takeNumber? 2 bytes with
      | none => .brokenOff draft
      | some (tag, bytes) =>
        if tag ≠ 1 then .contradictory
        else
          match takeNumber? 2 bytes with
          | none => .brokenOff draft
          | some (size, bytes) => if size ≠ 24 then .contradictory else skip draft 24 bytes

/-- The number of bits that are set in a byte. -/
def setBits (byte : Nat) : Nat :=
  ((List.range 8).filter fun index => byte.testBit index).length

/-- Reads the field with the times since 1970. Its first byte says which of them follow. -/
def readEpochTimes (draft : Draft) (length : Nat) (bytes : Bytes) : FieldResult :=
  match takeNumber? 1 bytes with
  | none => .brokenOff draft
  | some (flags, bytes) =>
    if length ≠ 5 && length ≠ 1 + 4 * setBits flags then .contradictory
    else
      let present := (flags % 2 == 1 || length == 5).toNat
        + (flags / 2 % 2 == 1 && length > 5).toNat + (flags / 4 % 2 == 1 && length > 5).toNat
      skip draft (4 * present) bytes

/-- Reads a field that spells a text in UTF-8 and vouches by checksum for the spelling it
replaces. -/
def readSpelling (draft : Draft) (length : Nat) (replaced bytes : Bytes)
    (apply : Bytes → String → Draft) : FieldResult :=
  match takeNumber? 1 bytes with
  | none => .brokenOff draft
  | some (_, bytes) =>
    match takeNumber? 4 bytes with
    | none => .brokenOff draft
    | some (checksum, bytes) =>
      if length < 5 then .contradictory
      else if bytes.length < length - 5 then .brokenOff draft
      else if (Digest.Crc32.checksum replaced).toNat ≠ checksum then .contradictory
      else
        let content := bytes.take (length - 5)
        match Text.ofUtf8? content with
        | none => .contradictory
        | some text => .next (apply content text) (bytes.drop (length - 5))

/-- Reads the first of the remaining extra fields. -/
def readField (draft : Draft) (bytes : Bytes) : FieldResult :=
  match takeNumber? 2 bytes with
  | none => .brokenOff draft
  | some (kind, bytes) =>
    match takeNumber? 2 bytes with
    | none => .brokenOff draft
    | some (length, bytes) =>
      match kind with
      | 0x0001 => readLongSizes draft length bytes
      | 0x000A => readFileTimes draft length bytes
      | 0x9901 => readCipher draft length bytes
      | 0x5455 => readEpochTimes draft length bytes
      | 0x6375 =>
        readSpelling draft length (Text.utf8 draft.comment) bytes fun _ text =>
          { draft with comment := text }
      | 0x7075 =>
        readSpelling draft length draft.nameBytes bytes fun content text =>
          { draft with nameBytes := content, name := text }
      | _ => skip draft length bytes

/-- Reads all extra fields of an entry; nothing if one of them contradicts itself. A field takes at
least one byte, so the number of bytes is fuel enough. -/
def readFields : Nat → Draft → Bytes → Option Draft
  | 0, draft, _ => some draft
  | fuel + 1, draft, bytes =>
    if bytes.isEmpty then some draft
    else
      match readField draft bytes with
      | .next draft rest => readFields fuel draft rest
      | .brokenOff draft => some draft
      | .contradictory => none

end Hotload.Zip
