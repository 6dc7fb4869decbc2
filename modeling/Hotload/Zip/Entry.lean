import Hotload.Deflate.Inflate
import Hotload.Digest.Crc32

/-!
# Archive entries

An entry of a container names a stretch of the container's bytes and says how they are to be read.
Everything but the bytes themselves comes from the directory at the container's end.
-/

namespace Hotload.Zip

/-- How the bytes of an entry are packed. -/
inductive Method where
  | stored
  | deflated
  | unsupported (code : Nat)
  deriving DecidableEq, Repr

/-- The method with the given number. -/
def Method.ofCode : Nat → Method
  | 0 => .stored
  | 8 => .deflated
  | code => .unsupported code

/-- What the directory of a container says about one entry. -/
structure Entry where
  name : String
  method : Method
  /-- Whether the bytes can only be read with a password. -/
  isLocked : Bool
  checksum : Nat
  packedSize : Nat
  /-- The size that the directory promises; nothing checks it against the content. -/
  declaredSize : Nat
  /-- Where the entry's own header starts, counted from the start of the container. -/
  headerStart : Nat
  /-- Where the packed bytes start. -/
  dataStart : Nat
  deriving Repr

/-- Whether an entry stands for a directory: its name says so. -/
def Entry.isDirectory (entry : Entry) : Bool :=
  match entry.name.toList.getLast? with
  | some '/' | some '\\' => true
  | _ => false

/-- Why the content of an entry cannot be read. -/
inductive ContentError where
  /-- It is packed or locked in a way that is not supported. -/
  | unsupported
  /-- Its bytes are damaged or do not match the checksum. -/
  | damaged
  deriving DecidableEq, Repr

/-- Accepts a content that matches the checksum of its entry. -/
def Entry.verified (entry : Entry) (content : Bytes) : Except ContentError Bytes :=
  if (Digest.Crc32.checksum content).toNat = entry.checksum then .ok content else .error .damaged

/-- The content of an entry of the given container. Bytes that are missing at the end are passed
over; whether the rest is the content is decided by the checksum alone. -/
def Entry.content (entry : Entry) (container : Bytes) : Except ContentError Bytes :=
  if entry.isLocked then .error .unsupported
  else
    let packed := Bytes.slice container entry.dataStart entry.packedSize
    match entry.method with
    | .unsupported _ => .error .unsupported
    | .stored => entry.verified packed
    | .deflated =>
      match Deflate.inflate packed with
      | .complete output => entry.verified output
      | .cut output => entry.verified output
      | .malformed => .error .damaged

end Hotload.Zip
