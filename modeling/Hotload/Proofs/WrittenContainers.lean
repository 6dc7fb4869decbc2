import Hotload.Proofs.SpelledTexts
import Hotload.Proofs.StoredStreams
import Hotload.Zip.Directory
import Hotload.Zip.Writer
import Mathlib.Data.List.Forall2
import Mathlib.Data.List.Nodup
import Mathlib.Data.Option.Basic

/-!
# Containers read back

A container that was written lists the parts it was made of, in their order, and gives their
contents back. Its records are looked for from the end, so the last end record that leads anywhere
is the one written; every later place that looks like one lacks the room for a record. From there
the directory and the entries are read where they were put. The limits of the format are stated in
`Storable`: counts of two bytes, sizes of four.
-/

namespace Hotload.Zip

open Bytes (At ofLittleEndian)

variable {whole : Bytes} {offset : Nat}

section Fields

/-- A number is read where it stands. -/
theorem number?_at {width value : Nat} (place : At whole offset (ofLittleEndian width value))
    (fits : value < 256 ^ width) : number? whole.toArray offset width = some value := by
  have room := place.fits
  have bytes := place.extract
  rw [Bytes.length_ofLittleEndian] at room bytes
  rw [number?, if_pos (by simpa using room), bytes, Bytes.littleEndian_ofLittleEndian _ _ fits]

/-- A number is not read beyond the end. -/
theorem number?_beyond {width : Nat} (short : whole.length < offset + width) :
    number? whole.toArray offset width = none := by
  rw [number?, if_neg (by simpa using short)]

/-- Bytes are read where they stand. -/
theorem field?_at {piece : Bytes} (place : At whole offset piece) :
    field? whole.toArray offset piece.length = some piece := by
  rw [field?, if_pos (by simpa using place.fits), place.extract]

/-- A mark is seen where it stands. -/
theorem hasMark_at {mark : Nat} (place : At whole offset (ofLittleEndian 4 mark))
    (fits : mark < 256 ^ 4) (first : UInt8.ofNat mark = 0x50) :
    hasMark whole.toArray mark offset = true := by
  have byte : whole.toArray.getD offset 0 = 0x50 := by
    rw [ofLittleEndian] at place
    rw [Array.getD_eq_getD_getElem?, place.byte, first]
    rfl
  rw [hasMark, byte, number?_at place fits]
  simp

end Fields

section Records

variable (name : String) (content : Bytes) (start : Nat)

/-- How long the header and the data of an entry are, and how long its directory record is. -/
theorem length_writeEntry :
    (writeEntry name content start).1.length =
        30 + (Text.utf8 name).length + (Deflate.deflate content).length + 16 ∧
      (writeEntry name content start).2.length = 46 + (Text.utf8 name).length := by
  constructor <;> simp only [writeEntry, List.length_append, Bytes.length_ofLittleEndian]

/-- A name is read back under the flags it is written with. -/
theorem decoded_name :
    (if (entryFlags name / 2048 % 2 == 1) = true then Text.ofUtf8Lossy (Text.utf8 name)
      else ofCodePage (Text.utf8 name)) = name := by
  unfold entryFlags
  split
  case isTrue plain =>
    refine ofCodePage_utf8 name fun char inside => ?_
    simpa using List.all_eq_true.mp plain char inside
  case isFalse => exact Text.ofUtf8Lossy_utf8 name

/-- What the directory of a written container says about an entry. -/
def written : Entry :=
  ⟨name, .deflated, false, (Digest.Crc32.checksum content).toNat, (Deflate.deflate content).length,
    content.length, start, start + 30 + (Text.utf8 name).length⟩

/-- An entry and its record that stand in place are read as the entry written. -/
theorem readEntry?_written {place : Location} (unshifted : place.shift = 0)
    (record : At whole offset (writeEntry name content start).2)
    (bytes : At whole start (writeEntry name content start).1)
    (before : start + (writeEntry name content start).1.length ≤ place.start)
    (short : (Text.utf8 name).length < 65536) (early : start < 4294967296)
    (packed : (Deflate.deflate content).length < 4294967296) (small : content.length < 4294967296) :
    readEntry? whole.toArray place offset =
      some (written name content start, offset + (writeEntry name content start).2.length) := by
  have checksum : (Digest.Crc32.checksum content).toNat < 256 ^ 4 :=
    (Digest.Crc32.checksum content).toNat_lt
  have flagsFit : entryFlags name < 256 ^ 2 := by unfold entryFlags; split <;> decide
  have clear : (entryFlags name % 2 == 1) = false := by unfold entryFlags; split <;> rfl
  have total := record.fits
  obtain ⟨headLength, recordLength⟩ := length_writeEntry name content start
  rw [headLength] at before
  rw [recordLength] at total ⊢
  simp only [writeEntry, Bytes.at_append, List.length_append, Bytes.length_ofLittleEndian,
    Nat.add_assoc, Nat.reduceAdd, and_assoc] at record bytes
  obtain ⟨recordMark, -, -, flagsAt, methodAt, -, -, checksumAt, packedAt, declaredAt, lengthAt,
    extraAt, commentAt, -, -, -, startAt, nameAt⟩ := record
  obtain ⟨ownMark, -, -, -, -, -, -, -, -, ownLengthAt, ownExtraAt, -⟩ := bytes
  have marked : hasMark whole.toArray directoryMark offset = true :=
    hasMark_at recordMark (by decide) rfl
  have ownMarked : hasMark whole.toArray entryMark start = true := hasMark_at ownMark (by decide) rfl
  have extraBytes : field? whole.toArray (offset + 46 + (Text.utf8 name).length) 0 = some [] :=
    field?_at (Bytes.at_nil (by omega))
  have method : ¬(8 = 99) := by decide
  have headerInside : start < place.start := by omega
  have dataInside : start + 30 + (Text.utf8 name).length ≤ place.start := by omega
  rw [ readEntry?, marked, number?_at flagsAt flagsFit, number?_at methodAt (by decide),
    number?_at checksumAt checksum, number?_at packedAt packed, number?_at declaredAt small,
    number?_at lengthAt short, number?_at extraAt (by decide), number?_at commentAt (by decide),
    number?_at startAt early]
  simp only [guard, if_true, Option.pure_def, Option.bind_eq_bind, Option.bind_some,
    Nat.add_zero, field?_at nameAt, extraBytes, List.length_nil, readFields,
    List.isEmpty_nil, unshifted, clear, decoded_name, ownMarked, number?_at ownLengthAt short,
    number?_at ownExtraAt (by decide), headerInside, dataInside, ne_eq, method, not_false_eq_true,
    true_or, Bool.or_self]
  rw [Nat.add_assoc offset]
  rfl

/-- The content of an entry that stands in place is the one written. -/
theorem content_written (bytes : At whole start (writeEntry name content start).1) :
    (written name content start).content whole = .ok content := by
  simp only [writeEntry, Bytes.at_append, List.length_append, Bytes.length_ofLittleEndian,
    Nat.reduceAdd, and_assoc] at bytes
  obtain ⟨-, -, -, -, -, -, -, -, -, -, -, -, packedAt, -⟩ := bytes
  rw [← Nat.add_assoc] at packedAt
  simp only [Entry.content, written, Bool.false_eq_true, if_false, packedAt.slice,
    Deflate.inflate_deflate, Entry.verified, if_true]

end Records

/-- What the directory of a written container says about all entries, where the first one starts at
an offset. -/
def writtenFrom : List (String × Bytes) → Nat → List Entry
  | [], _ => []
  | (name, content) :: rest, start =>
    written name content start ::
      writtenFrom rest (start + (writeEntry name content start).1.length)

theorem writeEntries_cons (name : String) (content : Bytes) (rest : List (String × Bytes))
    (start : Nat) :
    writeEntries ((name, content) :: rest) start =
      ((writeEntry name content start).1 ++
          (writeEntries rest (start + (writeEntry name content start).1.length)).1,
        (writeEntry name content start).2 ++
          (writeEntries rest (start + (writeEntry name content start).1.length)).2) :=
  rfl

/-- Parts that fit into the fields of the format. -/
structure Storable (parts : List (String × Bytes)) : Prop where
  distinct : (parts.map (·.1)).Nodup
  few : parts.length < 65535
  shortNames : ∀ part ∈ parts, (Text.utf8 part.1).length < 65536
  smallContents : ∀ part ∈ parts, part.2.length < 4294967296
  small : (write parts).length < 4294967295

section Directories

variable {parts : List (String × Bytes)} {start : Nat}

@[simp] theorem writtenFrom_names (parts : List (String × Bytes)) (start : Nat) :
    (writtenFrom parts start).map (·.name) = parts.map (·.1) := by
  induction parts generalizing start with
  | nil => rfl
  | cons part rest inductionHypothesis =>
    simp [writtenFrom, written, inductionHypothesis]

/-- The directory of entries that stand in place is read record by record. -/
theorem readEntries?_written {place : Location} (unshifted : place.shift = 0)
    (shortNames : ∀ part ∈ parts, (Text.utf8 part.1).length < 65536)
    (smallContents : ∀ part ∈ parts, part.2.length < 4294967296)
    (records : At whole offset (writeEntries parts start).2)
    (bytes : At whole start (writeEntries parts start).1)
    (before : start + (writeEntries parts start).1.length ≤ place.start)
    (small : place.start < 4294967296) :
    readEntries? whole.toArray place parts.length offset = some (writtenFrom parts start) := by
  induction parts generalizing start offset with
  | nil => rfl
  | cons part rest inductionHypothesis =>
    obtain ⟨name, content⟩ := part
    obtain ⟨length, -⟩ := length_writeEntry name content start
    rw [writeEntries_cons] at records bytes before
    rw [List.length_append, ← Nat.add_assoc] at before
    have first := readEntry?_written name content start unshifted records.front bytes.front
      (by omega) (shortNames _ List.mem_cons_self) (by omega) (by omega)
      (smallContents _ List.mem_cons_self)
    have others := inductionHypothesis
      (fun part inside => shortNames part (List.mem_cons_of_mem _ inside))
      (fun part inside => smallContents part (List.mem_cons_of_mem _ inside))
      records.back bytes.back before
    rw [List.length_cons, readEntries?, first]
    simp only [Option.bind_eq_bind, Option.bind_some, others, writtenFrom]

/-- The entries give back the contents of the parts. -/
theorem contents_written (bytes : At whole start (writeEntries parts start).1) :
    List.Forall₂ (fun part entry => entry.name = part.1 ∧ entry.content whole = .ok part.2 ∧
      entry.declaredSize = part.2.length) parts (writtenFrom parts start) := by
  induction parts generalizing start with
  | nil => exact .nil
  | cons part rest inductionHypothesis =>
    obtain ⟨name, content⟩ := part
    rw [writeEntries_cons] at bytes
    exact .cons ⟨rfl, content_written name content start bytes.front, rfl⟩
      (inductionHypothesis bytes.back)

/-- Entries with names of their own are all listed. -/
theorem enlist_distinct (entries listed : List Entry)
    (distinct : ((listed ++ entries).map (·.name)).Nodup) :
    entries.foldl enlist listed = listed ++ entries := by
  induction entries generalizing listed with
  | nil => simp
  | cons entry rest inductionHypothesis =>
    have unlisted : listed.any (·.name == entry.name) = false := by
      rw [List.map_append, List.nodup_append'] at distinct
      rw [List.any_eq_false]
      intro other inside same
      exact distinct.2.2 (List.mem_map_of_mem inside)
        (by rw [beq_iff_eq.mp same]; exact List.mem_cons_self)
    rw [List.foldl_cons, enlist, if_neg (by simp [unlisted]), inductionHypothesis]
    · simp
    · simpa using distinct

/-- A name is listed at most once. -/
theorem enlist_names (listed : List Entry) (entry : Entry)
    (distinct : (listed.map (·.name)).Nodup) : ((enlist listed entry).map (·.name)).Nodup := by
  unfold enlist
  split
  case isTrue =>
    have kept : (listed.map fun other => if other.name == entry.name then entry else other).map
        (·.name) = listed.map (·.name) := by
      rw [List.map_map]
      refine List.map_congr_left fun other _ => ?_
      simp only [Function.comp_apply]
      split
      · next same => exact (beq_iff_eq.mp same).symm
      · rfl
    rwa [kept]
  case isFalse unlisted =>
    rw [List.map_append, List.nodup_append']
    refine ⟨distinct, List.nodup_singleton _, ?_⟩
    intro name inside same
    rw [List.map_singleton, List.mem_singleton] at same
    obtain ⟨other, listed_other, named⟩ := List.mem_map.mp inside
    exact unlisted (List.any_eq_true.mpr ⟨other, listed_other, by simp [named, same]⟩)

/-- The names that a directory lists are distinct. -/
theorem foldl_enlist_names (entries listed : List Entry) (distinct : (listed.map (·.name)).Nodup) :
    ((entries.foldl enlist listed).map (·.name)).Nodup := by
  induction entries generalizing listed with
  | nil => exact distinct
  | cons entry rest inductionHypothesis =>
    exact inductionHypothesis _ (enlist_names listed entry distinct)

/-- The directory that was written is read in full. -/
theorem directory?_written (storable : Storable parts)
    (records : At whole (writeEntries parts 0).1.length (writeEntries parts 0).2)
    (bytes : At whole 0 (writeEntries parts 0).1)
    (small : (writeEntries parts 0).1.length < 4294967296) :
    directory? whole.toArray ⟨0, (writeEntries parts 0).1.length, parts.length, true⟩ =
      some (writtenFrom parts 0) := by
  have read : readEntries? whole.toArray ⟨0, (writeEntries parts 0).1.length, parts.length, true⟩
      parts.length (writeEntries parts 0).1.length = some (writtenFrom parts 0) :=
    readEntries?_written rfl storable.shortNames storable.smallContents records bytes
      (Nat.le_of_eq (Nat.zero_add _)) small
  have listed := enlist_distinct (writtenFrom parts 0) [] (by simpa using storable.distinct)
  simp only [directory?, guard, if_true, Option.pure_def, Option.bind_eq_bind, Option.bind_some,
    read, listed, List.nil_append]

end Directories

section Ends

variable {mark limit : Nat}

/-- Where a mark stands below a limit, the last one below it stands there or later. -/
theorem lastMark?_found (marked : hasMark whole.toArray mark offset = true) (below : offset < limit) :
    ∃ last, lastMark? whole.toArray mark limit = some last ∧ offset ≤ last ∧ last < limit := by
  induction limit with
  | zero => exact absurd below (Nat.not_lt_zero _)
  | succ limit inductionHypothesis =>
    rw [lastMark?]
    split
    case isTrue => exact ⟨limit, rfl, Nat.le_of_lt_succ below, Nat.lt_succ_self _⟩
    case isFalse unmarked =>
      have further : offset ≠ limit := fun same => unmarked (same ▸ marked)
      obtain ⟨last, found, after, under⟩ := inductionHypothesis (by omega)
      exact ⟨last, found, after, by omega⟩

/-- A place that lacks the room for an end record leads nowhere. -/
theorem location?_short (short : whole.length < offset + 22) :
    location? whole.toArray offset = none := by
  rw [Option.eq_none_iff_forall_ne_some]
  intro location found
  simp only [location?, Option.bind_eq_bind, Option.bind_eq_some_iff] at found
  obtain ⟨_, _, _, _, _, _, _, _, _, _, _, comment, _⟩ := found
  rw [number?_beyond (by omega)] at comment
  cases comment

/-- Later places that look like an end record are passed over. -/
theorem openBefore_found {location : Location} {entries : List Entry} (fuel : Nat)
    (marked : hasMark whole.toArray endMark offset = true) (below : offset < limit)
    (last : whole.length = offset + 22) (leads : location? whole.toArray offset = some location)
    (read : directory? whole.toArray location = some entries) (enough : limit ≤ offset + fuel) :
    openBefore whole.toArray fuel limit = some entries := by
  induction fuel generalizing limit with
  | zero => omega
  | succ fuel inductionHypothesis =>
    obtain ⟨found, place, after, under⟩ := lastMark?_found marked below
    rw [openBefore, place]
    simp only [Option.bind_eq_bind, Option.bind_some]
    rcases Nat.eq_or_lt_of_le after with rfl | later
    · rw [leads, Option.bind_some, read]
    · rw [location?_short (by omega), Option.bind_none]
      exact inductionHypothesis later (by omega)

end Ends

/-- A container lists each name once. -/
theorem entries?_distinct {container : Bytes} {entries : List Entry}
    (listed : entries? container = some entries) : (entries.map (·.name)).Nodup := by
  have places (fuel limit : Nat) (opened : openBefore container.toArray fuel limit = some entries) :
      (entries.map (·.name)).Nodup := by
    induction fuel generalizing limit with
    | zero => cases opened
    | succ fuel inductionHypothesis =>
      rw [openBefore] at opened
      obtain ⟨offset, _, found⟩ := Option.bind_eq_some_iff.mp opened
      split at found
      · next directory =>
        cases found
        obtain ⟨place, _, read⟩ := Option.bind_eq_some_iff.mp directory
        simp only [directory?, Option.bind_eq_bind, Option.bind_eq_some_iff] at read
        obtain ⟨_, _, all, _, isList⟩ := read
        obtain rfl := Option.some.inj isList
        exact foldl_enlist_names all [] List.nodup_nil
      · exact inductionHypothesis offset found
  exact places _ _ listed

section Wholes

variable {parts : List (String × Bytes)}

/-- The end record that belongs to bytes and records of given lengths. -/
def endRecord (count records bytes : Nat) : Bytes :=
  ofLittleEndian 4 endMark ++ (ofLittleEndian 2 0 ++ (ofLittleEndian 2 0 ++ (ofLittleEndian 2 count
    ++ (ofLittleEndian 2 count ++ (ofLittleEndian 4 records ++ (ofLittleEndian 4 bytes
    ++ ofLittleEndian 2 0))))))

/-- A written container is its entries, their directory and the end record. -/
theorem write_eq (parts : List (String × Bytes)) :
    write parts = (writeEntries parts 0).1 ++ (writeEntries parts 0).2 ++
      endRecord parts.length (writeEntries parts 0).2.length (writeEntries parts 0).1.length := by
  simp only [write, endRecord, endMark, List.append_assoc]

/-- The end record leads to the directory that ends where it starts. -/
theorem location?_endRecord {count records bytes : Nat} (few : count < 65535)
    (small : bytes < 4294967295) (empty : count = 0 → records = 0)
    (present : count ≠ 0 → 0 < records ∧ hasMark whole.toArray directoryMark bytes = true)
    (ending : At whole (bytes + records) (endRecord count records bytes)) :
    location? whole.toArray (bytes + records) = some ⟨0, bytes, count, true⟩ := by
  have total := ending.fits
  simp only [endRecord, Bytes.at_append, List.length_append, Bytes.length_ofLittleEndian,
    Nat.add_assoc, Nat.reduceAdd] at ending total
  obtain ⟨-, diskAt, directoryDiskAt, hereAt, countAt, -, startAt, commentAt⟩ := ending
  have fewer : (count == 0xFFFF) = false := by simp; omega
  have smaller : (bytes == deferred) = false := by simp [deferred]; omega
  have room : bytes + (records + 22) ≤ whole.toArray.size := by simpa using total
  rw [location?]
  simp only [Nat.add_assoc, number?_at diskAt (by decide), number?_at directoryDiskAt (by decide),
    number?_at hereAt (show count < 256 ^ 2 by omega),
    number?_at countAt (show count < 256 ^ 2 by omega),
    number?_at startAt (show bytes < 256 ^ 4 by omega), number?_at commentAt (by decide),
    Option.bind_eq_bind, Option.bind_some, guard, Nat.reduceAdd, room, if_true, Option.pure_def,
    fewer, smaller, Bool.or_self, Bool.false_and, Bool.false_eq_true, if_false,
    Nat.add_sub_cancel_left]
  by_cases none : count = 0
  · simp [none, empty none]
  · obtain ⟨long, marked⟩ := present none
    obtain ⟨fewerRecords, rfl⟩ := Nat.exists_eq_add_of_le' (Nat.succ_le_of_lt long)
    simp [none, firstMark?, marked]

/-- The records of a directory that is not empty start with a mark. -/
theorem hasMark_records (present : parts ≠ [])
    (records : At whole offset (writeEntries parts 0).2) :
    0 < (writeEntries parts 0).2.length ∧ hasMark whole.toArray directoryMark offset = true := by
  match parts, present with
  | (name, content) :: rest, _ =>
    rw [writeEntries_cons] at records ⊢
    have first := records.front
    constructor
    · rw [List.length_append, (length_writeEntry name content 0).2]
      omega
    · simp only [writeEntry, Bytes.at_append, and_assoc] at first
      exact hasMark_at first.1 (by decide) rfl

/-- A written container reads back: its entries are those that were written, in their order. -/
theorem entries?_write (storable : Storable parts) :
    entries? (write parts) = some (writtenFrom parts 0) := by
  have pieces := Bytes.at_start (write parts)
  have length := congrArg List.length (write_eq parts)
  have small := storable.small
  have endLength (count records bytes : Nat) : (endRecord count records bytes).length = 22 := by
    simp [endRecord]
  rw [List.length_append, List.length_append, endLength] at length
  have placed : At (write parts) 0 ((writeEntries parts 0).1 ++ (writeEntries parts 0).2 ++
      endRecord parts.length (writeEntries parts 0).2.length (writeEntries parts 0).1.length) := by
    rw [← write_eq]; exact pieces
  have bytes := placed.front.front
  have records := placed.front.back
  have ending := placed.back
  rw [Nat.zero_add] at records
  rw [Nat.zero_add, List.length_append] at ending
  have marked : hasMark (write parts).toArray endMark
      ((writeEntries parts 0).1.length + (writeEntries parts 0).2.length) = true :=
    hasMark_at ending.front (by decide) rfl
  have leads := location?_endRecord storable.few (by omega)
    (fun none => by rw [List.length_eq_zero_iff.mp none]; rfl)
    (fun some => hasMark_records (fun none => some (by rw [none]; rfl)) records) ending
  have read := directory?_written storable records bytes (by omega)
  exact openBefore_found _ marked (by simp only [List.size_toArray]; omega) length leads read
    (by simp only [List.size_toArray]; omega)

/-- The entries that were written give back what they were made of. -/
theorem contents_write (parts : List (String × Bytes)) :
    List.Forall₂ (fun part entry => entry.name = part.1 ∧
      entry.content (write parts) = .ok part.2 ∧ entry.declaredSize = part.2.length)
      parts (writtenFrom parts 0) := by
  have placed := Bytes.at_start (write parts)
  rw [write_eq] at placed
  refine contents_written ?_
  rw [write_eq]
  exact placed.front.front

end Wholes

end Hotload.Zip
