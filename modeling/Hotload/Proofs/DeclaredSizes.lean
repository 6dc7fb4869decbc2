import Hotload.Proofs.ArchiveIndexes
import Hotload.Proofs.RegistrationRuns
import Hotload.Proofs.SearchCircles
import Hotload.Proofs.WrittenContainers

/-!
# Sizes that entries declare

Before the body of a symbol is read, room is made for as many bytes as its entry declares. Nothing
compares that size with the bytes that are there, and a container can declare any size of eight
bytes. A failure to read a body is an answer like others, which a search passes over; having no room
is none. So an archive that is bound without an error ends the program as soon as a search comes to
an entry of it that declares too much, and what other units have is not looked at any more. The laws
below say that nothing else about an archive does so.
-/

namespace Hotload

namespace Zip

/-- A container whose one entry has one byte; the digits spell the size that the entry declares. -/
def declaring (digits : Bytes) : Bytes :=
  [0x50, 0x4b, 3, 4, 20, 0, 0, 0, 0, 0, 0, 0, 0x21, 0, 0x83, 0x16, 0xdc, 0x8c, 1, 0, 0, 0,
      1, 0, 0, 0, 7, 0, 0, 0, 0x5a, 0x2e, 0x63, 0x6c, 0x61, 0x73, 0x73, 0x78,
    0x50, 0x4b, 1, 2, 45, 3, 45, 0, 0, 0, 0, 0, 0, 0, 0x21, 0, 0x83, 0x16, 0xdc, 0x8c, 1, 0, 0, 0,
      0xff, 0xff, 0xff, 0xff, 7, 0, 12, 0, 0, 0, 0, 0, 0, 0, 0, 0, 0, 0, 0, 0, 0, 0,
      0x5a, 0x2e, 0x63, 0x6c, 0x61, 0x73, 0x73, 1, 0, 8, 0]
    ++ digits
    ++ [0x50, 0x4b, 5, 6, 0, 0, 0, 0, 1, 0, 1, 0, 0x41, 0, 0, 0, 0x26, 0, 0, 0, 0, 0]

/-- How the name of that entry is spelled, which is `Z.class`. -/
def declaredName : Bytes :=
  [0x5a, 0x2e, 0x63, 0x6c, 0x61, 0x73, 0x73]

/-- What the directory of that container says about the entry. -/
def declaringEntry (digits : Bytes) : Entry :=
  ⟨ofCodePage declaredName, .stored, false, 0x8cdc1683, 1, Bytes.littleEndian digits, 0, 37⟩

variable {digits : Bytes}

/-- Whatever the eight digits are, the record of the entry can be read. -/
theorem readEntry?_declaring (eight : digits.length = 8) :
    readEntry? (declaring digits).toArray ⟨0, 38, 1, true⟩ 38 =
      some (declaringEntry digits, 103) := by
  match digits, eight with
  | [first, second, third, fourth, fifth, sixth, seventh, eighth], _ =>
    unfold readEntry? declaringEntry
    -- What stands in the record is evaluated, but no text, so how names are spelled is kept out.
    generalize ofCodePage = decode
    cbv

/-- Whatever the eight digits are, the directory of the container can be read. -/
theorem entries?_declaring (eight : digits.length = 8) :
    entries? (declaring digits) = some [declaringEntry digits] := by
  have length : (declaring digits).length = 38 + 65 + 22 := by simp [declaring, eight]
  have recordMarked : hasMark (declaring digits).toArray directoryMark 38 = true :=
    hasMark_at ⟨(declaring digits).take 38, (declaring digits).drop 42, rfl, rfl⟩
      (by decide) rfl
  have ending : Bytes.At (declaring digits) (38 + 65) (endRecord 1 65 38) := by
    have place := (Bytes.at_start (declaring digits)).back
    rwa [Nat.zero_add, List.length_append, eight] at place
  have marked : hasMark (declaring digits).toArray endMark (38 + 65) = true :=
    hasMark_at ending.front (by decide) rfl
  have leads : location? (declaring digits).toArray (38 + 65) = some ⟨0, 38, 1, true⟩ :=
    location?_endRecord (by decide) (by decide) (by decide) (fun _ => ⟨by decide, recordMarked⟩)
      ending
  have read : directory? (declaring digits).toArray ⟨0, 38, 1, true⟩ =
      some [declaringEntry digits] := by
    simp [directory?, readEntries?, readEntry?_declaring eight, enlist]
  exact openBefore_found _ marked (by simp [length]) length leads read
    (by simp only [List.size_toArray]; omega)

/-- Every size of eight bytes is declared by an entry of some container, which can be unpacked. -/
theorem exists_declaring {size : Nat} (fits : size < 2 ^ 64) :
    ∃ container entry, entries? container = some [entry] ∧
      Symbol.symbolName? entry.name = some "Z" ∧ entry.content container = .ok [0x78] ∧
        entry.declaredSize = size := by
  have listed := entries?_declaring (Bytes.length_ofLittleEndian 8 size)
  have stands : Symbol.symbolName? (ofCodePage declaredName) = some "Z" := by decide +kernel
  refine ⟨_, _, listed, stands, ?_, Bytes.littleEndian_ofLittleEndian 8 size fits⟩
  have packed : Bytes.slice (declaring (Bytes.ofLittleEndian 8 size)) 37 1 = [0x78] := rfl
  have checksum : (Digest.Crc32.checksum [0x78]).toNat = 0x8cdc1683 := by decide +kernel
  simp [declaringEntry, Entry.content, Entry.verified, packed, checksum]

end Zip

namespace UnitContent

variable {files : Files} {artifact entryName : String}

/-- An entry that can be unpacked but declares more bytes than there is room for. Whether its
content is as the checksum says does not matter: the room is made before. -/
structure Overstates (container : Bytes) (entry : Zip.Entry) : Prop where
  supported : entry.content container ≠ .error .unsupported
  size : addressLimit ≤ entry.declaredSize

/-- The entry of a name in an artifact overstates its size. -/
def Overstated (files : Files) (artifact entryName : String) : Prop :=
  ∃ container entries entry, openArtifact files artifact = .ok (container, entries) ∧
    entries.find? (·.name == entryName) = some entry ∧ Overstates container entry

/-- Reading an entry ends the program exactly if the entry overstates its size. -/
theorem readBody_crashed_iff_overstates {container : Bytes} {entries : List Zip.Entry}
    {entry : Zip.Entry} (opened : openArtifact files artifact = .ok (container, entries))
    (found : entries.find? (·.name == entryName) = some entry) (crash : Crash) :
    readBody files artifact entryName = .crashed crash ↔
      crash = .exhausted ∧ Overstates container entry := by
  unfold readBody
  rw [opened]
  dsimp only
  rw [found]
  dsimp only
  by_cases large : addressLimit ≤ entry.declaredSize
  · cases content : entry.content container with
    | ok body =>
      have overstates : Overstates container entry := ⟨by simp [content], large⟩
      simp [large, overstates, eq_comm]
    | error problem =>
      cases problem with
      | unsupported =>
        have refused : ¬Overstates container entry := fun overstates => overstates.supported content
        simp [refused]
      | damaged =>
        have overstates : Overstates container entry := ⟨by simp [content], large⟩
        simp [large, overstates, eq_comm]
  · have modest : ¬Overstates container entry := fun overstates => large overstates.size
    cases entry.content container with
    | ok body => simp [large, modest]
    | error problem => cases problem <;> simp [large, modest]

/-- Reading from an artifact, which may have changed since it was bound, ends the program exactly if
the entry is there and overstates its size. -/
theorem readBody_crashed_iff (files : Files) (artifact entryName : String) (crash : Crash) :
    readBody files artifact entryName = .crashed crash ↔
      crash = .exhausted ∧ Overstated files artifact entryName := by
  constructor
  · intro crashed
    cases opened : openArtifact files artifact with
    | error problem => simp [readBody, opened] at crashed
    | ok pair =>
      obtain ⟨container, entries⟩ := pair
      cases found : entries.find? (·.name == entryName) with
      | none => simp [readBody, opened, found] at crashed
      | some entry =>
        obtain ⟨same, overstates⟩ := (readBody_crashed_iff_overstates opened found crash).mp crashed
        exact ⟨same, container, entries, entry, opened, found, overstates⟩
  · rintro ⟨same, container, entries, entry, opened, found, overstates⟩
    exact (readBody_crashed_iff_overstates opened found crash).mpr ⟨same, overstates⟩

/-- Of an artifact that can be opened, the entry that is read is the one that counts. -/
theorem overstated_iff {container : Bytes} {entries : List Zip.Entry} {entry : Zip.Entry}
    (opened : openArtifact files artifact = .ok (container, entries))
    (found : entries.find? (·.name == entryName) = some entry) :
    Overstated files artifact entryName ↔ Overstates container entry := by
  have law := (readBody_crashed_iff files artifact entryName .exhausted).symm.trans
    (readBody_crashed_iff_overstates opened found .exhausted)
  simpa using law

/-- An archive that is bound has an entry for every symbol of its index. -/
theorem bind_leads {index : List (String × String)} {symbol : String}
    (bound : bind .archive files artifact = .ok (.archive index))
    (indexed : index.lookup symbol = some entryName) :
    ∃ container entries entry, openArtifact files artifact = .ok (container, entries) ∧
      entries.find? (·.name == entryName) = some entry ∧
        Symbol.symbolName? entry.name = some symbol := by
  unfold bind bindArchive at bound
  dsimp only at bound
  split at bound
  · cases bound
  · split at bound
    · cases bound
    · split at bound
      · cases bound
      · next container entries opened =>
        obtain rfl : indexOf entries = index := by simpa using bound
        rw [lookup_indexOf, Option.map_eq_some_iff] at indexed
        obtain ⟨last, isLast, rfl⟩ := indexed
        have listed : last ∈ entries := List.mem_reverse.mp (List.mem_of_find?_eq_some isLast)
        obtain ⟨entry, found⟩ : ∃ entry, entries.find? (·.name == last.name) = some entry :=
          Option.isSome_iff_exists.mp (List.find?_isSome.mpr ⟨last, listed, beq_self_eq_true _⟩)
        have sameName : entry.name = last.name := by simpa using List.find?_some found
        refine ⟨container, entries, entry, opened, found, ?_⟩
        rw [sameName]
        simpa using List.find?_some isLast

end UnitContent

namespace Session

open Relation (ReflTransGen)
open UnitContent (Overstated Overstates addressLimit)

variable {session : Session} {name : String}

/-! ## Which searches run out of room -/

/-- A unit does not have the symbol yet, and its index leads to an entry that overstates its
size. -/
def Overreaches (session : Session) (name : String) (id : Nat) : Prop :=
  ∃ unit index entryName, session.units.get? id = some unit ∧ unit.resolved.lookup name = none ∧
    unit.content = .archive index ∧ index.lookup name = some entryName ∧
      Overstated session.files unit.artifact entryName

theorem overreaches_iff {id : Nat} {unit : LoadedUnit} {index : List (String × String)}
    {entryName : String} (present : session.units.get? id = some unit)
    (content : unit.content = .archive index) (indexed : index.lookup name = some entryName) :
    session.Overreaches name id ↔
      unit.resolved.lookup name = none ∧ Overstated session.files unit.artifact entryName := by
  constructor
  · rintro ⟨_, _, _, there, fresh, archive, leads, overstated⟩
    obtain rfl := Option.some.inj (present.symm.trans there)
    obtain rfl := UnitContent.archive.inj (content.symm.trans archive)
    obtain rfl := Option.some.inj (indexed.symm.trans leads)
    exact ⟨fresh, overstated⟩
  · rintro ⟨fresh, overstated⟩
    exact ⟨unit, index, entryName, present, fresh, content, indexed, overstated⟩

/-- Of what a unit has itself, only an overstated size ends the program. -/
theorem ownReply_crashed_iff (session : Session) (name : String) (id : Nat) (crash : Crash) :
    session.ownReply name id = .crashed crash ↔
      crash = .exhausted ∧ session.Overreaches name id := by
  constructor
  · intro crashed
    unfold ownReply at crashed
    split at crashed
    · cases crashed
    · next unit present =>
      split at crashed
      · cases crashed
      · next fresh =>
        split at crashed
        · next index content =>
          split at crashed
          · cases crashed
          · next entryName indexed =>
            split at crashed
            · cases crashed
            · cases crashed
            · next read =>
              cases crashed
              obtain ⟨same, overstated⟩ :=
                (UnitContent.readBody_crashed_iff _ _ _ _).mp read
              exact ⟨same, unit, index, entryName, present, fresh, content, indexed, overstated⟩
        · split at crashed
          · cases crashed
          · split at crashed <;> cases crashed
  · rintro ⟨rfl, unit, index, entryName, present, fresh, content, indexed, overstated⟩
    have read := (UnitContent.readBody_crashed_iff _ _ _ _).mpr ⟨rfl, overstated⟩
    simp only [ownReply, present, fresh, content, indexed, read]

/-- Whoever asks a loader that crashes crashes as well. -/
theorem Asks.crashes {asking asked : Loader} (asks : session.Asks name asking asked) {crash : Crash}
    (crashed : session.reply name asked = .crashed crash) :
    session.reply name asking = .crashed crash := by
  rw [reply_eq]
  exact (replyOf_crashed_iff session name _ asking crash).mpr (.inr ⟨asked, asks, crashed⟩)

/-- A search within a depth that runs out of room comes to a unit that overreaches. The induction is
on the depth: none of those that are asked there goes round for ever, so they are the ones that are
asked without a bound. -/
theorem exists_overreaches {depth : Nat} {loader : Loader}
    (crashed : session.replyWithin name depth loader = .crashed .exhausted) :
    ∃ id, ReflTransGen (session.Asks name) loader (.unit id) ∧ session.Overreaches name id := by
  induction depth generalizing loader with
  | zero => cases crashed
  | succ depth inductionHypothesis =>
    have ended : session.replyWithin name (depth + 1) loader ≠ .crashed .endless := by
      rw [crashed]
      simp
    rw [replyWithin_succ] at crashed ended
    rw [ne_eq, replyOf_endless_iff] at ended
    have same : session.askedBy name (session.reply name) loader =
        session.askedBy name (session.replyWithin name depth) loader :=
      upToHit_congr fun asked asks =>
        replyWithin_settles_reply session name depth asked fun endless =>
          ended ⟨asked, asks, endless⟩
    rcases (replyOf_crashed_iff session name _ loader _).mp crashed with
      ⟨id, rfl, own⟩ | ⟨asked, asks, further⟩
    · exact ⟨id, .refl, ((session.ownReply_crashed_iff name id _).mp own).2⟩
    · obtain ⟨id, reached, overreaches⟩ := inductionHypothesis further
      have first : session.Asks name loader asked := by
        unfold Asks
        rwa [same]
      exact ⟨id, .head first reached, overreaches⟩

/-- A search runs out of room exactly if it comes to a unit that overreaches. -/
theorem reply_exhausted_iff (session : Session) (name : String) (loader : Loader) :
    session.reply name loader = .crashed .exhausted ↔
      ∃ id, ReflTransGen (session.Asks name) loader (.unit id) ∧ session.Overreaches name id := by
  constructor
  · exact exists_overreaches
  · rintro ⟨id, reached, overreaches⟩
    have own := (session.ownReply_crashed_iff name id _).mpr ⟨rfl, overreaches⟩
    induction reached using ReflTransGen.head_induction_on with
    | refl =>
      rw [reply_eq]
      exact (replyOf_crashed_iff session name _ _ _).mpr (.inl ⟨id, rfl, own⟩)
    | head asks _ crashed => exact asks.crashes crashed

/-- A unit with a symbol in its index does not ask its parent for it. -/
theorem reply_unit_indexed {id : Nat} {unit : LoadedUnit} {index : List (String × String)}
    {entryName : String} (present : session.units.get? id = some unit)
    (content : unit.content = .archive index) (indexed : index.lookup name = some entryName) :
    session.reply name (.unit id) = session.ownReply name id := by
  have own : session.ownReply name id ≠ .absent := by
    unfold ownReply
    rw [present]
    dsimp only
    split
    · simp
    · rw [content]
      dsimp only
      rw [indexed]
      dsimp only
      split <;> simp
  rw [reply_eq, replyOf]
  cases answer : session.ownReply name id with
  | absent => exact absurd answer own
  | found | failed | crashed => rfl

/-! ## Look-ups -/

/-- An archive whose index has a symbol answers a look-up of it, with the symbol or with a failure,
unless the entry for it declares more bytes than there is room for: then the look-up ends the
program, and so does every search through units and resolvers that comes to the archive. Nothing
else exhausts a search, and there is a readable entry for every size. A search goes on from a loader
to those that it `Asks`, so it is exhausted just if some unit on its way overreaches. -/
theorem lookups_exhausted_iff (session : Session) (name : String) :
    (∀ id unit index entryName, session.units.get? id = some unit →
        unit.content = .archive index → index.lookup name = some entryName →
        UnitContent.bind .archive session.files unit.artifact = .ok unit.content →
        ∃ container entries entry,
          UnitContent.openArtifact session.files unit.artifact = .ok (container, entries) ∧
            entries.find? (·.name == entryName) = some entry ∧
              Symbol.symbolName? entry.name = some name ∧
                ∀ crash, (session.find (.unit id) name).2 = .crashed crash ↔
                  crash = .exhausted ∧ unit.resolved.lookup name = none ∧
                    Overstates container entry) ∧
      (∀ id resolver, session.resolvers.get? id = some resolver →
        (session.findRegistered id name).2 =
            Answer.firstHit ((resolver.registry.recentFirst.map .unit).map (session.reply name)) ∧
          ((session.findRegistered id name).2 = .crashed .exhausted ↔
            ∃ asked ∈ upToHit (session.reply name) (resolver.registry.recentFirst.map .unit),
              ∃ other, ReflTransGen (session.Asks name) asked (.unit other) ∧
                session.Overreaches name other)) ∧
      (∀ id, (session.loadSymbol id name).2 = .error (.crash .exhausted) ↔
        ∃ other, ReflTransGen (session.Asks name) (.resolver id) (.unit other) ∧
          session.Overreaches name other) ∧
      ∀ size < 2 ^ 64, ∃ container entry, Zip.entries? container = some [entry] ∧
        Symbol.symbolName? entry.name = some "Z" ∧ entry.content container = .ok [0x78] ∧
          entry.declaredSize = size := by
  refine ⟨?_, ?_, ?_, fun size fits => Zip.exists_declaring fits⟩
  · intro id unit index entryName present content indexed bound
    rw [content] at bound
    obtain ⟨container, entries, entry, opened, found, stands⟩ :=
      UnitContent.bind_leads bound indexed
    refine ⟨container, entries, entry, opened, found, stands, fun crash => ?_⟩
    change session.reply name (.unit id) = .crashed crash ↔ _
    rw [reply_unit_indexed present content indexed, ownReply_crashed_iff,
      overreaches_iff present content indexed, UnitContent.overstated_iff opened found]
  · intro id resolver present
    have inTurn : (session.findRegistered id name).2 =
        Answer.firstHit ((resolver.registry.recentFirst.map .unit).map (session.reply name)) := by
      rw [findRegistered_eq present, List.map_map]
      rfl
    refine ⟨inTurn, ?_⟩
    rw [inTurn, firstHit_crashed_iff]
    simp only [reply_exhausted_iff]
  · intro id
    rw [← reply_exhausted_iff, loadSymbol_result]
    cases session.reply name (.resolver id) <;> simp [Answer.toResult]

/-- A resolver with a registered archive whose one entry declares 2 ^ 62 bytes. -/
def overdrawn : Session :=
  (perform
    { files := ⟨[(["tmp"], .directory), (["tmp", "work"], .directory),
        (["tmp", "work", "a.zip"], .file (Zip.declaring [0, 0, 0, 0, 0, 0, 0, 0x40]) 0)], 0⟩ }
    (.openResolver "loader" {} (fun _ files => (files, .ok ⟨some 0, ""⟩)) .archive none)).perform
    (.register 1 "a" "a.zip" none)

/-- The search of a resolver comes to a registered archive whose one entry declares `2 ^ 62` bytes.
The unit overreaches, so loading the symbol ends the program. -/
theorem lookups_overdrawn :
    overdrawn.Overreaches "Z" 2 ∧
      (overdrawn.loadSymbol 1 "Z").2 = .error (.crash .exhausted) := by
  have overreaches : overdrawn.Overreaches "Z" 2 :=
    ((overdrawn.ownReply_crashed_iff "Z" 2 .exhausted).mp (by decide +kernel)).2
  have asks : overdrawn.Asks "Z" (.resolver 1) (.unit 2) := by
    unfold Asks
    decide +kernel
  exact ⟨overreaches, ((lookups_exhausted_iff overdrawn "Z").2.2.1 1).mpr
    ⟨2, .single asks, overreaches⟩⟩

/-- An archive was bound and has a symbol whose entry declares `2 ^ 62` bytes. Neither the unit nor
the registry nor the resolver has an answer to a look-up of it: all three end the program. -/
theorem overdrawn_exhausted :
    UnitContent.bind .archive overdrawn.files "a.zip" = .ok (.archive [("Z", "Z.class")]) ∧
      (overdrawn.units.get? 2).map (·.content) = some (.archive [("Z", "Z.class")]) ∧
        (overdrawn.find (.unit 2) "Z").2 = .crashed .exhausted ∧
          (overdrawn.findRegistered 1 "Z").2 = .crashed .exhausted ∧
            (overdrawn.loadSymbol 1 "Z").2 = .error (.crash .exhausted) := by
  decide +kernel

end Session

end Hotload
