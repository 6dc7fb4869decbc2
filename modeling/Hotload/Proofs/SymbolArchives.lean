import Hotload.Proofs.EntryPaths
import Hotload.Proofs.RegisteredArtifacts

/-!
# Archives of one symbol

The bytecode of a symbol is packaged under the path that its name stands for, and an archive is
indexed by the names that its paths stand for. Proper names come back from their paths. So an
artifact that is a copy of such an archive binds to a unit that has just the symbol, and the body of
the symbol is the bytecode that was packaged.
-/

namespace Hotload

namespace Symbol

/-- A name that comes back from its path: it is not empty, holds no separator, and does not end in
a dot. -/
structure Proper (name : String) : Prop where
  present : name ≠ ""
  whole : '/' ∉ name.toList
  ended : name.toList.getLast? ≠ some '.'

/-- The path of a proper name stands for the name. -/
theorem symbolName?_entryPath {name : String} (proper : Proper name) :
    symbolName? (entryPath name) = some name := by
  have comesBack : ¬ (EndsNameless name ∨ name.toList.getLast? = some '.') := by
    rintro ((empty | ends) | ends)
    · exact proper.present empty
    · exact proper.whole (List.mem_of_getLast? ends)
    · exact proper.ended ends
  rw [symbolName?_entryPath_eq, if_neg comesBack, dotted_eq_self_iff.mpr proper.whole]

end Symbol

namespace Zip

/-- The archive of one symbol. -/
def ofSymbol (name : String) (content : Bytes) : Bytes :=
  write [(Symbol.entryPath name, content)]

/-- The archive of one symbol is not empty. -/
theorem ofSymbol_filled (name : String) (content : Bytes) : (ofSymbol name content).length ≠ 0 := by
  simp [ofSymbol, write, Bytes.length_ofLittleEndian]

/-- The archive of a symbol lists one entry, for the symbol. -/
structure Lists (name : String) (content : Bytes) (entry : Entry) : Prop where
  list : entries? (ofSymbol name content) = some [entry]
  restores : Restores (ofSymbol name content) (Symbol.entryPath name, content) entry

/-- The archive of a symbol lists one entry if it reads back. -/
theorem exists_lists {name : String} {content : Bytes}
    (readsBack : ReadsBack [(Symbol.entryPath name, content)]) : ∃ entry, Lists name content entry := by
  obtain ⟨listed, list, restores⟩ := readsBack
  obtain ⟨entry, rest, restored, others, rfl⟩ := List.forall₂_cons_left_iff.mp restores
  obtain rfl := List.forall₂_nil_left_iff.mp others
  exact ⟨entry, list, restored⟩

end Zip

/-- A symbol that can be packaged: its name comes back from its path, and its archive fits into the
format. -/
structure Packable (name : String) (content : Bytes) : Prop where
  proper : Symbol.Proper name
  storable : Zip.Storable [(Symbol.entryPath name, content)]

/-- What fits into the format reads back. -/
theorem Packable.readsBack {name : String} {content : Bytes} (packable : Packable name content) :
    Zip.ReadsBack [(Symbol.entryPath name, content)] :=
  readsBack_of_storable packable.storable

namespace UnitContent

open Zip (Lists)

variable {files : Files} {artifact name : String} {content : Bytes} {entry : Zip.Entry}

/-- The index of the archive leads from the symbol to its entry. -/
theorem lookup_ofSymbol (proper : Symbol.Proper name) (lists : Lists name content entry) :
    (indexOf [entry]).lookup name = some entry.name := by
  have named : Symbol.symbolName? entry.name = some name := by
    rw [lists.restores.name]
    exact Symbol.symbolName?_entryPath proper
  rw [lookup_indexOf, entryFor?]
  simp [named]

/-- A copy of the archive binds to that index. -/
theorem bind_ofSymbol (lists : Lists name content entry) {location : Location} {modified : Int}
    (shown : files.shown? artifact = some (location, .file (Zip.ofSymbol name content) modified)) :
    bind .archive files artifact = .ok (.archive (indexOf [entry])) := by
  have isOpen := openArtifact_of_read (Files.read_of_shown shown) lists.list
  simp only [bind, bindArchive, artifactSize_of_shown shown, if_neg (Zip.ofSymbol_filled _ _), isOpen]

/-- The body of the symbol is what was packaged. -/
theorem readBody_ofSymbol (lists : Lists name content entry)
    (isRead : files.read artifact = .ok (Zip.ofSymbol name content)) :
    readBody files artifact entry.name = .body content :=
  readBody_of_restores isRead lists.list lists.restores List.mem_cons_self

end UnitContent

end Hotload
