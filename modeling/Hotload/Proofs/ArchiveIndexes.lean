import Hotload.Proofs.Places
import Hotload.Unit.Binding
import Mathlib.Data.List.Nodup
import Mathlib.Data.List.Induction
import Mathlib.Data.List.Sort

/-!
# The index of an archive

An archive is indexed entry by entry: an entry that defines a symbol replaces an earlier one for it,
and entries that define none are passed over. So the index has each symbol once, it has exactly the
symbols that some entry defines, and it leads to the last entry for each. The entries are taken one
after the other, so every law follows from what one entry does to an index.
-/

namespace Hotload

namespace UnitContent

/-- A directory defines no symbol: its name ends in a separator, that of a bytecode entry does
not. -/
theorem symbolName?_directory {entry : Zip.Entry} (directory : entry.isDirectory = true) :
    Symbol.symbolName? entry.name = none := by
  have noSuffix : Symbol.entryEnding.isSuffixOf entry.name.toList = false := by
    rw [← Bool.not_eq_true, List.isSuffixOf_iff_suffix]
    rintro ⟨stem, whole⟩
    have last : entry.name.toList.getLast? = some 's' := by
      rw [← whole, Symbol.entryEnding]; simp
    simp [Zip.Entry.isDirectory, last] at directory
  simp [Symbol.symbolName?, Symbol.stem?, noSuffix]

/-- What one entry does to an index, by the symbol that it defines. -/
theorem indexEntry_eq (index : List (String × String)) (entry : Zip.Entry) :
    indexEntry index entry =
      match Symbol.symbolName? entry.name with
      | some symbol => indexPut index symbol entry.name
      | none => index := by
  unfold indexEntry
  split
  case isTrue directory => rw [symbolName?_directory directory]
  case isFalse => rfl

section Puts

variable (index : List (String × String)) (symbol entry : String)

/-- The new entry is found under its symbol, and every other symbol leads where it led. -/
theorem lookup_indexPut (other : String) :
    (indexPut index symbol entry).lookup other =
      if other = symbol then some entry else index.lookup other := by
  have puts : indexPut index symbol entry =
      if index.any (·.1 = symbol) then
        index.map fun pair => if pair.1 = symbol then (symbol, entry) else pair
      else index ++ [(symbol, entry)] := by
    simp only [indexPut, beq_iff_eq]
    rfl
  rw [puts, Files.lookup_put]

/-- A symbol that is in the index keeps its place. -/
theorem indexPut_distinct (distinct : (index.map (·.1)).Nodup) :
    ((indexPut index symbol entry).map (·.1)).Nodup := by
  unfold indexPut
  split
  case isTrue =>
    have kept : (index.map fun pair => if pair.1 == symbol then (symbol, entry) else pair).map
        (·.1) = index.map (·.1) := by
      rw [List.map_map]
      refine List.map_congr_left fun pair _ => ?_
      simp only [Function.comp_apply]
      split
      · next same => exact (beq_iff_eq.mp same).symm
      · rfl
    rwa [kept]
  case isFalse unlisted =>
    rw [List.map_append, List.map_singleton]
    refine List.nodup_append'.mpr ⟨distinct, List.nodup_singleton _, fun other inside same => ?_⟩
    rw [List.mem_singleton.mp same] at inside
    obtain ⟨pair, member, here⟩ := List.mem_map.mp inside
    exact unlisted (List.any_eq_true.mpr ⟨pair, member, beq_iff_eq.mpr here⟩)

end Puts

/-- The last entry that defines a symbol. -/
def entryFor? (entries : List Zip.Entry) (symbol : String) : Option Zip.Entry :=
  entries.reverse.find? fun entry => Symbol.symbolName? entry.name = some symbol

/-- The index has each symbol once. -/
theorem indexOf_distinct (entries : List Zip.Entry) : ((indexOf entries).map (·.1)).Nodup := by
  induction entries using List.reverseRecOn with
  | nil => exact List.nodup_nil
  | append_singleton entries entry inductionHypothesis =>
    rw [indexOf, List.foldl_append, List.foldl_cons, List.foldl_nil, indexEntry_eq]
    split
    · exact indexPut_distinct _ _ _ inductionHypothesis
    · exact inductionHypothesis

/-- The index leads to the last entry that defines a symbol. -/
theorem lookup_indexOf (entries : List Zip.Entry) (symbol : String) :
    (indexOf entries).lookup symbol = (entryFor? entries symbol).map (·.name) := by
  induction entries using List.reverseRecOn with
  | nil => rfl
  | append_singleton entries entry inductionHypothesis =>
    rw [indexOf, List.foldl_append, List.foldl_cons, List.foldl_nil, indexEntry_eq, entryFor?,
      List.reverse_append, List.reverse_singleton, List.singleton_append, List.find?_cons]
    split
    · next defined named =>
      rw [lookup_indexPut, ← indexOf, inductionHypothesis, named]
      by_cases here : symbol = defined
      · simp [here]
      · have away : defined ≠ symbol := fun same => here same.symm
        simp [here, away, entryFor?]
    · next named =>
      rw [← indexOf, inductionHypothesis, named]
      simp [entryFor?]

/-- The index has exactly the symbols that the entries define. -/
theorem mem_indexOf (entries : List Zip.Entry) (symbol : String) :
    symbol ∈ (indexOf entries).map (·.1) ↔
      ∃ entry ∈ entries, Symbol.symbolName? entry.name = some symbol := by
  have found : symbol ∈ (indexOf entries).map (·.1) ↔
      ((indexOf entries).lookup symbol).isSome = true := by
    simp only [List.lookup_isSome_iff, List.mem_map, beq_iff_eq]
    exact exists_congr fun pair => and_congr_right fun _ => eq_comm
  rw [found, lookup_indexOf, entryFor?]
  simp

end UnitContent

namespace LoadedUnit

open UnitContent

/-- An archive lists its symbols in strict order. -/
theorem symbolNames_ascending {unit : LoadedUnit} {entries : List Zip.Entry}
    (archive : unit.content = .archive (indexOf entries)) :
    unit.symbolNames.Pairwise (· < ·) := by
  unfold symbolNames
  rw [archive]
  have ordered := List.pairwise_mergeSort' (· ≤ ·) ((indexOf entries).map (·.1))
  have distinct := (List.mergeSort_perm ((indexOf entries).map (·.1))
    fun left right : String => decide (left ≤ right)).nodup_iff.mpr (indexOf_distinct entries)
  exact (ordered.and distinct).imp fun both => Std.lt_of_le_of_ne both.1 both.2

/-- The symbols that an archive lists are those that its entries define. -/
theorem mem_symbolNames {unit : LoadedUnit} {entries : List Zip.Entry}
    (archive : unit.content = .archive (indexOf entries)) (symbol : String) :
    symbol ∈ unit.symbolNames ↔
      ∃ entry ∈ entries, Symbol.symbolName? entry.name = some symbol := by
  unfold symbolNames
  rw [archive, List.mem_mergeSort, mem_indexOf]

end LoadedUnit

end Hotload
