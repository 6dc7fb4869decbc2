import Hotload.Symbol.EntryPath

/-!
# Names and entry paths

A name becomes a path by taking its dots for separators and adding the ending, and an entry gives a
name by dropping the ending and taking its separators for dots. Neither way undoes the other: a dot
and a separator become one character on the way, and an entry has to have a name before its ending.
This module says for every name and every entry what comes back.
-/

namespace Hotload.Symbol

/-- A text with a dot in place of every separator. -/
def dotted (text : String) : String :=
  String.ofList (text.toList.map ofSeparator)

/-- A text cannot be the name of an entry without its ending: it is empty, or its last part is. -/
def EndsNameless (text : String) : Prop :=
  text = "" ∨ text.toList.getLast? = some '/'

instance (text : String) : Decidable (EndsNameless text) :=
  inferInstanceAs (Decidable (_ ∨ _))

/-- What every bytecode entry ends in, as a text. -/
theorem ofList_entryEnding : String.ofList entryEnding = ".class" := by
  decide

/-! ## Characters -/

theorem ofSeparator_toSeparator_eq (character : Char) :
    ofSeparator (toSeparator character) = ofSeparator character := by
  unfold toSeparator ofSeparator
  by_cases dot : character = '.' <;> simp [dot]

theorem toSeparator_ofSeparator_eq_self_iff {character : Char} :
    toSeparator (ofSeparator character) = character ↔ character ≠ '.' := by
  unfold toSeparator ofSeparator
  by_cases separator : character = '/'
  · simp [separator]
  · by_cases dot : character = '.'
    · simp [dot]
    · simp [separator, dot]

theorem ofSeparator_eq_self_iff {character : Char} :
    ofSeparator character = character ↔ character ≠ '/' := by
  unfold ofSeparator
  by_cases separator : character = '/'
  · simp [separator]
  · simp [separator]

theorem toSeparator_eq_separator_iff {character : Char} :
    toSeparator character = '/' ↔ character = '.' ∨ character = '/' := by
  unfold toSeparator
  by_cases dot : character = '.' <;> simp [dot]

/-- A function leaves a list alone just if it leaves its members alone. -/
theorem map_eq_self_iff {change : Char → Char} {characters : List Char} :
    characters.map change = characters ↔ ∀ character ∈ characters, change character = character := by
  constructor
  · intro same
    exact List.map_inj_left.mp (same.trans (List.map_id characters).symm)
  · intro each
    exact (List.map_inj_left.mpr each).trans (List.map_id characters)

/-- A text stays as it is just if it has no separator. -/
theorem dotted_eq_self_iff {text : String} : dotted text = text ↔ '/' ∉ text.toList := by
  rw [dotted, ← String.toList_inj, String.toList_ofList, map_eq_self_iff]
  simp only [ofSeparator_eq_self_iff]
  exact ⟨fun all inside => all _ inside rfl, fun none_ _ inside same => none_ (same ▸ inside)⟩

/-! ## From entries to names -/

/-- An entry has a stem just if it ends in the ending. -/
theorem stem?_eq_some_iff {entry stem : List Char} :
    stem? entry = some stem ↔ entry = stem ++ entryEnding := by
  unfold stem?
  constructor
  · intro ends
    split at ends
    · next suffix =>
      obtain ⟨before, rfl⟩ := List.isSuffixOf_iff_suffix.mp suffix
      simp only [List.length_append, Nat.add_sub_cancel, List.take_left, Option.some.injEq] at ends
      rw [ends]
    · cases ends
  · rintro rfl
    rw [if_pos (List.isSuffixOf_iff_suffix.mpr (List.suffix_append _ _))]
    simp

/-- The name of an entry, given its stem. -/
theorem symbolName?_append (stem : String) :
    symbolName? (stem ++ ".class") = if EndsNameless stem then none else some (dotted stem) := by
  have ends : stem? (stem ++ ".class").toList = some stem.toList :=
    stem?_eq_some_iff.mpr (by rw [← ofList_entryEnding, String.toList_append, String.toList_ofList])
  unfold symbolName?
  rw [ends]
  by_cases nameless : EndsNameless stem
  · rw [if_pos nameless]
    have unnamed : (stem.toList.isEmpty || decide (stem.toList.getLast? = some '/')) = true := by
      rcases nameless with rfl | separated
      · rfl
      · simp [separated]
    simp only [unnamed, ↓reduceIte]
  · rw [if_neg nameless]
    obtain ⟨filled, closed⟩ := not_or.mp nameless
    have named : (stem.toList.isEmpty || decide (stem.toList.getLast? = some '/')) = false := by
      simp [closed, filled]
    simp only [named, Bool.false_eq_true, ↓reduceIte]
    rfl

/-- The entries that stand for symbols, and the symbols that they stand for. -/
theorem symbolName?_eq_some_iff {entry name : String} :
    symbolName? entry = some name ↔
      ∃ stem, entry = stem ++ ".class" ∧ ¬ EndsNameless stem ∧ name = dotted stem := by
  constructor
  · intro named
    obtain ⟨stem, rfl⟩ : ∃ stem, entry = stem ++ ".class" := by
      unfold symbolName? at named
      split at named
      · cases named
      · next stem ends =>
        refine ⟨String.ofList stem, ?_⟩
        rw [← ofList_entryEnding, ← String.toList_inj, String.toList_append, String.toList_ofList,
          String.toList_ofList]
        exact stem?_eq_some_iff.mp ends
    rw [symbolName?_append] at named
    split at named
    · cases named
    · next stands => exact ⟨stem, rfl, stands, (Option.some.inj named).symm⟩
  · rintro ⟨stem, rfl, stands, rfl⟩
    rw [symbolName?_append, if_neg stands]

/-! ## From names to entries and back -/

/-- A path is a stem with the ending. -/
theorem entryPath_eq (name : String) :
    entryPath name = String.ofList (name.toList.map toSeparator) ++ ".class" := by
  rw [← ofList_entryEnding, ← String.toList_inj]
  simp [entryPath]

/-- What comes back from the path of a name. -/
theorem symbolName?_entryPath_eq (name : String) :
    symbolName? (entryPath name) =
      if EndsNameless name ∨ name.toList.getLast? = some '.' then none else some (dotted name) := by
  have nameless : EndsNameless (String.ofList (name.toList.map toSeparator)) ↔
      EndsNameless name ∨ name.toList.getLast? = some '.' := by
    unfold EndsNameless
    rw [String.toList_ofList, List.getLast?_map, Option.map_eq_some_iff]
    simp only [toSeparator_eq_separator_iff, ← String.toList_inj, String.toList_ofList]
    simp only [String.toList_empty, List.map_eq_nil_iff]
    constructor
    · rintro (empty | ⟨last, ends, rfl | rfl⟩)
      · exact .inl (.inl empty)
      · exact .inr ends
      · exact .inl (.inr ends)
    · rintro ((empty | ends) | ends)
      · exact .inl empty
      · exact .inr ⟨_, ends, .inr rfl⟩
      · exact .inr ⟨_, ends, .inl rfl⟩
  have back : dotted (String.ofList (name.toList.map toSeparator)) = dotted name := by
    rw [dotted, dotted, String.toList_ofList, List.map_map]
    exact congrArg String.ofList (List.map_congr_left fun character _ =>
      ofSeparator_toSeparator_eq character)
  rw [entryPath_eq, symbolName?_append, back]
  simp only [nameless]

/-- The path of a dotted stem is that of the stem just if the stem had no dot before. -/
theorem entryPath_dotted_eq_iff {stem : String} :
    entryPath (dotted stem) = stem ++ ".class" ↔ '.' ∉ stem.toList := by
  rw [entryPath_eq, String.append_left_inj, ← String.toList_inj, String.toList_ofList, dotted,
    String.toList_ofList, List.map_map, map_eq_self_iff]
  simp only [Function.comp_apply, toSeparator_ofSeparator_eq_self_iff]
  exact ⟨fun all inside => all _ inside rfl, fun none_ _ inside same => none_ (same ▸ inside)⟩

/-- Names and entries, each way and back. A name has no way back if it is empty or ends in a dot or
a separator, and comes back with its separators turned into dots otherwise; so just the names
without separator that end in no dot come back as they were. The entries that stand for symbols are
those with a stem before the ending that is not empty and ends in no separator. An entry comes back
from its symbol just if its stem has no dot. All of it is read off one equation for the way there
and back. -/
theorem symbolName?_inverts_entryPath :
    (∀ name, symbolName? (entryPath name) = none ↔
      name = "" ∨ name.toList.getLast? = some '/' ∨ name.toList.getLast? = some '.') ∧
    (∀ name, symbolName? (entryPath name) = none ∨
      symbolName? (entryPath name) = some (dotted name)) ∧
    (∀ name, symbolName? (entryPath name) = some name ↔
      name ≠ "" ∧ '/' ∉ name.toList ∧ name.toList.getLast? ≠ some '.') ∧
    (∀ entry name, symbolName? entry = some name ↔
      ∃ stem, entry = stem ++ ".class" ∧ stem ≠ "" ∧ stem.toList.getLast? ≠ some '/' ∧
        name = dotted stem) ∧
    ∀ stem, entryPath (dotted stem) = stem ++ ".class" ↔ '.' ∉ stem.toList := by
  refine ⟨fun name => ?_, fun name => ?_, fun name => ?_, fun entry name => ?_,
    fun stem => entryPath_dotted_eq_iff⟩
  · rw [symbolName?_entryPath_eq, ite_eq_left_iff]
    simp only [EndsNameless, reduceCtorEq, imp_false, Decidable.not_not, or_assoc]
  · rw [symbolName?_entryPath_eq]
    split
    · exact .inl rfl
    · exact .inr rfl
  · rw [symbolName?_entryPath_eq, Option.ite_none_left_eq_some, Option.some.injEq,
      dotted_eq_self_iff]
    simp only [EndsNameless, not_or]
    exact ⟨fun ⟨⟨⟨filled, _⟩, ended⟩, whole⟩ => ⟨filled, whole, ended⟩, fun ⟨filled, whole, ended⟩ =>
      ⟨⟨⟨filled, fun ends => whole (List.mem_of_getLast? ends)⟩, ended⟩, whole⟩⟩
  · simp only [symbolName?_eq_some_iff, EndsNameless, not_or, and_assoc]

end Hotload.Symbol
