import Hotload.Proofs.WrittenValues

/-!
# Documents as they are written

A document is written as lines that set keys, and then as groups of such lines under headers. It is
read back with the values of all its lines, if every value is spelled so that it can be read back, and
if no two keys of a table agree. The law of a whole document goes through its lines: what remains of
it, together with what was read, completes it.
-/

namespace Hotload.Toml

/-- An item under a new key comes last. -/
theorem Entries.put_new {entries : Entries} {key : String} (new : entries.lookup key = none)
    (item : Item) : entries.put key item = entries ++ [(key, item)] := by
  have absent : entries.any (·.1 == key) = false := by
    rw [List.any_eq_false]
    intro entry member same
    have differs := List.lookup_eq_none_iff.mp new entry member
    rw [beq_iff_eq] at same
    simp [same] at differs
  rw [put, absent, if_neg Bool.false_ne_true]

/-- Under another key there is still nothing. -/
theorem lookup_concat_none {entries : Entries} {key other : String}
    (new : entries.lookup key = none) (differs : key ≠ other) (item : Item) :
    (entries ++ [(other, item)]).lookup key = none := by
  rw [List.lookup_append, new, List.lookup_cons, beq_eq_false_iff_ne.mpr differs]
  rfl

/-! ## Lines -/

/-- A key that needs no quotes. -/
def IsBare (key : String) : Prop :=
  (!key.toList.isEmpty && key.toList.all isBareKeyChar) = true

instance (key : String) : Decidable (IsBare key) :=
  inferInstanceAs (Decidable (_ = true))

/-- A key that needs no quotes has characters, and all of them may stand in such a key. -/
theorem IsBare.parts {key : String} (bare : IsBare key) :
    key.toList ≠ [] ∧ ∀ char ∈ key.toList, isBareKeyChar char = true := by
  rw [IsBare, Bool.and_eq_true, Bool.not_eq_true', List.isEmpty_eq_false_iff, List.all_eq_true] at bare
  exact bare

/-- A bare key starts with none of the marks that a document has. -/
theorem IsBare.head {key : String} (bare : IsBare key) :
    ∃ first more, key.toList = first :: more ∧
      first ∉ [' ', '\t', '#', '\n', '\r', '[', '"', '\'', '\uFEFF'] := by
  obtain ⟨first, more, spelled⟩ := List.exists_cons_of_ne_nil bare.parts.1
  refine ⟨first, more, spelled, fun member => ?_⟩
  have isKey := bare.parts.2 first (by simp [spelled])
  have none : [' ', '\t', '#', '\n', '\r', '[', '"', '\'', '\uFEFF'].any isBareKeyChar = false := by
    decide
  exact List.any_eq_false.mp none first member isKey

/-- A bare key is read up to the first mark after it. -/
theorem takeKey?_bare {key : String} (bare : IsBare key) {mark next : Char} {rest more : List Char}
    (ends : isBareKeyChar mark = false) (skips : skipBlanks (mark :: rest) = next :: more)
    (noDot : next ≠ '.') : takeKey? (key.toList ++ mark :: rest) = some ([key], next :: more) := by
  obtain ⟨first, tail, spelled, proper⟩ := bare.head
  have noBlanks : skipBlanks (key.toList ++ mark :: rest) = key.toList ++ mark :: rest := by
    have noBlank : isBlank first = false := by
      simp_all [isBlank]
    simp [spelled, skipBlanks, noBlank]
  have name : (key.toList ++ mark :: rest).takeWhile isBareKeyChar = key.toList := by
    rw [List.takeWhile_append_of_pos bare.parts.2, List.takeWhile_cons_of_neg (by simp [ends]),
      List.append_nil]
  have simple : takeSimpleKey? (key.toList ++ mark :: rest) = some (key, mark :: rest) := by
    unfold takeSimpleKey?
    split
    next same => simp_all
    next same => simp_all
    next => simp [name, bare.parts.1]
  unfold takeKey? depthLimit
  rw [takeKeyParts?, noBlanks, simple]
  simp [skips, noDot]

/-- A line that sets a key: how its value is spelled, and what the value is. -/
structure Line where
  key : String
  spelling : String
  value : Value

namespace Line

/-- The characters of a line. -/
def chars (line : Line) : List Char :=
  (printLine line.key line.spelling).toList

/-- What a line adds to its table, while that is read. -/
def item (line : Line) : String × Item :=
  (line.key, .leaf line.value)

/-- The finished entry of a line. -/
def entry (line : Line) : String × Value :=
  (line.key, line.value)

/-- A line that is well-formed. -/
structure Proper (line : Line) : Prop where
  bare : IsBare line.key
  spells : Spells line.spelling line.value

variable {line : Line} (proper : line.Proper)

include proper

/-- A line is read with its key and value. -/
theorem takePair?_chars (rest : List Char) :
    takePair? (line.chars ++ rest) = some ([line.key], line.value, rest) := by
  have spelled : line.chars ++ rest =
      line.key.toList ++ ' ' :: '=' :: ' ' :: (line.spelling.toList ++ '\n' :: rest) := by
    simp [chars, printLine]
  have key := takeKey?_bare proper.bare (by decide)
    (show skipBlanks (' ' :: '=' :: ' ' :: (line.spelling.toList ++ '\n' :: rest)) = '=' :: _ from rfl)
    (by decide)
  have noBlanks := skipBlanks_of_takeValue? (proper.spells _ rest (Nat.lt_succ_self _))
  have begins : skipBlanks (' ' :: (line.spelling.toList ++ '\n' :: rest)) =
      line.spelling.toList ++ '\n' :: rest := by
    rw [skipBlanks, List.dropWhile_cons_of_pos (by decide)]
    exact noBlanks
  have read := proper.spells (2 * (line.spelling.toList ++ '\n' :: rest).length + 2) rest (by
    rw [List.length_append]
    omega)
  have ended : takeLineEnd? ('\n' :: rest) = some rest := rfl
  rw [takePair?, spelled, key]
  simp only [Option.bind_eq_bind, Option.bind_some, begins, read, ended]

/-- What a line starts with is not skipped. -/
theorem chars_begins (rest : List Char) : Begins (line.chars ++ rest) := by
  obtain ⟨first, tail, spelled, marks⟩ := proper.bare.head
  refine ⟨first, tail ++ (" = ".toList ++ line.spelling.toList ++ "\n".toList ++ rest), ?_, ?_⟩
  · simp [chars, printLine, spelled]
  · simp_all

/-- A line with a new key adds its value to the open table. -/
theorem readLine?_chars {reading : Reading} (new : reading.entries.lookup line.key = none)
    (rest : List Char) :
    readLine? reading (line.chars ++ rest) =
      some ({ reading with entries := reading.entries ++ [(line.key, .leaf line.value)] }, rest) := by
  have assigned : reading.entries.assign [line.key] line.value =
      some (reading.entries ++ [(line.key, .leaf line.value)]) := by
    simp [Entries.assign, Entries.changeAt, new, Entries.put_new new]
  have read := takePair?_chars proper rest
  obtain ⟨first, tail, spelled, marks⟩ := proper.bare.head
  have noBracket : ∀ more, line.chars ++ rest ≠ '[' :: more := by
    intro more same
    rw [chars, printLine] at same
    simp_all
  unfold readLine?
  split
  next same => exact absurd same (noBracket _)
  next same => exact absurd same (noBracket _)
  next =>
    rw [read]
    simp [Reading.assign, assigned]

end Line

/-- From here on, what remains of a document completes it to the given entries. -/
def Completes (reading : Reading) (chars : List Char) (root : Entries) : Prop :=
  ∀ fuel, chars.length < fuel → (readLines? fuel reading chars).bind Reading.close = some root

namespace Completes

variable {reading : Reading} {rest : List Char} {root final : Entries}

/-- At the end, the open table joins the document. -/
theorem ended (closed : reading.close = some root) : Completes reading [] root := by
  intro fuel enough
  obtain ⟨fuel, rfl⟩ : ∃ less, fuel = less + 1 := ⟨fuel - 1, by rw [List.length_nil] at enough; omega⟩
  exact closed

/-- A line with a new key. -/
theorem line {line : Line} (proper : line.Proper) (new : reading.entries.lookup line.key = none)
    (completes : Completes
      { reading with entries := reading.entries ++ [(line.key, .leaf line.value)] } rest final) :
    Completes reading (line.chars ++ rest) final := by
  intro fuel enough
  obtain ⟨fuel, rfl⟩ : ∃ less, fuel = less + 1 := ⟨fuel - 1, by omega⟩
  have skipped := skipLines_begins (Line.chars_begins proper rest) (line.chars ++ rest).length
  have read := Line.readLine?_chars proper new rest
  obtain ⟨first, tail, spelled, -⟩ := Line.chars_begins proper []
  rw [List.append_nil] at spelled
  have few : rest.length < fuel := by
    rw [List.length_append, spelled, List.length_cons] at enough
    omega
  rw [readLines?, skipped]
  split
  next same =>
    rw [spelled] at same
    cases same
  next =>
    rw [read]
    exact completes fuel few

/-- A header of a table that is new. -/
theorem header {name : String} (bare : IsBare name) (closed : reading.close = some root)
    (new : root.lookup name = none)
    (completes : Completes ⟨root, [name], false, []⟩ rest final) :
    Completes reading ((printHeader name).toList ++ rest) final := by
  intro fuel enough
  obtain ⟨fuel, rfl⟩ : ∃ less, fuel = less + 1 := ⟨fuel - 1, by omega⟩
  have spelled : (printHeader name).toList ++ rest =
      '\n' :: '[' :: (name.toList ++ ']' :: '\n' :: rest) := by
    simp [printHeader]
  rw [spelled] at enough ⊢
  have skipped : skipLines ('\n' :: '[' :: (name.toList ++ ']' :: '\n' :: rest)).length
      ('\n' :: '[' :: (name.toList ++ ']' :: '\n' :: rest)) =
        '[' :: (name.toList ++ ']' :: '\n' :: rest) :=
    skipLines_begins ⟨'[', _, rfl, by decide⟩ _
  have key := takeKey?_bare bare (by decide)
    (show skipBlanks (']' :: '\n' :: rest) = ']' :: '\n' :: rest from rfl) (by decide)
  have ended : takeLineEnd? ('\n' :: rest) = some rest := rfl
  have opened : reading.openTable [name] = some ⟨root, [name], false, []⟩ := by
    simp [Reading.openTable, closed, inspect, inspect.lookAt, new]
  have read : readLine? reading ('[' :: (name.toList ++ ']' :: '\n' :: rest)) =
      some (⟨root, [name], false, []⟩, rest) := by
    unfold readLine?
    split
    next more same =>
      obtain ⟨first, tail, begins, marks⟩ := bare.head
      simp_all
    next same =>
      obtain rfl := (List.cons.inj same).2
      simp [key, ended, opened]
    next _ noBracket => exact absurd rfl (noBracket _)
  rw [readLines?, skipped]
  simp only [read, Option.bind_eq_bind, Option.bind_some]
  refine completes fuel ?_
  simp only [List.length_cons, List.length_append] at enough
  omega

/-- Lines with new keys, one after another. -/
theorem lines {lines : List Line} (proper : ∀ line ∈ lines, line.Proper)
    (distinct : (lines.map Line.key).Nodup)
    (new : ∀ line ∈ lines, reading.entries.lookup line.key = none)
    (completes : Completes { reading with entries := reading.entries ++ lines.map Line.item } rest
      final) :
    Completes reading (lines.flatMap Line.chars ++ rest) final := by
  induction lines generalizing reading with
  | nil => simpa using completes
  | cons line others inductionHypothesis =>
    rw [List.map_cons, List.nodup_cons] at distinct
    rw [List.flatMap_cons, List.append_assoc]
    refine Completes.line (proper line List.mem_cons_self) (new line List.mem_cons_self) ?_
    refine inductionHypothesis (fun other member => proper other (.tail _ member)) distinct.2 ?_ ?_
    · intro other member
      have differs : other.key ≠ line.key := fun same =>
        distinct.1 (same ▸ List.mem_map_of_mem member)
      have isNew := new other (.tail _ member)
      exact lookup_concat_none isNew differs _
    · simpa [Line.item] using completes

end Completes

/-- A table of a document: its name and its lines. -/
structure Group where
  name : String
  lines : List Line

namespace Group

/-- The characters of a table with its header. -/
def chars (group : Group) : List Char :=
  (printHeader group.name).toList ++ group.lines.flatMap Line.chars

/-- A table that is well-formed. -/
structure Proper (group : Group) : Prop where
  bare : IsBare group.name
  lines : ∀ line ∈ group.lines, line.Proper
  distinct : (group.lines.map Line.key).Nodup

/-- The entry of a table. -/
def item (group : Group) : String × Item :=
  (group.name, .table false false (group.lines.map Line.item))

def entry (group : Group) : String × Value :=
  (group.name, .table (group.lines.map Line.entry))

end Group

/-- Tables with new names, one after another. -/
theorem Completes.groups {groups : List Group} (proper : ∀ group ∈ groups, group.Proper)
    (distinct : (groups.map Group.name).Nodup) {reading : Reading} {root : Entries}
    (closed : reading.close = some root) (new : ∀ group ∈ groups, root.lookup group.name = none) :
    Completes reading (groups.flatMap Group.chars) (root ++ groups.map Group.item) := by
  induction groups generalizing reading root with
  | nil => simpa using Completes.ended closed
  | cons group others inductionHypothesis =>
    have isProper := proper group List.mem_cons_self
    have isNew := new group List.mem_cons_self
    rw [List.map_cons, List.nodup_cons] at distinct
    rw [List.flatMap_cons, Group.chars, List.append_assoc]
    refine Completes.header isProper.bare closed isNew ?_
    refine Completes.lines isProper.lines isProper.distinct (fun _ _ => rfl) ?_
    have joined : (Reading.mk root [group.name] false ([] ++ group.lines.map Line.item)).close =
        some (root ++ [group.item]) := by
      simp [Reading.close, Entries.changeAt, isNew, Entries.put_new isNew, Group.item]
    have later := inductionHypothesis (fun other member => proper other (.tail _ member)) distinct.2
      joined (by
        intro other member
        have differs : other.name ≠ group.name := fun same =>
          distinct.1 (same ▸ List.mem_map_of_mem member)
        have isNew := new other (.tail _ member)
        exact lookup_concat_none isNew differs _)
    simpa using later

/-- Entries are finished one by one. -/
theorem finishEntries_append (entries others : Entries) :
    finishEntries (entries ++ others) = finishEntries entries ++ finishEntries others := by
  induction entries with
  | nil => rfl
  | cons entry rest inductionHypothesis =>
    rw [List.cons_append, finishEntries, finishEntries, inductionHypothesis, List.cons_append]

/-- The finished entries of lines are their values. -/
theorem finishEntries_lines (lines : List Line) :
    finishEntries (lines.map Line.item) = lines.map Line.entry := by
  induction lines with
  | nil => rfl
  | cons line others inductionHypothesis =>
    rw [List.map_cons, Line.item, finishEntries, Item.finish, inductionHypothesis]
    rfl

/-- The finished entries of groups are tables. -/
theorem finishEntries_groups (groups : List Group) :
    finishEntries (groups.map Group.item) = groups.map Group.entry := by
  induction groups with
  | nil => rfl
  | cons group others inductionHypothesis =>
    rw [List.map_cons, Group.item, finishEntries, Item.finish, inductionHypothesis,
      finishEntries_lines]
    rfl

/-- No mark is dropped from the start of a document. -/
theorem skipMark_written {lines : List Line} (proper : ∀ line ∈ lines, line.Proper)
    (groups : List Group) :
    skipMark (lines.flatMap Line.chars ++ groups.flatMap Group.chars) =
      lines.flatMap Line.chars ++ groups.flatMap Group.chars := by
  cases lines with
  | nil =>
    cases groups with
    | nil => rfl
    | cons group others => simp [Group.chars, printHeader, skipMark]
  | cons line others =>
    obtain ⟨first, tail, spelled, marks⟩ := (proper line List.mem_cons_self).bare.head
    have noMark : first.toNat ≠ 0xFEFF := by
      intro same
      have isMark : first = '\uFEFF' := by
        rw [← Char.ofNat_toNat first, same]
      simp [isMark] at marks
    simp [Line.chars, printLine, spelled, skipMark, noMark]

/-- A document of lines and tables is read with their values, whatever these are, if all keys are
bare and no two of them agree. -/
theorem parse?_written {lines : List Line} {groups : List Group}
    (properLines : ∀ line ∈ lines, line.Proper) (properGroups : ∀ group ∈ groups, group.Proper)
    (distinct : (lines.map Line.key ++ groups.map Group.name).Nodup) :
    parse? (String.ofList (lines.flatMap Line.chars ++ groups.flatMap Group.chars)) =
      some (lines.map Line.entry ++ groups.map Group.entry) := by
  obtain ⟨distinctLines, distinctGroups, apart⟩ := List.nodup_append.mp distinct
  have closed : (Reading.mk [] [] false ([] ++ lines.map Line.item)).close =
      some (lines.map Line.item) := rfl
  have new : ∀ group ∈ groups, (lines.map Line.item).lookup group.name = none := by
    intro group member
    rw [List.lookup_eq_none_iff]
    intro item isItem
    obtain ⟨line, isLine, rfl⟩ := List.mem_map.mp isItem
    have differs := apart line.key (List.mem_map_of_mem isLine) group.name (List.mem_map_of_mem member)
    simpa [Line.item] using differs.symm
  have completes : Completes ⟨[], [], false, []⟩ _ _ := Completes.lines properLines distinctLines
    (fun _ _ => rfl) (Completes.groups properGroups distinctGroups closed new)
  unfold parse?
  simp only [String.toList_ofList, skipMark_written properLines]
  have read := completes _ (Nat.lt_succ_self _)
  obtain ⟨reading, lastLine, joined⟩ := Option.bind_eq_some_iff.mp read
  simp only [Nat.succ_eq_add_one] at lastLine
  simp only [lastLine, Option.bind_eq_bind, Option.bind_some, joined, finishEntries_append,
    finishEntries_lines, finishEntries_groups]

end Hotload.Toml
