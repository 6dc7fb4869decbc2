/-!
# TOML values

A document is a table. While it is read, a table also remembers how it came about, because that
decides whether later lines may still add to it: a table that only a longer path implied may be
opened once by a header, and one that dotted keys made may grow by dotted keys only.
-/

namespace Hotload.Toml

/-- A value as a document holds it. -/
inductive Value where
  | text (content : String)
  | integer (number : Int)
  /-- A floating-point number, by its spelling. -/
  | real (spelling : String)
  | boolean (truth : Bool)
  /-- A date, a time or both, by its spelling. -/
  | moment (spelling : String)
  | array (elements : List Value)
  | table (entries : List (String × Value))
  deriving Repr

/-- Something under construction. -/
inductive Item where
  | leaf (value : Value)
  /-- `isImplicit` says that no header opened the table, `isDotted` that dotted keys made it. -/
  | table (isImplicit isDotted : Bool) (entries : List (String × Item))
  /-- The tables of a double-bracket header, the last one still growing. -/
  | tables (elements : List (List (String × Item)))

mutual

/-- The finished value of an item. -/
def Item.finish : Item → Value
  | .leaf value => value
  | .table _ _ entries => .table (finishEntries entries)
  | .tables elements => .array (finishElements elements)

/-- The finished entries of a table. -/
def finishEntries : List (String × Item) → List (String × Value)
  | [] => []
  | (key, item) :: rest => (key, item.finish) :: finishEntries rest

/-- The finished tables of a double-bracket header. -/
def finishElements : List (List (String × Item)) → List Value
  | [] => []
  | entries :: rest => .table (finishEntries entries) :: finishElements rest

end

/-- The entries of a table under construction. -/
abbrev Entries := List (String × Item)

/-- Puts an item under a key, in place of what was there. -/
def Entries.put (entries : Entries) (key : String) (item : Item) : Entries :=
  if entries.any (·.1 == key) then
    entries.map fun entry => if entry.1 == key then (key, item) else entry
  else entries ++ [(key, item)]

/-- Takes a key away. -/
def Entries.drop (entries : Entries) (key : String) : Entries :=
  entries.filter (·.1 != key)

/-- Changes the table at the end of a path and makes the tables that are missing on the way. The
change sees whether that table is a dotted one. Dotted keys may not pass through a table that a
header opened, and nothing may pass through a plain value. -/
def Entries.changeAt (entries : Entries) (dotted isDotted : Bool)
    (change : Bool → Entries → Option Entries) : List String → Option Entries
  | [] => change isDotted entries
  | key :: path =>
    match entries.lookup key with
    | none => do
      let inner ← Entries.changeAt [] dotted dotted change path
      some (Entries.put entries key (.table true dotted inner))
    | some (.leaf _) => none
    | some (.tables elements) => do
      let last ← elements.getLast?
      let inner ← Entries.changeAt last dotted false change path
      some (Entries.put entries key (.tables (elements.dropLast ++ [inner])))
    | some (.table isImplicit isDotted inner) =>
      if dotted && !isImplicit then none
      else do
        let inner ← Entries.changeAt inner dotted isDotted change path
        some (Entries.put entries key (.table isImplicit isDotted inner))

/-- Adds a value under a key path. The last table of a proper path has to be a dotted one, and the
key must be new there. -/
def Entries.assign (entries : Entries) (path : List String) (value : Value) : Option Entries := do
  let key ← path.getLast?
  Entries.changeAt entries true false
    (fun isDotted inner =>
      if isDotted == path.dropLast.isEmpty || (inner.lookup key).isSome then none
      else some (Entries.put inner key (.leaf value)))
    path.dropLast

end Hotload.Toml
