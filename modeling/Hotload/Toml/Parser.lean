import Hotload.Toml.Lexeme
import Hotload.Toml.Value

/-!
# Reading TOML

A document is read line by line. A header line opens a table, any other line adds a value to the
table that is open, and an open table joins the document when the next one is opened or the document
ends. Anything that is not well-formed, a key given twice included, refuses the whole document.
-/

namespace Hotload.Toml

/-- Whether a value that starts here is a number or a time. -/
def startsNumber (char : Char) : Bool :=
  char.isDigit || char == '+' || char == '-' || char == 'i' || char == 'n'

mutual

/-- Reads a value. `depth` counts the arrays and tables around it, and the fuel bounds the number of
calls. -/
def takeValue? : Nat → Nat → List Char → Option (Value × List Char)
  | 0, _, _ => none
  | fuel + 1, depth, chars =>
    match chars with
    | 't' :: 'r' :: 'u' :: 'e' :: rest => some (.boolean true, rest)
    | 'f' :: 'a' :: 'l' :: 's' :: 'e' :: rest => some (.boolean false, rest)
    | '[' :: rest =>
      if depth + 1 ≥ depthLimit then none
      else do
        let (elements, rest) ← takeElements? fuel (depth + 1) rest
        some (.array elements, rest)
    | '\x7b' :: rest =>
      if depth + 1 ≥ depthLimit then none
      else
        match skipBlanks rest with
        | '\x7d' :: rest => some (.table [], rest)
        | _ => do
          let (entries, rest) ← takePairs? fuel (depth + 1) [] rest
          some (.table (finishEntries entries), rest)
    | first :: _ =>
      if first == '"' || first == '\'' then do
        let (text, rest) ← takeText? chars
        some (.text text, rest)
      else if startsDate chars || startsTime chars then do
        let (spelling, rest) ← takeMoment? chars
        some (.moment spelling, rest)
      else if startsNumber first then do
        let (number, rest) ← takeNumber? chars
        match number with
        | .integer value => some (.integer value, rest)
        | .real spelling => some (.real spelling, rest)
      else none
    | [] => none

/-- Reads the elements of an array up to its closing bracket. -/
def takeElements? : Nat → Nat → List Char → Option (List Value × List Char)
  | 0, _, _ => none
  | fuel + 1, depth, chars =>
    match skipLines chars.length chars with
    | ']' :: rest => some ([], rest)
    | start => do
      let (value, rest) ← takeValue? fuel depth start
      match skipLines rest.length rest with
      | ',' :: rest => do
        let (values, rest) ← takeElements? fuel depth rest
        some (value :: values, rest)
      | ']' :: rest => some ([value], rest)
      | _ => none

/-- Reads the pairs of a table that is written on one line, up to its closing brace. -/
def takePairs? : Nat → Nat → Entries → List Char → Option (Entries × List Char)
  | 0, _, _, _ => none
  | fuel + 1, depth, entries, chars => do
    let (path, rest) ← takeKey? chars
    match rest with
    | '=' :: rest => do
      let (value, rest) ← takeValue? fuel depth (skipBlanks rest)
      let entries ← entries.assign path value
      match skipBlanks rest with
      | ',' :: rest => takePairs? fuel depth entries rest
      | '\x7d' :: rest => some (entries, rest)
      | _ => none
    | _ => none

end

/-- A document of which some lines have been read. -/
structure Reading where
  /-- The tables that are closed. -/
  root : Entries
  /-- The path of the open table; the document itself has the empty one. -/
  path : List String
  /-- Whether the open table is one of several under its path. -/
  isElement : Bool
  entries : Entries

/-- Joins the open table to the document. -/
def Reading.close (reading : Reading) : Option Entries :=
  match reading.path.getLast? with
  | none => some reading.entries
  | some key =>
    Entries.changeAt reading.root false false
      (fun _ parent =>
        match reading.isElement, parent.lookup key with
        | true, none => some (parent.put key (.tables [reading.entries]))
        | true, some (.tables elements) =>
          some (parent.put key (.tables (elements ++ [reading.entries])))
        | false, none => some (parent.put key (.table false false reading.entries))
        | false, some (.table true _ _) =>
          some (parent.put key (.table false false reading.entries))
        | _, _ => none)
      reading.path.dropLast

/-- The item at the end of a path, and what passing through the path refuses. -/
def inspect (root : Entries) (path : List String) : Option (Option Item) := do
  let key ← path.getLast?
  let (found, _) ← lookAt root path.dropLast key
  some found
where
  /-- Goes down a path, through the last of several tables. -/
  lookAt (entries : Entries) : List String → String → Option (Option Item × Unit)
    | [], key => some (entries.lookup key, ())
    | step :: path, key =>
      match entries.lookup step with
      | none => some (none, ())
      | some (.leaf _) => none
      | some (.tables elements) => lookAt (elements.getLast?.getD []) path key
      | some (.table _ _ inner) => lookAt inner path key

/-- Opens the table of a header. A table that longer paths implied is taken over; one that is there
for any other reason must not be opened again. -/
def Reading.openTable (reading : Reading) (path : List String) : Option Reading := do
  let root ← reading.close
  match ← inspect root path with
  | none => some ⟨root, path, false, []⟩
  | some (.table true false entries) => some ⟨root, path, false, entries⟩
  | some _ => none

/-- Opens another one of the tables of a double-bracket header. -/
def Reading.openElement (reading : Reading) (path : List String) : Option Reading := do
  let root ← reading.close
  match ← inspect root path with
  | none => some ⟨root, path, true, []⟩
  | some (.tables _) => some ⟨root, path, true, []⟩
  | some _ => none

/-- Adds the value of a line to the open table. -/
def Reading.assign (reading : Reading) (path : List String) (value : Value) : Option Reading := do
  let entries ← reading.entries.assign path value
  some { reading with entries := entries }

/-- Reads the key and the value of a line. -/
def takePair? (chars : List Char) : Option (List String × Value × List Char) := do
  let (path, rest) ← takeKey? chars
  match rest with
  | '=' :: rest => do
    let start := skipBlanks rest
    let (value, rest) ← takeValue? (2 * start.length + 2) 0 start
    let rest ← takeLineEnd? rest
    some (path, value, rest)
  | _ => none

/-- Reads one line that is not empty. -/
def readLine? (reading : Reading) (chars : List Char) : Option (Reading × List Char) :=
  match chars with
  | '[' :: '[' :: rest => do
    let (path, rest) ← takeKey? rest
    match rest with
    | ']' :: ']' :: rest => do
      let rest ← takeLineEnd? rest
      let reading ← reading.openElement path
      some (reading, rest)
    | _ => none
  | '[' :: rest => do
    let (path, rest) ← takeKey? rest
    match rest with
    | ']' :: rest => do
      let rest ← takeLineEnd? rest
      let reading ← reading.openTable path
      some (reading, rest)
    | _ => none
  | chars => do
    let (path, value, rest) ← takePair? chars
    let reading ← reading.assign path value
    some (reading, rest)

/-- Reads the remaining lines. A line takes at least one character, so their number is fuel
enough. -/
def readLines? : Nat → Reading → List Char → Option Reading
  | 0, _, _ => none
  | fuel + 1, reading, chars =>
    match skipLines chars.length chars with
    | [] => some reading
    | start => do
      let (reading, rest) ← readLine? reading start
      readLines? fuel reading rest

/-- Drops the mark that some editors put at the start of a text. -/
def skipMark : List Char → List Char
  | first :: rest => if first.toNat = 0xFEFF then rest else first :: rest
  | [] => []

/-- Reads a document. -/
def parse? (document : String) : Option (List (String × Value)) := do
  let chars := skipMark document.toList
  let reading ← readLines? (chars.length + 1) ⟨[], [], false, []⟩ chars
  let root ← reading.close
  some (finishEntries root)

end Hotload.Toml
