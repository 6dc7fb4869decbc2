/-!
# Symbols and archive entries

The symbol `a.b.C` lives in an archive at the path `a/b/C.class`. `entryPath` goes from the name to
the path, and `symbolName?` finds the name that an entry defines, if it is a bytecode entry.
-/

namespace Hotload.Symbol

/-- What every bytecode entry ends in. -/
def entryEnding : List Char :=
  ['.', 'c', 'l', 'a', 's', 's']

/-- A dot of a name separates packages, which are directories of the archive. -/
def toSeparator (char : Char) : Char :=
  if char = '.' then '/' else char

/-- A directory of the archive is a package. -/
def ofSeparator (char : Char) : Char :=
  if char = '/' then '.' else char

/-- The path of the entry for a symbol. -/
def entryPath (name : String) : String :=
  String.ofList (name.toList.map toSeparator ++ entryEnding)

/-- What precedes the ending of a bytecode entry. -/
def stem? (entry : List Char) : Option (List Char) :=
  if entryEnding.isSuffixOf entry then some (entry.take (entry.length - entryEnding.length))
  else none

/-- The symbol that an entry defines. An entry without a name of its own defines none. -/
def symbolName? (entry : String) : Option String :=
  match stem? entry.toList with
  | none => none
  | some stem =>
    if stem.isEmpty || stem.getLast? = some '/' then none
    else some (String.ofList (stem.map ofSeparator))

end Hotload.Symbol
