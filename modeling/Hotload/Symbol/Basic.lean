import Hotload.Bytes
import Hotload.Text.Quoted

/-!
# Symbols

A symbol is a resolved definition. Two look-ups may or may not have made the same symbol, so every
symbol carries the number of its making; its other fields say what it is.
-/

namespace Hotload

/-- What a symbol resolves to. -/
inductive SymbolBody where
  /-- Bytecode that the host runs. -/
  | bytecode (content : Bytes)
  /-- An exported address of a native library. -/
  | native
  deriving DecidableEq, Repr

/-- A resolved definition. -/
structure Symbol where
  name : String
  /-- The name of the unit that defines it. -/
  unit : String
  body : SymbolBody
  /-- Two symbols are the same object if and only if this number is the same. -/
  serial : Nat
  deriving DecidableEq, Repr

namespace Symbol

/-- The bytecode of a symbol that has some. -/
def bytecode? (symbol : Symbol) : Option Bytes :=
  match symbol.body with
  | .bytecode content => some content
  | .native => none

/-- A text for diagnosis. The address of a native symbol is not part of the library, so it is passed
in as a text. -/
def debugText (address : String) (symbol : Symbol) : String :=
  let start :=
    "Symbol \x7b name: " ++ Text.quoted symbol.name ++ ", unit: " ++ Text.quoted symbol.unit
  match symbol.body with
  | .bytecode content => start ++ ", bytecode_len: " ++ toString content.length ++ " \x7d"
  | .native => start ++ ", address: " ++ Text.quoted address ++ " \x7d"

end Symbol

end Hotload
