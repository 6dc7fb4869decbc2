import Hotload.Session.Basic
import Hotload.Unit.Binding

/-!
# Looking up symbols

A unit answers from its own symbols and else passes the question on to its parent. A resolver asks
in turn the symbols it took from its local unit before, its parent, its registered units from the
most recent on, and its local unit; failures on the way are noted and passed over.

Loaders may ask each other in a circle. A look-up that comes back to where it started would go
round for ever, because nothing has changed on the way, so the number of loaders bounds the depth of
every look-up that ends.
-/

namespace Hotload

/-- What a look-up leads to. -/
inductive Answer where
  | found (symbol : Symbol)
  | absent
  | failed (error : UnitError)
  | crashed (crash : Crash)
  deriving DecidableEq, Repr

namespace Session

/-- A way to ask loaders. -/
abbrev Asking := Session → Loader → String → Session × Answer

/-- Remembers a symbol that a unit made. -/
def rememberIn (session : Session) (id : Nat) (symbol : Symbol) : Session :=
  { session with
    units := session.units.update id fun unit =>
      { unit with resolved := unit.resolved ++ [(symbol.name, symbol)] } }

/-- Makes the symbol of a unit for a name. -/
def makeSymbol (session : Session) (id : Nat) (name unit : String) (body : SymbolBody) :
    Session × Answer :=
  let (session, serial) := session.number
  let symbol : Symbol := ⟨name, unit, body, serial⟩
  (session.rememberIn id symbol, .found symbol)

/-- Passes a question on to a parent, if there is one. -/
def askParent (ask : Asking) (session : Session) (parent : Option Loader) (name : String) :
    Session × Answer :=
  match parent with
  | some loader => ask session loader name
  | none => (session, .absent)

/-- Asks a unit. -/
def askUnit (ask : Asking) (session : Session) (id : Nat) (name : String) : Session × Answer :=
  match session.units.get? id with
  | none => (session, .absent)
  | some unit =>
    match unit.resolved.lookup name with
    | some symbol => (session, .found symbol)
    | none =>
      match unit.content with
      | .archive index =>
        match index.lookup name with
        | some entry =>
          match UnitContent.readBody session.files unit.artifact entry with
          | .body content => makeSymbol session id name unit.name (.bytecode content)
          | .failed error => (session, .failed error)
          | .crashed crash => (session, .crashed crash)
        | none => askParent ask session unit.parent name
      | .native exports =>
        if !Native.isSearchable name then (session, .failed .platform)
        else if exports.contains name then makeSymbol session id name unit.name .native
        else askParent ask session unit.parent name

/-- Asks units one after the other, up to the first that has the symbol. -/
def askUnits (ask : Asking) (session : Session) (name : String) : List Nat → Session × Answer
  | [] => (session, .absent)
  | id :: rest =>
    match ask session (.unit id) name with
    | (after, .found symbol) => (after, .found symbol)
    | (after, .absent) => askUnits ask after name rest
    | (after, .failed _) =>
      let unit := ((after.units.get? id).map (·.name)).getD ""
      askUnits ask (after.log [.unitSkipped unit name]) name rest
    | (after, .crashed crash) => (after, .crashed crash)

/-- Remembers a symbol that came from the local unit, unless one is remembered already, and gives
the one remembered. -/
def remember (session : Session) (id : Nat) (name : String) (symbol : Symbol) : Session × Symbol :=
  match session.resolvers.get? id with
  | none => (session, symbol)
  | some resolver =>
    match resolver.defined.lookup name with
    | some earlier => (session, earlier)
    | none =>
      (session.updateResolver id fun resolver =>
        { resolver with defined := resolver.defined ++ [(name, symbol)] }, symbol)

/-- Asks the local unit of a resolver. -/
def askLocal (ask : Asking) (session : Session) (id : Nat) (resolver : Resolver) (name : String) :
    Session × Answer :=
  match resolver.localUnit with
  | none => (session, .absent)
  | some loader =>
    match ask session loader name with
    | (after, .found symbol) =>
      let (after, symbol) := after.remember id name symbol
      (after, .found symbol)
    | (after, .absent) => (after, .absent)
    | (after, .failed _) => (after.log [.localFailed name], .absent)
    | (after, .crashed crash) => (after, .crashed crash)

/-- Asks the registered units of a resolver, and then its local unit. -/
def askRegistry (ask : Asking) (session : Session) (id : Nat) (resolver : Resolver) (name : String)
: Session × Answer :=
  match askUnits ask session name resolver.registry.recentFirst with
  | (after, .absent) => askLocal ask after id resolver name
  | other => other

/-- Asks a resolver. -/
def askResolver (ask : Asking) (session : Session) (id : Nat) (name : String) : Session × Answer :=
  match session.resolvers.get? id with
  | none => (session, .absent)
  | some resolver =>
    match resolver.defined.lookup name with
    | some symbol => (session, .found symbol)
    | none =>
      match askParent ask session resolver.parent name with
      | (after, .found symbol) => (after, .found symbol)
      | (after, .absent) => askRegistry ask after id resolver name
      | (after, .failed _) => askRegistry ask (after.log [.parentFailed name]) id resolver name
      | (after, .crashed crash) => (after, .crashed crash)

/-- Asks a loader, which may ask others. -/
def askLoader (ask : Asking) : Asking :=
  fun session loader name =>
    match loader with
    | .failing => (session, .failed .platform)
    | .system id =>
      match ((session.systems.get? id).getD []).lookup name with
      | some symbol => (session, .found symbol)
      | none => (session, .absent)
    | .unit id => askUnit ask session id name
    | .resolver id => askResolver ask session id name

/-- Asks with a bound on the depth. -/
def askWithin : Nat → Asking
  | 0 => fun session _ _ => (session, .crashed .endless)
  | depth + 1 => askLoader (askWithin depth)

/-- The number of loaders, and one more for those that are no table's. -/
def loaderCount (session : Session) : Nat :=
  session.units.length + session.resolvers.length + session.systems.length + 1

/-- Looks up a symbol. -/
def find : Asking :=
  fun session loader name => askWithin (session.loaderCount + 1) session loader name

/-- Looks up a symbol among the registered units of a resolver only. -/
def findRegistered (session : Session) (id : Nat) (name : String) : Session × Answer :=
  match session.resolvers.get? id with
  | none => (session, .absent)
  | some resolver =>
    askUnits (askWithin (session.loaderCount + 1)) session name resolver.registry.recentFirst

/-- Texts in order, each once. -/
def sorted (names : List String) : List String :=
  let inOrder := names.mergeSort (fun left right => decide (left ≤ right))
  inOrder.foldr
    (fun name rest => match rest with
      | next :: _ => if name = next then rest else name :: rest
      | [] => [name]) []

/-- The symbols that a loader has itself, with a bound on the depth. A resolver has those of its
units and of its local unit. -/
def symbolNamesWithin (session : Session) : Nat → Loader → Option (List String)
  | 0, _ => none
  | depth + 1, loader =>
    match loader with
    | .failing => some []
    | .system id => some (sorted (((session.systems.get? id).getD []).map (·.1)))
    | .unit id => some (((session.units.get? id).map (·.symbolNames)).getD [])
    | .resolver id =>
      match session.resolvers.get? id with
      | none => some []
      | some resolver =>
        let own := resolver.registry.recentFirst.flatMap fun unit =>
          ((session.units.get? unit).map (·.symbolNames)).getD []
        match resolver.localUnit with
        | none => some (sorted own)
        | some loader =>
          (symbolNamesWithin session depth loader).map fun names => sorted (own ++ names)

/-- The symbols that a loader has itself, or nothing where loaders list each other in a circle. -/
def symbolNames? (session : Session) (loader : Loader) : Option (List String) :=
  session.symbolNamesWithin (session.loaderCount + 1) loader

/-- The path of a native library that a loader offers. -/
def findLibrary (session : Session) (loader : Loader) (name : String) : Option String :=
  match loader with
  | .unit id =>
    (session.units.get? id).bind fun unit => findLibraryIn unit.libraries name session.files
  | .resolver id =>
    (session.resolvers.get? id).bind fun resolver =>
      findLibraryIn resolver.layout.libraries name session.files
  | .system _ | .failing => none

end Session

end Hotload
