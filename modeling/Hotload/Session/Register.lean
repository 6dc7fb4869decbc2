import Hotload.Session.Settle
import Hotload.Unit.Binding

/-!
# Registering units

Registration binds an artifact and puts the new unit at the recent end of a resolver's registry, in
place of a unit of the same name. A unit that cannot be bound changes nothing.
-/

namespace Hotload

namespace Session

/-- Adds a unit, which something has to refer to from then on. -/
def addUnit (session : Session) (unit : LoadedUnit) : Session × Nat :=
  let (session, id) := session.number
  ({ session with units := session.units.add id unit }, id)

/-- Binds an artifact to a new unit. -/
def bind (session : Session) (platform : Platform) (name artifact libraries : String)
    (parent : Option Loader) (temporary : Option Nat) : Session × Except UnitError Nat :=
  match UnitContent.bind platform session.files artifact with
  | .error error => (session, .error error)
  | .ok content =>
    let (after, id) :=
      session.addUnit ⟨name, artifact, libraries, parent, content, [], temporary⟩
    (after, .ok id)

/-- The unit that a resolver makes of what it bound. -/
def unitOf (resolver : Resolver) (name artifact : String) (temporary : Option Nat)
    (content : UnitContent) : LoadedUnit :=
  ⟨name, artifact, resolver.layout.libraries, resolver.parent, content, [], temporary⟩

/-- Puts a new unit at the recent end of a registry. The unit that had its name is let go of. -/
def enlist (session : Session) (id : Nat) (unit : LoadedUnit) : Session × Nat :=
  let (added, number) := session.addUnit unit
  (settle (added.updateResolver id fun resolver =>
    { resolver with registry := Registry.register resolver.registry unit.name number }), number)

/-- Binds an artifact and registers it as the most recent unit of a resolver. The artifact has to be
there, whatever the platform makes of missing ones. All reading comes first, and then the registry
is changed at once. -/
def register (session : Session) (id : Nat) (name artifact : String) (temporary : Option Nat) :
    Session × Except LoadError Nat :=
  match session.resolvers.get? id with
  | none => (session, .error (.sourceUnavailable artifact))
  | some resolver =>
    match UnitContent.artifactSize session.files artifact with
    | .error error => (session, .error (.unit name error))
    | .ok _ =>
      match UnitContent.bind resolver.platform session.files artifact with
      | .error error => (session, .error (.unit name error))
      | .ok content =>
        let (after, unit) := session.enlist id (unitOf resolver name artifact temporary content)
        (after, .ok unit)

/-- Empties the cache directory of a resolver, and notes every entry that could not be removed. -/
def purge (session : Session) (layout : Layout) : Session × Except FileError Unit :=
  let purged := layout.purge session.files
  ({ session with files := purged.files }.log (purged.refusals.map fun _ => .cacheEntryKept),
    purged.result)

/-- Empties the cache directory of a resolver and lets go of all its registered units, whatever
could not be removed. -/
def unload (session : Session) (id : Nat) : Session × Except FileError Unit :=
  match session.resolvers.get? id with
  | none => (session, .ok ())
  | some resolver =>
    let (after, result) := session.purge resolver.layout
    (settle (after.updateResolver id fun resolver => { resolver with registry := [] }), result)

end Session

end Hotload
