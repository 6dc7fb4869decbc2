import Hotload.Session.Basic

/-!
# What is still referred to

Units, resolvers and files of passing use live as long as something refers to them: the host, or a
unit or resolver that lives itself. `settle` lets go of everything else, and a file of passing use
that nothing refers to is deleted. Loaders that refer to each other in a circle keep each other
alive.
-/

namespace Hotload

/-- What a unit refers to. -/
def LoadedUnit.targets (unit : LoadedUnit) : List Target :=
  unit.parent.toList.map .loader ++ unit.temporary.toList.map .temporary

/-- What a resolver refers to. -/
def Resolver.targets (resolver : Resolver) : List Target :=
  resolver.parent.toList.map .loader ++ resolver.localUnit.toList.map .loader
    ++ resolver.registry.map fun entry => .loader (.unit entry.2)

namespace Session

/-- Everything that something refers to. -/
def targets (session : Session) : List Target :=
  session.held.map (·.2) ++ session.units.flatMap (·.2.targets)
    ++ session.resolvers.flatMap (·.2.targets)

/-- Lets go of the units and resolvers that nothing refers to. -/
def dropLoaders (session : Session) : Session :=
  let targets := session.targets
  { session with
    units := session.units.filter fun entry => targets.contains (.loader (.unit entry.1))
    resolvers := session.resolvers.filter fun entry =>
      targets.contains (.loader (.resolver entry.1)) }

/-- Lets go of loaders until all that remain are referred to. Every round but the last lets go of at
least one, so their number is fuel enough. -/
def dropAllLoaders : Nat → Session → Session
  | 0, session => session
  | fuel + 1, session =>
    let after := session.dropLoaders
    if after.units.length + after.resolvers.length < session.units.length + session.resolvers.length
    then dropAllLoaders fuel after
    else session

/-- Lets go of one file of passing use, which deletes the file unless it was released before. -/
def dropTemporary (session : Session) (id : Nat) : Session :=
  let released := (session.release id).1
  { released with temporaries := released.temporaries.filter fun entry => entry.1 ≠ id }

/-- Lets go of everything that nothing refers to. -/
def settle (session : Session) : Session :=
  let kept := dropAllLoaders (session.units.length + session.resolvers.length) session
  let targets := kept.targets
  let dead := (kept.temporaries.map (·.1)).filter fun id => !targets.contains (.temporary id)
  dead.foldl dropTemporary kept

/-- Holds a target under a name, in place of what the name held. -/
def hold (session : Session) (name : String) (target : Target) : Session :=
  { session with held := session.held.filter (fun entry => entry.1 ≠ name) ++ [(name, target)] }

/-- Lets go of what a name holds. -/
def letGo (session : Session) (name : String) : Session :=
  settle { session with held := session.held.filter fun entry => entry.1 ≠ name }

/-- What a name holds. -/
def held? (session : Session) (name : String) : Option Target :=
  session.held.lookup name

end Session

end Hotload
