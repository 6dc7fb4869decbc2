/-!
# Registries

A registry lists units by name, the one registered last at the end. A name that is registered again
moves to the end, so the most recent definition of anything is found first by looking from there.
-/

namespace Hotload

/-- Units by name, oldest registration first. -/
abbrev Registry (α : Type) := List (String × α)

namespace Registry

variable {α : Type}

/-- The registry without a name. -/
def without (registry : Registry α) (name : String) : Registry α :=
  registry.filter fun entry => entry.1 ≠ name

/-- Registers a unit as the most recent one. -/
def register (registry : Registry α) (name : String) (unit : α) : Registry α :=
  registry.without name ++ [(name, unit)]

/-- The unit registered under a name. -/
def find? (registry : Registry α) (name : String) : Option α :=
  registry.lookup name

/-- The registered names, oldest first. -/
def names (registry : Registry α) : List String :=
  registry.map (·.1)

/-- The registered units, most recent first. -/
def recentFirst (registry : Registry α) : List α :=
  (registry.map (·.2)).reverse

end Registry

end Hotload
