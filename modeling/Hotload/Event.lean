/-!
# Events

What goes wrong without stopping anything is logged. An event is what happened; `level`, `message`
and `fields` say how it is written down.
-/

namespace Hotload

/-- How serious an event is. -/
inductive Level where
  | warning
  | error
  deriving DecidableEq, Repr

/-- Something worth noting. -/
inductive Event where
  | unitSkipped (unit symbol : String)
  | parentFailed (symbol : String)
  | localFailed (symbol : String)
  | emptyArtifact
  /-- One part of the dump of a compiler's input, in Base64. -/
  | inputPart (part parts : Nat) (text : String)
  | inputUnreadable
  /-- A staged file, a file of passing use or an entry of the cache could not be deleted. -/
  | stagedFileKept
  | temporaryFileKept
  | cacheEntryKept
  | stillBusy (polls : Nat)
  | unloadSkipped
  deriving DecidableEq, Repr

namespace Event

/-- How serious an event is. -/
def level : Event → Level
  | .emptyArtifact | .inputPart .. | .inputUnreadable => .error
  | _ => .warning

/-- The text of an event. -/
def message : Event → String
  | .unitSkipped .. => "unit failed lookup, skipping"
  | .parentFailed _ => "parent lookup failed"
  | .localFailed _ => "local lookup failed"
  | .emptyArtifact => "compiler produced an empty artifact"
  | .inputPart .. => "failed compiler input"
  | .inputUnreadable => "failed to dump compiler input"
  | .stagedFileKept => "failed to delete staged file"
  | .temporaryFileKept => "failed to delete temporary artifact"
  | .cacheEntryKept => "failed to purge cache entry"
  | .stillBusy _ => "thread still inside loaded code, giving up waiting"
  | .unloadSkipped => "unload skipped, thread still busy"

/-- The particulars of an event. -/
def fields : Event → List (String × String)
  | .unitSkipped unit symbol => [("unit", unit), ("symbol", symbol)]
  | .parentFailed symbol | .localFailed symbol => [("symbol", symbol)]
  | .inputPart part parts _ => [("part", toString part), ("of", toString parts)]
  | .stillBusy polls => [("polls", toString polls)]
  | _ => []

end Event

end Hotload
