import Scriptorium.Instance
import Scriptorium.World

/-! The host's side of a request: a loader makes a compiled unit known to the host, and the first
type that the unit exports is constructed. -/

namespace Scriptorium

structure LoadedUnit where
  /-- The exported types in the order in which the compiler emitted them. -/
  types : List Text
  instantiate : Text → Act Instance

structure Loader where
  load : CompiledUnit → Act LoadedUnit

namespace Loader

/-- An instance of the first exported type, or nothing if the unit exports none. -/
def materialize (l : Loader) (u : CompiledUnit) : Act (Option Instance) := do
  let loaded ← l.load u
  match loaded.types with
  | [] => pure none
  | first :: _ => some <$> loaded.instantiate first

end Loader

end Scriptorium
