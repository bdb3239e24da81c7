import TickArena.Arena.Rejection
import TickArena.Catalog.SchemaError
import TickArena.FileTree

/-!
# Failures of the engine

Every cause for which an operation of the engine can fail, with its wording.
-/

namespace TickArena

inductive Failure where
  | submission (cause : Rejection)
  | schema (cause : SchemaError)
  | unknownComponent (id : String)
  | requirement (component reason : String)
  | observer (name reason : String)
  | settings (reason : String)
  | file (cause : FileFault)
  | malformed
  deriving DecidableEq

namespace Failure

/-- The wording of a failure.  Faults of files and texts are told by their kind
alone. -/
def message : Failure → String
  | submission cause => s!"Validation error: {cause.message}"
  | schema cause => s!"Schema error: {cause.message}"
  | unknownComponent id => s!"Component not found in catalog: {id}"
  | requirement component reason =>
    s!"Requirement of '{component}' could not be evaluated: {reason}"
  | observer name reason => s!"Observer '{name}' failed: {reason}"
  | settings reason => s!"Invalid configuration: {reason}"
  | file _ => "IO error"
  | malformed => "TOML error"

end Failure

end TickArena
