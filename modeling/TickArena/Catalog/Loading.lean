import TickArena.Catalog.Basic
import TickArena.Data.Toml.Reader
import TickArena.FileTree

/-!
# Loading catalogs

A catalog text lists definitions, which are registered one after another.  The
first definition that is refused ends the load; what was registered before it
stays, also in the files that were loaded before.
-/

namespace TickArena

namespace Catalog

/-- Registers definitions up to the first that is refused. -/
def registerAll (catalog : Catalog) : List Component → Catalog × Except SchemaError Unit
  | [] => (catalog, .ok ())
  | component :: rest =>
    match catalog.register component with
    | .ok next => next.registerAll rest
    | .error cause => (catalog, .error cause)

def components? (text : String) : Option (List Component) := do
  let parts ← (← Toml.read? text).toParts? .toml ["component"]
  Data.withDefault "component" [] (Data.toList? (Component.decode? .toml)) parts

def loadText (catalog : Catalog) (text : String) : Catalog × Except Failure Nat :=
  match components? text with
  | none => (catalog, .error .malformed)
  | some components =>
    let (next, outcome) := catalog.registerAll components
    match outcome with
    | .ok () => (next, .ok components.length)
    | .error cause => (next, .error (.schema cause))

def loadFile (catalog : Catalog) : Except FileFault FileTree → Catalog × Except Failure Nat
  | .error cause => (catalog, .error (.file cause))
  | .ok (.folder _) => (catalog, .error (.file .isFolder))
  | .ok (.file bytes) =>
    match String.fromUTF8? bytes with
    | none => (catalog, .error (.file .notText))
    | some text => catalog.loadText text

/-- Loads one thing after another and counts the definitions of both. -/
def loadThen (first : Catalog × Except Failure Nat)
    (second : Catalog → Catalog × Except Failure Nat) : Catalog × Except Failure Nat :=
  match first with
  | (catalog, .error failure) => (catalog, .error failure)
  | (catalog, .ok count) =>
    match second catalog with
    | (next, .ok more) => (next, .ok (count + more))
    | (next, .error failure) => (next, .error failure)

mutual

/-- Loads what lies under a name: a folder whole, a file if it is a catalog text. -/
def loadNamed (catalog : Catalog) (name : String) : FileTree → Catalog × Except Failure Nat
  | .folder entries => catalog.loadEntries entries
  | .file bytes =>
    if FileTree.hasExtension "toml" name then catalog.loadFile (.ok (.file bytes))
    else (catalog, .ok 0)

def loadEntries (catalog : Catalog) : List (String × FileTree) → Catalog × Except Failure Nat
  | [] => (catalog, .ok 0)
  | (name, tree) :: rest =>
    loadThen (catalog.loadNamed name tree) fun catalog => catalog.loadEntries rest

end

/-- Loads every catalog text below the folder that has been found.  Each folder is
gone through in the order of its names. -/
def loadFolder (catalog : Catalog) : Except FileFault FileTree → Catalog × Except Failure Nat
  | .error cause => (catalog, .error (.file cause))
  | .ok (.file _) => (catalog, .error (.file .notFolder))
  | .ok (.folder entries) => catalog.loadEntries (FileTree.byName (FileTree.arrangedEach entries))

end Catalog

end TickArena
