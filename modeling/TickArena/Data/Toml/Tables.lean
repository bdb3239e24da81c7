import TickArena.Data.Tree

/-!
# Tables under construction

The lines of a document build one tree of tables.  A table remembers how it came
about, because a table written under a header or inside braces may not be written
a second time, while one that only occurred on the way to another may still be
opened once.
-/

namespace TickArena.Toml

/-- How a table came about: written out, implied by a longer header, or by a key
of several names. -/
inductive Origin where
  | written
  | implied
  | dotted
  deriving DecidableEq

/-- The newest table of an array comes first. -/
inductive Node where
  | leaf (value : Data)
  | table (origin : Origin) (fields : List (String × Node))
  | tables (newestFirst : List (List (String × Node)))

abbrev Fields := List (String × Node)

def Fields.node? (name : String) (fields : Fields) : Option Node :=
  (List.find? (fun field => field.1 = name) fields).map (·.2)

def Fields.put (name : String) (node : Node) (fields : Fields) : Fields :=
  fields.map fun field => if field.1 = name then (name, node) else field

/-- Edits the table at the end of a path.  Missing tables on the way are created;
a path of a key may not pass through a table written out elsewhere. -/
def Fields.editAt (byKey : Bool) (edit : Origin → Fields → Option Fields) :
    List String → Origin → Fields → Option Fields
  | [], origin, fields => edit origin fields
  | name :: path, _, fields =>
    match fields.node? name with
    | none => do
      let origin := if byKey then Origin.dotted else Origin.implied
      let inner ← editAt byKey edit path origin []
      return fields ++ [(name, .table origin inner)]
    | some (.leaf _) => none
    | some (.table origin inner) =>
      if byKey && origin = .written then none
      else do
        let inner ← editAt byKey edit path origin inner
        return fields.put name (.table origin inner)
    | some (.tables []) => none
    | some (.tables (newest :: older)) => do
      let newest ← editAt byKey edit path .written newest
      return fields.put name (.tables (newest :: older))

/-- Adds one field; it must be new, and a key of several names must end in a table
that such keys have made. -/
def Fields.add (path : List String) (name : String) (value : Data)
    (origin : Origin) (fields : Fields) : Option Fields :=
  Fields.editAt true
    (fun origin fields =>
      if (origin = .dotted) = path.isEmpty then none
      else if (fields.node? name).isSome then none
      else some (fields ++ [(name, .leaf value)]))
    path origin fields

def Fields.openTable (path : List String) (name : String) (fields : Fields) : Option Fields :=
  Fields.editAt false
    (fun _ fields =>
      match fields.node? name with
      | none => some (fields ++ [(name, .table .written [])])
      | some (.table .implied inner) => some (fields.put name (.table .written inner))
      | some _ => none)
    path .written fields

/-- Opens a new table at the end of the array of a header. -/
def Fields.openElement (path : List String) (name : String) (fields : Fields) : Option Fields :=
  Fields.editAt false
    (fun _ fields =>
      match fields.node? name with
      | none => some (fields ++ [(name, .tables [[]])])
      | some (.tables older) => some (fields.put name (.tables ([] :: older)))
      | some _ => none)
    path .written fields

mutual

def Node.toData : Node → Data
  | .leaf value => value
  | .table _ fields => .record (fieldsToData fields)
  | .tables newestFirst => .list (tablesToData [] newestFirst)

def fieldsToData : List (String × Node) → List (String × Data)
  | [] => []
  | (name, node) :: rest => (name, node.toData) :: fieldsToData rest

def tablesToData (later : List Data) : List (List (String × Node)) → List Data
  | [] => later
  | fields :: older => tablesToData (.record (fieldsToData fields) :: later) older

end

end TickArena.Toml
