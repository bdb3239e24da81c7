import TickArena.Double

/-!
# Data trees

The common form of every text format: scalars, lists, and records with named
fields.  Whole numbers and doubles are kept apart, because a count may be written
only as a whole number.  Decoders return nothing for a tree of the wrong shape.
-/

namespace TickArena

inductive Data where
  | null
  | bool (value : Bool)
  | int (value : Int)
  | float (value : Float)
  | text (value : String)
  | date (value : String)
  | list (items : List Data)
  | record (fields : List (String × Data))
  deriving Inhabited

/-- The rules by which a tree is read, where the formats differ: `inner` holds for the
parts of a record that are read only when another part has told its kind. -/
inductive Dialect where
  | json
  | toml
  | inner
  deriving DecidableEq

namespace Dialect

/-- Whether a tree stands for nothing when it stands beside a name. -/
def isNothing : Dialect → Data → Bool
  | json, .null => true
  | toml, .list [] => true
  | toml, .record [] => true
  | inner, .null => true
  | inner, .record [] => true
  | _, _ => false

/-- Whether a list that gives the parts of a record in order may be too long. -/
def dropsSurplus (dialect : Dialect) : Bool :=
  dialect = toml

end Dialect

namespace Data

/-! ### Building trees -/

def ofNat (n : Nat) : Data :=
  .int n

/-- A double that is not finite has no written number. -/
def ofFloat (x : Float) : Data :=
  if x.isFinite then .float x else .null

def ofOption {α : Type} (encode : α → Data) : Option α → Data
  | none => .null
  | some a => encode a

def ofList {α : Type} (encode : α → Data) (items : List α) : Data :=
  .list (items.map encode)

/-! ### Fields of a record -/

/-- Sets a field, in place of an earlier one of the same name. -/
def putField (name : String) (value : Data) : List (String × Data) → List (String × Data)
  | [] => [(name, value)]
  | field :: rest =>
    if field.1 = name then (name, value) :: rest else field :: putField name value rest

def findField (name : String) : List (String × Data) → Option Data
  | [] => none
  | field :: rest => if field.1 = name then some field.2 else findField name rest

/-- A field of a record; a missing field and a field of anything else are null. -/
def field (tree : Data) (name : String) : Data :=
  match tree with
  | .record fields => (findField name fields).getD .null
  | _ => .null

def isNull : Data → Bool
  | .null => true
  | _ => false

/-! ### Decoding scalars -/

def toNat? (limit : Nat) : Data → Option Nat
  | .int n => if 0 ≤ n ∧ n.toNat < limit then some n.toNat else none
  | _ => none

def toWord? : Data → Option Nat :=
  toNat? (twoPow 64)

def toHalfWord? : Data → Option Nat :=
  toNat? (twoPow 32)

/-- Whole numbers are read as the nearest double. -/
def toFloat? : Data → Option Float
  | .float x => some x
  | .int n =>
    let magnitude := Double.ofCount n.natAbs
    some (if n < 0 then -magnitude else magnitude)
  | _ => none

def toText? : Data → Option String
  | .text s => some s
  | _ => none

def toBool? : Data → Option Bool
  | .bool b => some b
  | _ => none

def toList? {α : Type} (decode : Data → Option α) : Data → Option (List α)
  | .list items => items.mapM decode
  | _ => none

/-- Null stands for nothing. -/
def toOption? {α : Type} (decode : Data → Option α) : Data → Option (Option α)
  | .null => some none
  | tree => (decode tree).map some

/-- The name of an alternative: its text, or a record with the name and nothing more. -/
def toName? (dialect : Dialect) : Data → Option String
  | .text s => some s
  | .record [(name, content)] => if dialect.isNothing content then some name else none
  | _ => none

/-! ### Decoding records -/

/-- The named parts of a record.  A list gives the parts in the order of the
names, and a date has no named parts. -/
def toParts? (dialect : Dialect) (names : List String) : Data → Option (List (String × Data))
  | .record fields => some fields
  | .list items =>
    if items.length ≤ names.length || dialect.dropsSurplus then some (names.zip items) else none
  | .date _ => some []
  | _ => none

def required {α : Type} (name : String) (decode : Data → Option α)
    (parts : List (String × Data)) : Option α :=
  (findField name parts).bind decode

def withDefault {α : Type} (name : String) (value : α) (decode : Data → Option α)
    (parts : List (String × Data)) : Option α :=
  match findField name parts with
  | none => some value
  | some tree => decode tree

/-- A missing part and null both stand for nothing. -/
def optional {α : Type} (name : String) (decode : Data → Option α)
    (parts : List (String × Data)) : Option (Option α) :=
  withDefault name none (toOption? decode) parts

end Data

end TickArena
