import TickArena.Catalog.Condition

/-!
# Catalogs

A catalog holds the valid definitions in the order they were registered, each id
once, and the custom conditions that their requirements may name.
-/

namespace TickArena

structure Catalog where
  components : List Component
  conditions : Conditions

namespace Catalog

def ofConditions (conditions : Conditions) : Catalog :=
  ⟨[], conditions⟩

instance : EmptyCollection Catalog := ⟨ofConditions .standard⟩

def size (catalog : Catalog) : Nat :=
  catalog.components.length

def ids (catalog : Catalog) : List String :=
  catalog.components.map Component.id

def get? (catalog : Catalog) (id : String) : Option Component :=
  catalog.components.find? fun component => component.id = id

def contains (catalog : Catalog) (id : String) : Bool :=
  (catalog.get? id).isSome

def lookup (catalog : Catalog) (id : String) : Except Failure Component :=
  match catalog.get? id with
  | some component => .ok component
  | none => .error (.unknownComponent id)

/-- The definitions of one type in the order of registration. -/
def ofType (catalog : Catalog) (type : ComponentType) : List Component :=
  catalog.components.filter fun component => component.type = type

/-! ### Validation -/

def isBlank (c : Char) : Bool :=
  let code := c.toNat
  (0x09 ≤ code && code ≤ 0x0D) || code = 0x20 || code = 0x85 || code = 0xA0 || code = 0x1680
    || (0x2000 ≤ code && code ≤ 0x200A) || code = 0x2028 || code = 0x2029 || code = 0x202F
    || code = 0x205F || code = 0x3000

/-- What is wrong with a requirement, apart from the shape of its data. -/
def requirementProblem? (conditions : Conditions) : Requirement → Option String
  | .sandwich previous next =>
    if previous.isEmpty || next.isEmpty then
      some "both neighbor criteria must set at least one field"
    else none
  | .sequenceCount criteria minimum =>
    if criteria.isEmpty then some "criteria must set at least one field"
    else if minimum = 0 then some "minimum must be at least 1"
    else none
  | .globalPresence criteria =>
    if criteria.isEmpty then some "criteria must set at least one field" else none
  | .tagDiversity minimum => if minimum = 0 then some "minimum must be at least 1" else none
  | .custom condition =>
    if conditions.contains condition then none
    else some s!"no executable condition named '{condition}'"
  | .position _ | .adjacentTag _ _ | .adjacentType _ _ | .evolutionStage _ => none

/-- The first requirement with a problem, its index and the problem. -/
def firstProblem? (conditions : Conditions) (requirements : List Requirement) :
    Option (Nat × Requirement × String) :=
  requirements.zipIdx.findSome? fun (requirement, index) =>
    (requirementProblem? conditions requirement).map fun problem => (index, requirement, problem)

/-- Checks a definition on its own: the id, the ability, the stats in order of their
names, and then the requirements. -/
def validate (catalog : Catalog) (component : Component) : Except SchemaError Unit :=
  if component.id.all isBlank then .error .missingId
  else if !component.ability.fits component.type then
    .error (.abilityMismatch component.id (Vocabulary.title component.type)
      component.ability.display)
  else
    match component.baseStats.rows.find? fun row => !row.2.isFinite with
    | some row => .error (.invalidStat component.id row.1)
    | none =>
      match firstProblem? catalog.conditions component.requirements with
      | some (index, requirement, problem) =>
        .error (.invalidRequirement component.id index requirement.kind problem)
      | none => .ok ()

def register (catalog : Catalog) (component : Component) : Except SchemaError Catalog := do
  catalog.validate component
  if catalog.contains component.id then .error (.duplicateId component.id)
  else .ok { catalog with components := catalog.components ++ [component] }

end Catalog

end TickArena
