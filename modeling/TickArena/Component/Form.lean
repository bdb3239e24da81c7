import TickArena.Component.Basic
import TickArena.Component.Effect

/-!
# Components as data

The written form of definitions, requirements and effects, and the reading of it.
Readers accept a record in any order, ignore names they do not know, and take the
defaults of parts that may be missing.
-/

namespace TickArena

open Data (required withDefault optional toText? toFloat? toWord? toHalfWord?)

variable {α : Type} [Vocabulary α]

/-! ### Effects -/

def Effect.encode (effect : Effect) : Data :=
  .record
    [("kind", Vocabulary.encode effect.kind), ("power", .ofFloat effect.power),
      ("duration", .ofNat effect.duration)]

def Effect.decode? (dialect : Dialect) (tree : Data) : Option Effect := do
  let parts ← tree.toParts? dialect ["kind", "power", "duration"]
  let kind ← required "kind" (Vocabulary.decode? dialect) parts
  let power ← required "power" toFloat? parts
  let duration ← required "duration" toHalfWord? parts
  return ⟨kind, power, duration⟩

/-! ### Criteria -/

def Criteria.encode (criteria : Criteria) : Data :=
  .record
    [("type", .ofOption Vocabulary.encode criteria.type),
      ("tag", .ofOption Vocabulary.encode criteria.tag),
      ("rarity", .ofOption Vocabulary.encode criteria.rarity),
      ("id", .ofOption .text criteria.id)]

def Criteria.decode? (dialect : Dialect) (tree : Data) : Option Criteria := do
  let parts ← tree.toParts? dialect ["type", "tag", "rarity", "id"]
  let type ← optional "type" (Vocabulary.decode? dialect) parts
  let tag ← optional "tag" (Vocabulary.decode? dialect) parts
  let rarity ← optional "rarity" (Vocabulary.decode? dialect) parts
  let id ← optional "id" toText? parts
  return ⟨type, tag, rarity, id⟩

/-! ### Requirements -/

def Requirement.parts : Requirement → List (String × Data)
  | position rule => [("position", Vocabulary.encode rule)]
  | adjacentTag tag direction =>
    [("tag", Vocabulary.encode tag), ("direction", Vocabulary.encode direction)]
  | adjacentType type direction =>
    [("type", Vocabulary.encode type), ("direction", Vocabulary.encode direction)]
  | sandwich previous next => [("previous", previous.encode), ("next", next.encode)]
  | sequenceCount criteria minimum =>
    [("criteria", criteria.encode), ("minimum", .ofNat minimum)]
  | tagDiversity minimum => [("minimum", .ofNat minimum)]
  | globalPresence criteria => [("criteria", criteria.encode)]
  | evolutionStage minimum => [("minimum", .ofNat minimum)]
  | custom condition => [("condition", .text condition)]

def Requirement.encode (requirement : Requirement) : Data :=
  .record (("kind", .text requirement.kind) :: requirement.parts)

/-- The requirement of a kind from its parts, which are read by the inner rules. -/
def Requirement.ofKind? (kind : String) (tree : Data) : Option Requirement :=
  match kind with
  | "position" => do
    let parts ← tree.toParts? .inner ["position"]
    return position (← required "position" (Vocabulary.decode? .inner) parts)
  | "adjacent_tag" => do
    let parts ← tree.toParts? .inner ["tag", "direction"]
    let tag ← required "tag" (Vocabulary.decode? .inner) parts
    return adjacentTag tag (← required "direction" (Vocabulary.decode? .inner) parts)
  | "adjacent_type" => do
    let parts ← tree.toParts? .inner ["type", "direction"]
    let type ← required "type" (Vocabulary.decode? .inner) parts
    return adjacentType type (← required "direction" (Vocabulary.decode? .inner) parts)
  | "sandwich" => do
    let parts ← tree.toParts? .inner ["previous", "next"]
    let previous ← required "previous" (Criteria.decode? .inner) parts
    return sandwich previous (← required "next" (Criteria.decode? .inner) parts)
  | "sequence_count" => do
    let parts ← tree.toParts? .inner ["criteria", "minimum"]
    let criteria ← required "criteria" (Criteria.decode? .inner) parts
    return sequenceCount criteria (← required "minimum" toWord? parts)
  | "tag_diversity" => do
    let parts ← tree.toParts? .inner ["minimum"]
    return tagDiversity (← required "minimum" toWord? parts)
  | "global_presence" => do
    let parts ← tree.toParts? .inner ["criteria"]
    return globalPresence (← required "criteria" (Criteria.decode? .inner) parts)
  | "evolution_stage" => do
    let parts ← tree.toParts? .inner ["minimum"]
    return evolutionStage (← required "minimum" toHalfWord? parts)
  | "custom" => do
    let parts ← tree.toParts? .inner ["condition"]
    return custom (← required "condition" toText? parts)
  | _ => none

/-- A list holds the kind first and then the parts in their order. -/
def Requirement.decode? (tree : Data) : Option Requirement :=
  match tree with
  | .record fields => do ofKind? (← required "kind" toText? fields) tree
  | .list (.text kind :: parts) => ofKind? kind (.list parts)
  | _ => none

/-! ### Abilities -/

def Ability.encode : Ability → Data
  | strike behavior => .record [("execute", Vocabulary.encode behavior)]
  | weave behavior => .record [("modify_web", Vocabulary.encode behavior)]

def Ability.decode? (dialect : Dialect) : Data → Option Ability
  | .record [("execute", behavior)] => (Vocabulary.decode? dialect behavior).map strike
  | .record [("modify_web", behavior)] => (Vocabulary.decode? dialect behavior).map weave
  | _ => none

/-! ### Tags and stats -/

def TagSet.encode (tags : TagSet) : Data :=
  .ofList Vocabulary.encode tags.toList

def TagSet.decode? (dialect : Dialect) (tree : Data) : Option TagSet :=
  (tree.toList? (Vocabulary.decode? dialect)).map TagSet.ofList

def encodeStats (stats : Table String Float) : Data :=
  .record (stats.rows.map fun row => (row.1, .ofFloat row.2))

def decodeStats? : Data → Option (Table String Float)
  | .record fields =>
    (fields.mapM fun field => (toFloat? field.2).map fun value => (field.1, value)).map Table.ofList
  | _ => none

/-! ### Definitions -/

def Component.encode (component : Component) : Data :=
  .record
    [("id", .text component.id), ("name", .text component.label),
      ("description", .text component.description),
      ("type", Vocabulary.encode component.type), ("rarity", Vocabulary.encode component.rarity),
      ("base_stats", encodeStats component.baseStats), ("tags", component.tags.encode),
      ("requirements", .ofList Requirement.encode component.requirements),
      ("ability", component.ability.encode)]

def Component.decode? (dialect : Dialect) (tree : Data) : Option Component := do
  let parts ← tree.toParts? dialect
    ["id", "name", "description", "type", "rarity", "base_stats", "tags", "requirements", "ability"]
  let id ← required "id" toText? parts
  let label ← withDefault "name" "" toText? parts
  let description ← withDefault "description" "" toText? parts
  let type ← required "type" (Vocabulary.decode? dialect) parts
  let rarity ← required "rarity" (Vocabulary.decode? dialect) parts
  let baseStats ← withDefault "base_stats" ∅ decodeStats? parts
  let tags ← withDefault "tags" ∅ (TagSet.decode? dialect) parts
  let requirements ← withDefault "requirements" [] (Data.toList? Requirement.decode?) parts
  let ability ← required "ability" (Ability.decode? dialect) parts
  return { id, label, description, type, rarity, baseStats, tags, requirements, ability }

end TickArena
