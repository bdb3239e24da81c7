import TickArena.Ability.Outcome
import TickArena.Component.Form

/-!
# Bonuses, entries and outcomes as data
-/

namespace TickArena

def BonusKind.encode : BonusKind → Data
  | damageMultiplier => .text "damageMultiplier"
  | damageAdditive => .text "damageAdditive"
  | effectPowerMultiplier => .text "effectPowerMultiplier"
  | critChance => .text "critChance"
  | chainResonance => .text "chainResonance"
  | custom name => .record [("custom", .text name)]

def BonusKind.decode? : Data → Option BonusKind
  | .text "damageMultiplier" => some damageMultiplier
  | .text "damageAdditive" => some damageAdditive
  | .text "effectPowerMultiplier" => some effectPowerMultiplier
  | .text "critChance" => some critChance
  | .text "chainResonance" => some chainResonance
  | tree => (tree.field "custom").toText?.map custom

@[simp]
theorem BonusKind.decode?_encode (kind : BonusKind) : decode? kind.encode = some kind := by
  cases kind <;> rfl

def BonusOp.encode : BonusOp → Data
  | add => .text "add"
  | mul => .text "mul"

def BonusOp.decode? : Data → Option BonusOp
  | .text "add" => some add
  | .text "mul" => some mul
  | _ => none

@[simp]
theorem BonusOp.decode?_encode (op : BonusOp) : decode? op.encode = some op := by
  cases op <;> rfl

def Bonus.encode (bonus : Bonus) : Data :=
  .record
    [("source", .ofNat bonus.source), ("target", .ofNat bonus.target),
      ("kind", bonus.kind.encode), ("op", bonus.op.encode), ("value", .ofFloat bonus.value)]

def Entry.encode (entry : Entry) : Data :=
  .record
    [("id", .text entry.placement.componentId), ("slot", .ofNat entry.placement.slot),
      ("position", .ofNat entry.position),
      ("rarity", Vocabulary.encode entry.placement.rarity),
      ("multiplier", .ofFloat entry.placement.rarity.multiplier),
      ("evolution", .ofNat entry.placement.evolutionLevel),
      ("type", Vocabulary.encode entry.type)]

def Incoming.encode (incoming : Incoming) : Data :=
  .record
    [("damageMultiplier", .ofFloat incoming.damageMultiplier),
      ("damageAdditive", .ofFloat incoming.damageAdditive),
      ("effectPower", .ofFloat incoming.effectPower),
      ("critChance", .ofFloat incoming.critChance),
      ("chainResonance", .ofFloat incoming.chainResonance)]

def Outcome.encode : Outcome → Data
  | strike outcome =>
    .record
      [("kind", .text "damage"), ("damage", .ofFloat outcome.damage),
        ("damageType", Vocabulary.encode outcome.damageType),
        ("critical", .bool outcome.critical),
        ("effects", .ofList Effect.encode outcome.effects),
        ("aux", encodeStats outcome.telemetry), ("emitted", .ofList Bonus.encode outcome.emitted)]
  | weave outcome =>
    .record
      [("kind", .text "web"), ("damage", .ofFloat 0), ("touched", .ofNat outcome.touched),
        ("aux", encodeStats outcome.telemetry), ("emitted", .ofList Bonus.encode outcome.emitted)]

end TickArena
