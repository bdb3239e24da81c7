import TickArena.Component.Form
import TickArena.Simulation.Report

/-!
# Reports as data

Parts that a row does not have are left out.
-/

namespace TickArena

/-- A part that is written only if there is something to write. -/
def Data.partIf (present : Bool) (name : String) (tree : Data) : List (String × Data) :=
  if present then [(name, tree)] else []

def Row.encode (row : Row) : Data :=
  .record <|
    [("componentId", .text row.componentId), ("position", .ofNat row.position),
      ("slot", .ofNat row.slot), ("componentType", Vocabulary.encode row.type),
      ("rarity", Vocabulary.encode row.rarity), ("active", .bool row.active)]
    ++ Data.partIf row.reason.isSome "reason" (.ofOption .text row.reason)
    ++ [("damage", .ofFloat row.damage)]
    ++ Data.partIf row.damageType.isSome "damageType" (.ofOption Vocabulary.encode row.damageType)
    ++ [("critical", .bool row.critical), ("effects", .ofList Effect.encode row.effects),
      ("touched", .ofNat row.touched)]
    ++ Data.partIf (row.telemetry.size ≠ 0) "aux" (encodeStats row.telemetry)

def Report.encode (report : Report) : Data :=
  .record <|
    [("components", .ofList Row.encode report.rows),
      ("totalDamage", .ofFloat report.totalDamage),
      ("effects", .ofList Effect.encode report.effects),
      ("activeComponents", .ofNat report.activeComponents)]
    ++ Data.partIf (!report.diagnostics.isEmpty) "diagnostics" (.ofList .text report.diagnostics)

end TickArena
