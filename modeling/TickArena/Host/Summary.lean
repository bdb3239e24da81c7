import TickArena.Arena.Message
import TickArena.Arena.Rejection
import TickArena.Data.Json.Writer

/-!
# Printed summaries

A tick is printed as one line of JSON, or as a headline and a table of the leaders.
-/

namespace TickArena

namespace Host

def padRight (width : Nat) (text : String) : String :=
  text ++ String.ofList (List.replicate (width - text.length) ' ')

def padLeft (width : Nat) (text : String) : String :=
  String.ofList (List.replicate (width - text.length) ' ') ++ text

/-- Damage has one place after the point. -/
def damageText (damage : Float) : String :=
  Decimal.fixed 1 damage

end Host

open Host

def Leader.line (leader : Leader) : String :=
  let rank := padRight 2 (toString leader.rank)
  let name := padRight 16 (participantName leader.participant)
  s!"  #{rank} {name} {padLeft 10 (damageText leader.totalDamage)}"

def Summary.headline (summary : Summary) : String :=
  s!"Tick {summary.tick}: {summary.players} players, total {damageText summary.totalDamage}, "
    ++ s!"average {damageText summary.averageDamage}, top {damageText summary.topDamage}"
    ++ (if summary.timedOut then " (timed out)" else "")

def Summary.lines (summary : Summary) (json : Bool) : List String :=
  if json then [Json.write summary.encode]
  else summary.headline :: summary.leaders.map Leader.line

end TickArena
