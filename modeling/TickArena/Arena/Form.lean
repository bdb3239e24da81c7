import TickArena.Arena.Basic
import TickArena.Simulation.Form

/-!
# Submissions, standings and performances as data
-/

namespace TickArena

def Submission.encode (submission : Submission) : Data :=
  .record [("slots", Slots.encode submission.slots), ("hash", .text submission.hash)]

def Standing.encode (standing : Standing) : Data :=
  .record
    [("participant", .ofNat standing.participant), ("tick", .ofNat standing.tick),
      ("rank", .ofNat standing.rank), ("baseDamage", .ofFloat standing.baseDamage),
      ("totalDamage", .ofFloat standing.totalDamage),
      ("damageMultiplier", .ofFloat standing.multiplier),
      ("isHourlyEvent", .bool standing.hourly), ("report", standing.report.encode)]

def Performance.encode (performance : Performance) : Data :=
  .record
    [("ticksParticipated", .ofNat performance.ticks),
      ("bestTickDamage", .ofFloat performance.bestDamage),
      ("cumulativeDamage", .ofFloat performance.cumulativeDamage),
      ("lastRank", .ofOption .ofNat performance.lastRank)]

end TickArena
