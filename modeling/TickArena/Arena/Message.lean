import TickArena.Arena.Standing
import TickArena.Clock.Phase
import TickArena.Simulation.Form

/-!
# Outbound messages

Everything the engine tells the outside world, and its written form: the type of
the message and its payload.
-/

namespace TickArena

/-- The state of the clocks for a countdown, in seconds. -/
structure TimerUpdate where
  remaining : Float
  tickTotal : Float
  tick : Nat
  phase : Phase
  hourly : Bool
  warning : Bool
  nextHourly : Option Float

/-- What is announced of one participant at the end of a tick.  Of the report it shows the
rows and how many components are active. -/
structure FinalResult where
  participant : Nat
  tick : Nat
  totalDamage : Float
  baseDamage : Float
  rank : Nat
  activeComponents : Nat
  rows : List Row
  hourly : Bool
  multiplier : Float

def FinalResult.ofStanding (standing : Standing) : FinalResult :=
  { participant := standing.participant
    tick := standing.tick
    totalDamage := standing.totalDamage
    baseDamage := standing.baseDamage
    rank := standing.rank
    activeComponents := standing.report.activeComponents
    rows := standing.report.rows
    hourly := standing.hourly
    multiplier := standing.multiplier }

inductive Message where
  | phaseChanged (tick : Nat) (phase : Phase)
  | timer (update : TimerUpdate)
  | progress (done : Float) (processing : Nat)
  | liveUpdate (participant : Nat) (damage : Float) (active : Nat) (best : Option String)
  | finalResult (result : FinalResult)
  | tickSummary (summary : Summary)
  | hourlyWarning (startsInSeconds : Float)
  | hourlyEvent (multiplier : Float)

def TimerUpdate.encode (update : TimerUpdate) : Data :=
  .record
    [("timeRemaining", .ofFloat update.remaining), ("totalTickTime", .ofFloat update.tickTotal),
      ("currentTick", .ofNat update.tick), ("phase", update.phase.encode),
      ("isHourlyEvent", .bool update.hourly), ("hourlyWarning", .bool update.warning),
      ("nextHourlyEventIn", .ofOption .ofFloat update.nextHourly)]

def Leader.encode (leader : Leader) : Data :=
  .record
    [("participantId", .ofNat leader.participant), ("totalDamage", .ofFloat leader.totalDamage),
      ("rank", .ofNat leader.rank)]

def Summary.encode (summary : Summary) : Data :=
  .record
    [("tick", .ofNat summary.tick), ("totalDamage", .ofFloat summary.totalDamage),
      ("playerCount", .ofNat summary.players), ("averageDamage", .ofFloat summary.averageDamage),
      ("topDamage", .ofFloat summary.topDamage),
      ("topPerformers", .ofList Leader.encode summary.leaders),
      ("timedOut", .bool summary.timedOut)]

def FinalResult.encode (result : FinalResult) : Data :=
  .record
    [("participantId", .ofNat result.participant), ("tick", .ofNat result.tick),
      ("totalDamage", .ofFloat result.totalDamage), ("baseDamage", .ofFloat result.baseDamage),
      ("rank", .ofNat result.rank), ("activeComponents", .ofNat result.activeComponents),
      ("componentBreakdown", .ofList Row.encode result.rows),
      ("isHourlyEvent", .bool result.hourly), ("damageMultiplier", .ofFloat result.multiplier)]

namespace Message

def type : Message → String
  | phaseChanged _ _ => "phaseChanged"
  | timer _ => "timer"
  | progress _ _ => "progress"
  | liveUpdate _ _ _ _ => "liveUpdate"
  | finalResult _ => "finalResult"
  | tickSummary _ => "tickSummary"
  | hourlyWarning _ => "hourlyWarning"
  | hourlyEvent _ => "hourlyEvent"

def payload : Message → Data
  | phaseChanged tick phase => .record [("tick", .ofNat tick), ("phase", phase.encode)]
  | timer update => update.encode
  | progress done processing =>
    .record
      [("phase", Phase.evaluating.encode), ("progress", .ofFloat done),
        ("currentlyProcessing", .ofNat processing)]
  | liveUpdate participant damage active best =>
    .record
      [("participantId", .ofNat participant), ("totalDamageSoFar", .ofFloat damage),
        ("activeComponentCount", .ofNat active), ("bestComponent", .ofOption .text best)]
  | finalResult result => result.encode
  | tickSummary summary => summary.encode
  | hourlyWarning seconds => .record [("startsInSecs", .ofFloat seconds)]
  | hourlyEvent multiplier => .record [("damageMultiplier", .ofFloat multiplier)]

def encode (message : Message) : Data :=
  .record [("type", .text message.type), ("payload", message.payload)]

end Message

end TickArena
