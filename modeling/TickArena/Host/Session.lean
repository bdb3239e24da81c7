import TickArena.Arena.Broadcast
import TickArena.Catalog.Standard
import TickArena.Host.Arguments
import TickArena.Host.Demo
import TickArena.Host.Summary
import TickArena.Scheduler.Passage
import TickArena.Settings.Form

/-!
# Sessions

A session prepares an arena from files and arguments, runs its clock, and collects
the summaries of the ticks it was asked for.
-/

namespace TickArena.Host

/-- Why a session cannot start. -/
inductive Obstacle where
  | failure (cause : Failure)
  | fault (cause : TimeFault)
  | channelTooLarge

abbrev Files :=
  String → Except FileFault FileTree

def readText (files : Files) (path : String) : Except Failure String :=
  match files path with
  | .error cause => .error (.file cause)
  | .ok (.folder _) => .error (.file .isFolder)
  | .ok (.file bytes) =>
    match String.fromUTF8? bytes with
    | some text => .ok text
    | none => .error (.file .notText)

def shorten (settings : Settings) : Settings :=
  { settings with
    buildingSeconds := 2
    evaluatingSeconds := 1
    resultsSeconds := 0.5
    tickSeconds := none }

/-- The settings of a session: those of the file or the standard ones, then the seed,
then the short phases. -/
def loadSettings (files : Files) (arguments : Arguments) : Except Failure Settings := do
  let settings ←
    match arguments.settings with
    | some path => Settings.ofText (← readText files path)
    | none => .ok .standard
  let settings := { settings with seed := arguments.seed.getD settings.seed }
  if arguments.fast then (shorten settings).validated else return settings

/-- The catalog of a session: a file, a folder, or the standard one. -/
def loadCatalog (files : Files) (arguments : Arguments) : Except Failure Catalog :=
  match arguments.catalog with
  | none => .ok .standard
  | some path =>
    let (catalog, outcome) :=
      match files path with
      | .ok (.folder entries) => Catalog.loadFolder ∅ (.ok (.folder entries))
      | found => Catalog.loadFile ∅ found
    outcome.map fun _ => catalog

def liftFailure {α : Type} (outcome : Except Failure α) : Except Obstacle α :=
  outcome.mapError .failure

def liftFault {α : Type} (outcome : Except TimeFault α) : Except Obstacle α :=
  outcome.mapError .fault

/-- A running clock over an arena with demo participants. -/
def prepare (files : Files) (arguments : Arguments) : Except Obstacle Timeline := do
  let settings ← liftFailure (loadSettings files arguments)
  let catalog ← liftFailure (loadCatalog files arguments)
  if !settings.hasChannel then throw .channelTooLarge
  let arena := Arena.create catalog settings .everyone
  let timeline ← liftFault <|
    Timeline.start (seatDemo arena (arguments.participants.getD 8) settings.seed)
  liftFault timeline.startLoop

def summaries (sent : List Message) : List Summary :=
  sent.filterMap fun
    | .tickSummary summary => some summary
    | _ => none

def Arguments.tickCount (arguments : Arguments) : Nat :=
  arguments.ticks.getD 3

/-- How many alarms a number of ticks may need: one for each millisecond of a tick, and
those of its evaluation. -/
def alarmBound (timeline : Timeline) (ticks : Nat) : Nat :=
  (ticks + 1) * (timeline.scheduler.clock.cycle / Time.millisecond + timeline.waitBound + 2)

/-- Runs the clock until as many ticks have been summed up. -/
def runTicks (timeline : Timeline) (ticks : Nat) : List Summary :=
  if ticks = 0 then []
  else
    let enough (timeline : Timeline) : Bool := ticks ≤ (summaries timeline.sent).length
    let timeline := timeline.pass enough none (alarmBound timeline ticks)
    (summaries timeline.sent).take ticks

/-- The lines that a session prints, or why it cannot start. -/
def run (files : Files) (arguments : Arguments) : Except Obstacle (List String) := do
  let timeline ← prepare files arguments
  let printed := runTicks timeline arguments.tickCount
  return printed.flatMap (·.lines arguments.json)

/-! ### How a program ends -/

def Obstacle.exitCode : Obstacle → UInt8
  | failure _ => 1
  | fault _ | channelTooLarge => 101

/-- The exit code of a command line that is not understood. -/
def misuseCode : UInt8 :=
  2

end TickArena.Host
