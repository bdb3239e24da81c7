import TickArena.Host.Session

/-!
# The program

Runs a session in real time: the clock of the session is moved by one quantum after
each sleep of that length, and the summary of a tick is printed when it arrives.
-/

namespace TickArena.Host

def fileAt (path : Option String) : IO (Except FileFault FileTree) := do
  match path with
  | none => return .error .notFound
  | some path =>
    try
      return .ok (.file (← IO.FS.readBinFile path))
    catch _ => return .error .notFound

def filesOf (arguments : Arguments) : IO Files := do
  let settings ← fileAt arguments.settings
  let catalog ← fileAt arguments.catalog
  return fun path => if some path = arguments.settings then settings else catalog

/-- Follows the clock until the ticks that are left have been printed. -/
partial def follow (timeline : Timeline) (json : Bool) (left : Nat) : IO Unit := do
  if left = 0 then return
  let settings := timeline.arena.settings
  IO.sleep (UInt32.ofNat settings.clockQuantumMs)
  let (timeline, sent) := (timeline.sleep settings.clockQuantum).drain.takeSent
  let arrived := (summaries sent).take left
  for summary in arrived do
    for line in summary.lines json do
      IO.println line
  follow timeline json (left - arrived.length)

/-- The text for a command line that is not understood. -/
def usage : String :=
  "usage: tick-arena [--config FILE] [--catalog FILE] [--participants N] [--ticks N] "
    ++ "[--seed N] [--json] [--fast]"

def Obstacle.message : Obstacle → String
  | failure cause => cause.message
  | fault _ => "a duration is out of range"
  | channelTooLarge => "the channel is too large"

end TickArena.Host

open TickArena.Host in
def main (arguments : List String) : IO UInt32 := do
  match Command.ofArguments arguments with
  | .help =>
    IO.println usage
    return 0
  | .misused =>
    IO.eprintln usage
    return misuseCode.toUInt32
  | .run arguments =>
    match prepare (← filesOf arguments) arguments with
    | .error obstacle =>
      IO.eprintln obstacle.message
      return obstacle.exitCode.toUInt32
    | .ok timeline =>
      follow timeline arguments.json arguments.tickCount
      return 0
