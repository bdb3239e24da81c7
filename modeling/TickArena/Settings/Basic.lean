import TickArena.Decimal.Layout
import TickArena.Time

/-!
# Settings

The lengths of the phases and of the hourly event, how evaluations are batched,
what a submission may hold, and how often the outside world is told.  Settings are
stored as they are written; turning seconds into durations can fail.
-/

namespace TickArena

structure Settings where
  buildingSeconds : Float
  evaluatingSeconds : Float
  resultsSeconds : Float
  /-- A stated length of the whole tick, which must agree with the three phases. -/
  tickSeconds : Option Float
  clockQuantumMs : Nat
  hourlyIntervalSeconds : Float
  hourlyWarningSeconds : Float
  hourlyMultiplier : Float
  batchSize : Nat
  batchDelayMs : Nat
  timeoutSeconds : Float
  parallelThreshold : Nat
  allowEmptySlots : Bool
  enforceOwnership : Bool
  maxEvolutionLevel : Nat
  progressIntervalMs : Nat
  timerIntervalMs : Nat
  topPerformers : Nat
  broadcastCapacity : Nat
  seed : Nat

namespace Settings

/-- A tick of one minute, and an hourly event with a warning of five minutes. -/
def standard : Settings where
  buildingSeconds := 40
  evaluatingSeconds := 15
  resultsSeconds := 5
  tickSeconds := none
  clockQuantumMs := 100
  hourlyIntervalSeconds := 3600
  hourlyWarningSeconds := 300
  hourlyMultiplier := 100
  batchSize := 25
  batchDelayMs := 10
  timeoutSeconds := 10
  parallelThreshold := 16
  allowEmptySlots := true
  enforceOwnership := true
  maxEvolutionLevel := 10
  progressIntervalMs := 250
  timerIntervalMs := 1000
  topPerformers := 10
  broadcastCapacity := 1024
  seed := 24301

instance : Inhabited Settings := ⟨standard⟩

/-! ### Durations -/

def building (settings : Settings) : Except TimeFault Duration :=
  Time.ofSeconds settings.buildingSeconds

def evaluating (settings : Settings) : Except TimeFault Duration :=
  Time.ofSeconds settings.evaluatingSeconds

def results (settings : Settings) : Except TimeFault Duration :=
  Time.ofSeconds settings.resultsSeconds

/-- The whole tick is the sum of its phases. -/
def tick (settings : Settings) : Except TimeFault Duration := do
  Time.sum (← Time.sum (← settings.building) (← settings.evaluating)) (← settings.results)

def hourlyInterval (settings : Settings) : Except TimeFault Duration :=
  Time.ofSeconds settings.hourlyIntervalSeconds

def hourlyWarning (settings : Settings) : Except TimeFault Duration :=
  Time.ofSeconds settings.hourlyWarningSeconds

def timeout (settings : Settings) : Except TimeFault Duration :=
  Time.ofSeconds settings.timeoutSeconds

def clockQuantum (settings : Settings) : Duration :=
  Time.ofMilliseconds settings.clockQuantumMs

def batchDelay (settings : Settings) : Duration :=
  Time.ofMilliseconds settings.batchDelayMs

def progressInterval (settings : Settings) : Duration :=
  Time.ofMilliseconds settings.progressIntervalMs

def timerInterval (settings : Settings) : Duration :=
  Time.ofMilliseconds settings.timerIntervalMs

/-! ### Validation -/

def phaseSeconds (settings : Settings) : Float :=
  settings.buildingSeconds + settings.evaluatingSeconds + settings.resultsSeconds

/-- A phase must have a positive, finite length. -/
def phaseProblem? (name : String) (seconds : Float) : Option String :=
  if !seconds.isFinite || seconds ≤ 0 then
    some s!"{name} must be positive (got {Decimal.plain seconds})"
  else none

def tickProblem? (settings : Settings) : Option String :=
  match settings.tickSeconds with
  | none => none
  | some stated =>
    if 1e-6 < (stated - settings.phaseSeconds).abs then
      some <| s!"tick_duration_secs ({Decimal.plain stated}) must equal "
        ++ s!"the sum of phase durations ({Decimal.plain settings.phaseSeconds})"
    else none

def hourlyProblem? (settings : Settings) : Option String :=
  let interval := settings.hourlyIntervalSeconds
  let warning := settings.hourlyWarningSeconds
  let multiplier := settings.hourlyMultiplier
  if interval ≤ 0 then some "hourly_interval_secs must be positive"
  else if warning < 0 || interval ≤ warning then
    some <| s!"hourly_warning_secs ({Decimal.plain warning}) must be in "
      ++ s!"[0, hourly_interval_secs ({Decimal.plain interval}))"
  else if !multiplier.isFinite || multiplier < 0 then
    some "hourly_damage_multiplier must be a non-negative number"
  else none

def batchProblem? (settings : Settings) : Option String :=
  if settings.batchSize = 0 then some "batch_size must be at least 1"
  else if settings.batchSize < settings.parallelThreshold then
    some <| s!"parallel_threshold ({settings.parallelThreshold}) exceeds batch_size "
      ++ s!"({settings.batchSize}); batches would never run in parallel"
  else if settings.timeoutSeconds ≤ 0 then some "evaluation_timeout_secs must be positive"
  else if settings.clockQuantumMs = 0 then some "clock_quantum_ms must be at least 1"
  else if settings.broadcastCapacity = 0 then some "broadcast_capacity must be at least 1"
  else none

def problem? (settings : Settings) : Option String :=
  phaseProblem? "building_duration_secs" settings.buildingSeconds
    <|> phaseProblem? "evaluating_duration_secs" settings.evaluatingSeconds
    <|> phaseProblem? "results_duration_secs" settings.resultsSeconds
    <|> settings.tickProblem?
    <|> settings.hourlyProblem?
    <|> settings.batchProblem?

end Settings

end TickArena
