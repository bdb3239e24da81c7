import TickArena.Data.Toml.Reader
import TickArena.Failure
import TickArena.Settings.Basic

/-!
# Settings as data

Every part may be missing and then has its standard value.  Settings read from a
text are valid; settings read from data are taken as they are.
-/

namespace TickArena

namespace Settings

def encode (settings : Settings) : Data :=
  .record
    [("building_duration_secs", .ofFloat settings.buildingSeconds),
      ("evaluating_duration_secs", .ofFloat settings.evaluatingSeconds),
      ("results_duration_secs", .ofFloat settings.resultsSeconds),
      ("tick_duration_secs", .ofOption .ofFloat settings.tickSeconds),
      ("clock_quantum_ms", .ofNat settings.clockQuantumMs),
      ("hourly_interval_secs", .ofFloat settings.hourlyIntervalSeconds),
      ("hourly_warning_secs", .ofFloat settings.hourlyWarningSeconds),
      ("hourly_damage_multiplier", .ofFloat settings.hourlyMultiplier),
      ("batch_size", .ofNat settings.batchSize),
      ("inter_batch_delay_ms", .ofNat settings.batchDelayMs),
      ("evaluation_timeout_secs", .ofFloat settings.timeoutSeconds),
      ("parallel_threshold", .ofNat settings.parallelThreshold),
      ("allow_empty_slots", .bool settings.allowEmptySlots),
      ("enforce_ownership", .bool settings.enforceOwnership),
      ("max_evolution_level", .ofNat settings.maxEvolutionLevel),
      ("progress_interval_ms", .ofNat settings.progressIntervalMs),
      ("timer_broadcast_interval_ms", .ofNat settings.timerIntervalMs),
      ("top_performers", .ofNat settings.topPerformers),
      ("broadcast_capacity", .ofNat settings.broadcastCapacity),
      ("rng_seed", .ofNat settings.seed)]

def partNames : List String :=
  ["building_duration_secs", "evaluating_duration_secs", "results_duration_secs",
    "tick_duration_secs", "clock_quantum_ms", "hourly_interval_secs", "hourly_warning_secs",
    "hourly_damage_multiplier", "batch_size", "inter_batch_delay_ms", "evaluation_timeout_secs",
    "parallel_threshold", "allow_empty_slots", "enforce_ownership", "max_evolution_level",
    "progress_interval_ms", "timer_broadcast_interval_ms", "top_performers",
    "broadcast_capacity", "rng_seed"]

def decode? (dialect : Dialect) (tree : Data) : Option Settings := do
  let parts ← tree.toParts? dialect partNames
  let seconds (name : String) (value : Float) := Data.withDefault name value Data.toFloat? parts
  let word (name : String) (value : Nat) := Data.withDefault name value Data.toWord? parts
  let flag (name : String) (value : Bool) := Data.withDefault name value Data.toBool? parts
  let d := standard
  return {
    buildingSeconds := ← seconds "building_duration_secs" d.buildingSeconds
    evaluatingSeconds := ← seconds "evaluating_duration_secs" d.evaluatingSeconds
    resultsSeconds := ← seconds "results_duration_secs" d.resultsSeconds
    tickSeconds := ← Data.optional "tick_duration_secs" Data.toFloat? parts
    clockQuantumMs := ← word "clock_quantum_ms" d.clockQuantumMs
    hourlyIntervalSeconds := ← seconds "hourly_interval_secs" d.hourlyIntervalSeconds
    hourlyWarningSeconds := ← seconds "hourly_warning_secs" d.hourlyWarningSeconds
    hourlyMultiplier := ← seconds "hourly_damage_multiplier" d.hourlyMultiplier
    batchSize := ← word "batch_size" d.batchSize
    batchDelayMs := ← word "inter_batch_delay_ms" d.batchDelayMs
    timeoutSeconds := ← seconds "evaluation_timeout_secs" d.timeoutSeconds
    parallelThreshold := ← word "parallel_threshold" d.parallelThreshold
    allowEmptySlots := ← flag "allow_empty_slots" d.allowEmptySlots
    enforceOwnership := ← flag "enforce_ownership" d.enforceOwnership
    maxEvolutionLevel :=
      ← Data.withDefault "max_evolution_level" d.maxEvolutionLevel Data.toHalfWord? parts
    progressIntervalMs := ← word "progress_interval_ms" d.progressIntervalMs
    timerIntervalMs := ← word "timer_broadcast_interval_ms" d.timerIntervalMs
    topPerformers := ← word "top_performers" d.topPerformers
    broadcastCapacity := ← word "broadcast_capacity" d.broadcastCapacity
    seed := ← word "rng_seed" d.seed }

/-- Every length of time that the settings determine, by name. -/
def durations (settings : Settings) : List (String × Except TimeFault Duration) :=
  [("building", settings.building), ("evaluating", settings.evaluating),
    ("results", settings.results), ("tick", settings.tick),
    ("hourly_interval", settings.hourlyInterval), ("hourly_warning", settings.hourlyWarning),
    ("clock_quantum", .ok settings.clockQuantum),
    ("inter_batch_delay", .ok settings.batchDelay), ("evaluation_timeout", settings.timeout),
    ("progress_interval", .ok settings.progressInterval),
    ("timer_broadcast_interval", .ok settings.timerInterval)]

/-- Settings that are valid, or what is wrong with them. -/
def validated (settings : Settings) : Except Failure Settings :=
  match settings.problem? with
  | some problem => .error (.settings problem)
  | none => .ok settings

def ofText (text : String) : Except Failure Settings :=
  match (Toml.read? text).bind (decode? .toml) with
  | none => .error .malformed
  | some settings => settings.validated

end Settings

end TickArena
