import TickArena.Time

/-!
# The virtual clock

A virtual clock moves only when it is moved.  Alarms go off at whole milliseconds, and
a clock that is pushed forward has alarms to catch up with: they go off when it rings.
-/

namespace TickArena

/-- The present, and the millisecond up to which alarms have gone off. -/
structure VirtualClock where
  now : Instant
  rung : Nat
  deriving DecidableEq, Repr

namespace VirtualClock

def start : VirtualClock :=
  ⟨0, 0⟩

/-- The alarm of an instant: its millisecond, or the first one after it. -/
def alarmAt (instant : Instant) : Nat :=
  (instant + Time.millisecond - 1) / Time.millisecond

def alarmAfter (clock : VirtualClock) (length : Duration) : Nat :=
  alarmAt (clock.now + length)

def hasRung (clock : VirtualClock) (alarm : Nat) : Bool :=
  alarm ≤ clock.rung

/-- Moves on to an alarm, by whole milliseconds. -/
def moveTo (clock : VirtualClock) (alarm : Nat) : VirtualClock where
  now := clock.now + Time.ofMilliseconds (alarm - clock.now / Time.millisecond)
  rung := max clock.rung alarm

/-- Pushes the clock forward; its alarms do not go off yet. -/
def push (clock : VirtualClock) (length : Duration) : VirtualClock :=
  { clock with now := clock.now + length }

def ring (clock : VirtualClock) : VirtualClock :=
  { clock with rung := clock.now / Time.millisecond }

end VirtualClock

end TickArena
