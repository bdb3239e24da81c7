import TickArena.Double
import TickArena.Rounding

/-!
# Durations and instants

Both are counts of nanoseconds; an instant counts from the start of the clock.
The clock has a range, and a computation that leaves it is a fault, not an answer.
-/

namespace TickArena

/-- A length of time in nanoseconds. -/
abbrev Duration := Nat

/-- The nanoseconds since the start of the clock. -/
abbrev Instant := Nat

/-- A computation left the range of the clock. -/
inductive TimeFault where
  | secondsOutOfRange
  | durationTooLong
  | instantTooLate
  deriving DecidableEq, Repr

namespace Time

def second : Duration :=
  tenPow 9

def millisecond : Duration :=
  tenPow 6

/-- Every duration is shorter. -/
def durationLimit : Duration :=
  twoPow 64 * second

/-- Every instant is earlier. -/
def instantLimit : Instant :=
  twoPow 63 * second

/-- The exact number of seconds, rounded to whole nanoseconds.  Negative zero is no
negative length. -/
def ofSeconds (seconds : Float) : Except TimeFault Duration :=
  match Double.view seconds with
  | .finite negative m q =>
    if negative ∧ m ≠ 0 then .error .secondsOutOfRange
    else
      let length := roundHalfEven (m * twoPow q.toNat * second) (twoPow (-q).toNat)
      if length < durationLimit then .ok length else .error .secondsOutOfRange
  | _ => .error .secondsOutOfRange

/-- Whole seconds and the fraction are converted on their own and then added. -/
def toSeconds (length : Duration) : Float :=
  Double.ofCount (length / second) + Double.ofCount (length % second) / Double.ofCount second

def ofMilliseconds (count : Nat) : Duration :=
  count * millisecond

def sum (a b : Duration) : Except TimeFault Duration :=
  if a + b < durationLimit then .ok (a + b) else .error .durationTooLong

def after (start : Instant) (length : Duration) : Except TimeFault Instant :=
  if start + length < instantLimit then .ok (start + length) else .error .instantTooLate

end Time

end TickArena
