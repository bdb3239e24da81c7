import TickArena.Power

/-!
# Doubles seen exactly

A finite double is `m · 2^q` for integers `m` and `q`; the view below names both,
and everything that rounds or prints a double is arithmetic on them.  The order
key turns the total order of doubles, with not-a-number above every number and
the two zeros equal, into the order of the integers.
-/

namespace TickArena.Double

/-- What a double stands for. -/
inductive View where
  | finite (negative : Bool) (m : Nat) (q : Int)
  | infinite (negative : Bool)
  | notANumber
  deriving DecidableEq

def isNegative (x : Float) : Bool :=
  x.toBits.toNat / twoPow 63 = 1

def view (x : Float) : View :=
  let bits := x.toBits.toNat
  let exponent := bits / twoPow 52 % twoPow 11
  let fraction := bits % twoPow 52
  if exponent = 2047 then
    if fraction = 0 then .infinite (isNegative x) else .notANumber
  else if exponent = 0 then .finite (isNegative x) fraction (-1074)
  else .finite (isNegative x) (fraction + twoPow 52) (Int.ofNat exponent - 1075)

/-- Not-a-number is the greatest, and both zeros have key zero. -/
def orderKey (x : Float) : Int :=
  match view x with
  | .notANumber => twoPow 63
  | _ =>
    let magnitude := Int.ofNat (x.toBits.toNat % twoPow 63)
    if isNegative x then -magnitude else magnitude

/-- The number itself if it is positive, and zero otherwise, also for not-a-number. -/
def clampAtZero (x : Float) : Float :=
  if 0 < x then x else 0

/-- The larger of two numbers; not-a-number yields the other one. -/
def larger (x y : Float) : Float :=
  if x.isNaN then y else if x < y then y else x

/-- The sum from left to right.  Negative zero is the neutral start: adding it
changes no number. -/
def leftSum (xs : List Float) : Float :=
  xs.foldl (· + ·) (-0.0)

/-- The product from left to right, starting from one. -/
def leftProduct (xs : List Float) : Float :=
  xs.foldl (· * ·) 1

/-- The double nearest to a count below `2^64`. -/
def ofCount (n : Nat) : Float :=
  (UInt64.ofNat n).toFloat

end TickArena.Double
