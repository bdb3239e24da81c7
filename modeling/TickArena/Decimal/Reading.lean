import TickArena.Double

/-!
# Reading decimals

A decimal literal stands for the double nearest to its value.  Exponents far
outside the range of doubles are settled without computing the power of ten.
-/

namespace TickArena.Decimal

def infinity : Float :=
  1 / 0

/-- The double nearest to `digits · 10^exponent`; infinite above the largest double. -/
def toDouble (digits : Nat) (exponent : Int) : Float :=
  let point := exponent + (toString digits).length
  if digits = 0 ∨ point < -340 then 0
  else if 320 < point then infinity
  else OfScientific.ofScientific digits (exponent < 0) exponent.natAbs

/-- The value of a list of decimal digits, read from the left. -/
def digitsValue (digits : List Char) : Nat :=
  digits.foldl (fun value c => 10 * value + (c.toNat - '0'.toNat)) 0

/-- A literal in its parts: whole digits, places after the point, power of ten. -/
structure Literal where
  negative : Bool
  whole : List Char
  places : List Char
  power : Int
  deriving DecidableEq

def Literal.toFloat (l : Literal) : Float :=
  let x := toDouble (digitsValue (l.whole ++ l.places)) (l.power - l.places.length)
  if l.negative then -x else x

end TickArena.Decimal
