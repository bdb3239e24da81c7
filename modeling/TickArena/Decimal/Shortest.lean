import TickArena.Double

/-!
# Shortest decimal digits of a double

A decimal reads back as the double `m · 2^q` exactly when it lies in the interval
of reals that round to it.  The digits are searched grid by grid, from coarse to
fine: on the grid of multiples of `10^k` only the two neighbours of the value need
a test, and the first grid with a neighbour in the interval gives the fewest
digits.
-/

namespace TickArena.Decimal

/-- The decimal `digits · 10^exponent`. -/
structure Digits where
  digits : Nat
  exponent : Int
  deriving DecidableEq, Inhabited

/-- The interval of reals that round to a double, as fractions over one
denominator; its ends belong to it when `closed`. -/
structure Interval where
  low : Nat
  value : Nat
  high : Nat
  denominator : Nat
  closed : Bool
  deriving DecidableEq

/-- Below a power of two the doubles are twice as dense, so the lower end is then
a quarter unit away and otherwise half a unit. -/
def Interval.ofDouble (m : Nat) (q : Int) : Interval :=
  let lowGap := if m = twoPow 52 ∧ -1074 < q then 1 else 2
  let up := twoPow (q - 2).toNat
  { low := (4 * m - lowGap) * up
    value := 4 * m * up
    high := (4 * m + 2) * up
    denominator := twoPow (2 - q).toNat
    closed := m % 2 = 0 }

/-- The interval in units of `10^k`. -/
def Interval.inUnits (i : Interval) (k : Int) : Interval :=
  let finer := tenPow (-k).toNat
  { low := i.low * finer
    value := i.value * finer
    high := i.high * finer
    denominator := i.denominator * tenPow k.toNat
    closed := i.closed }

/-- Whether the whole number `n` of units lies in the interval. -/
def Interval.holds (i : Interval) (n : Nat) : Bool :=
  let point := n * i.denominator
  if i.closed then i.low ≤ point && point ≤ i.high else i.low < point && point < i.high

/-- The neighbour of the value in the interval; of two the nearer, and the larger
when both are equally near. -/
def Interval.neighbour? (i : Interval) : Option Nat :=
  let below := i.value / i.denominator
  let above := below + 1
  match i.holds below, i.holds above with
  | true, true =>
    if above * i.denominator - i.value ≤ i.value - below * i.denominator then some above
    else some below
  | true, false => some below
  | false, true => some above
  | false, false => none

/-- The first grid with a neighbour, from `10^k` downwards. -/
def Interval.search (i : Interval) (k : Int) : Nat → Digits
  | 0 => ⟨0, 0⟩
  | steps + 1 =>
    match (i.inUnits k).neighbour? with
    | some n => ⟨n, k⟩
    | none => i.search (k - 1) steps

/-- An exponent whose power of ten is above the value `m · 2^q`. -/
def ceilingExponent (m : Nat) (q : Int) : Int :=
  ((m.log2 : Int) + 1 + q) * 30103 / 100000 + 1

/-- The fewest digits that read back as the positive double `m · 2^q`, and of
those the nearest.  Twenty grids below the ceiling hold seventeen digits, which
always suffice. -/
def shortest (m : Nat) (q : Int) : Digits :=
  (Interval.ofDouble m q).search (ceilingExponent m q) 22

end TickArena.Decimal
