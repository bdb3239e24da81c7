import TickArena.Decimal.Shortest
import TickArena.Rounding

/-!
# Writing doubles as text

Three layouts: plain text, which never uses an exponent; interchange text, which
uses one for very large and very small numbers and always shows that the number
is not an integer; and a fixed number of places, rounded exactly with ties to the
even neighbour.
-/

namespace TickArena.Decimal

def Digits.trim (d : Digits) : Nat → Digits
  | 0 => d
  | steps + 1 =>
    if d.digits % 10 = 0 then (Digits.mk (d.digits / 10) (d.exponent + 1)).trim steps else d

def zeros (n : Nat) : String :=
  String.ofList (List.replicate n '0')

/-- The digits without an exponent; a whole number shows no point. -/
def Digits.positional (d : Digits) : String :=
  let text := toString d.digits
  if 0 ≤ d.exponent then text ++ zeros d.exponent.toNat
  else
    let places := (-d.exponent).toNat
    let padded := zeros (places + 1 - text.length) ++ text
    let whole := padded.length - places
    (padded.take whole).toString ++ "." ++ (padded.drop whole).toString

/-- One digit before the point and a power of ten after the rest. -/
def Digits.scientific (d : Digits) : String :=
  let text := toString d.digits
  let power := d.exponent + (text.length - 1 : Nat)
  let mantissa :=
    if text.length = 1 then text else (text.take 1).toString ++ "." ++ (text.drop 1).toString
  mantissa ++ "e" ++ toString power

def signed (negative : Bool) (text : String) : String :=
  if negative then "-" ++ text else text

/-- The shortest digits of a finite double without zeros at the end. -/
def digitsOf (m : Nat) (q : Int) : Digits :=
  if m = 0 then ⟨0, 0⟩ else (shortest m q).trim 20

/-- Plain text: shortest digits, never an exponent, whole values without a point. -/
def plain (x : Float) : String :=
  match Double.view x with
  | .notANumber => "NaN"
  | .infinite negative => signed negative "inf"
  | .finite negative m q => signed negative (digitsOf m q).positional

/-- Interchange text of a finite double: positional while the point is within
sixteen digits to the right or five zeros to the left, and scientific beyond. -/
def interchange (negative : Bool) (m : Nat) (q : Int) : String :=
  let d := digitsOf m q
  let point := d.exponent + (toString d.digits).length
  let text :=
    if -5 < point ∧ point ≤ 16 then
      if 0 ≤ d.exponent then d.positional ++ ".0" else d.positional
    else d.scientific
  signed negative text

/-- The exact value rounded to a fixed number of places. -/
def fixed (places : Nat) (x : Float) : String :=
  match Double.view x with
  | .notANumber => "NaN"
  | .infinite negative => signed negative "inf"
  | .finite negative m q =>
    let units := roundHalfEven (m * twoPow q.toNat * tenPow places) (twoPow (-q).toNat)
    signed negative (Digits.mk units (-places)).positional

end TickArena.Decimal
