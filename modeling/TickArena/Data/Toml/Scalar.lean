import TickArena.Data.Toml.Text

/-!
# Numbers and dates of TOML

Whole numbers fit a signed 64-bit word and may be written in four bases; single
underscores may stand between digits.  A decimal that is larger than every double
is refused, while its negative is minus infinity.
-/

namespace TickArena.Toml

open TickArena.Json (isDigit hexValue?)

/-- What follows the first digit of a run: digits, each with at most one underscore
before it. -/
def digitsAfter? (isDigit : Char → Bool) : List Char → Option (List Char × List Char)
  | '_' :: d :: rest =>
    if isDigit d then (digitsAfter? isDigit rest).map fun (digits, rest) => (d :: digits, rest)
    else none
  | ['_'] => none
  | d :: rest =>
    if isDigit d then (digitsAfter? isDigit rest).map fun (digits, rest) => (d :: digits, rest)
    else some ([], d :: rest)
  | [] => some ([], [])

/-- A run of digits with single underscores between them. -/
def digitRun? (isDigit : Char → Bool) : List Char → Option (List Char × List Char)
  | c :: rest =>
    if isDigit c then (digitsAfter? isDigit rest).map fun (digits, rest) => (c :: digits, rest)
    else none
  | [] => none

def sign (text : List Char) : Bool × List Char :=
  match text with
  | '-' :: rest => (true, rest)
  | '+' :: rest => (false, rest)
  | rest => (false, rest)

/-- Decimal digits that start with zero only if they are zero. -/
def decimalDigits? (text : List Char) : Option (List Char × List Char) := do
  let (digits, rest) ← digitRun? isDigit text
  if digits.head? = some '0' && 1 < digits.length then none else some (digits, rest)

def signedWord? (n : Int) : Option Data :=
  if -(twoPow 63 : Int) ≤ n ∧ n < twoPow 63 then some (.int n) else none

def inBase? (base : Nat) (text : List Char) : Option (Data × List Char) := do
  let (digits, rest) ← digitRun? (fun c => (hexValue? c).any (· < base)) text
  let n := digits.foldl (fun n c => base * n + (hexValue? c).getD 0) 0
  return (← signedWord? n, rest)

def integer? (text : List Char) : Option (Data × List Char) :=
  match text with
  | '0' :: 'x' :: rest => inBase? 16 rest
  | '0' :: 'o' :: rest => inBase? 8 rest
  | '0' :: 'b' :: rest => inBase? 2 rest
  | _ => do
    let (negative, rest) := sign text
    let (digits, rest) ← decimalDigits? rest
    let n := Decimal.digitsValue digits
    return (← signedWord? (if negative then -(n : Int) else n), rest)

def power? : List Char → Option (Option Int × List Char)
  | c :: rest =>
    if c = 'e' || c = 'E' then do
      let (negative, rest) := sign rest
      let (digits, rest) ← digitRun? isDigit rest
      let n := Decimal.digitsValue digits
      return (some (if negative then -(n : Int) else n), rest)
    else some (none, c :: rest)
  | [] => some (none, [])

def places? : List Char → Option (Option (List Char) × List Char)
  | '.' :: rest => do
    let (digits, rest) ← digitRun? isDigit rest
    return (some digits, rest)
  | rest => some (none, rest)

def named? (text : List Char) : Option (Data × List Char) :=
  let (negative, rest) := sign text
  match rest with
  | 'i' :: 'n' :: 'f' :: rest =>
    some (.float (if negative then -Decimal.infinity else Decimal.infinity), rest)
  | 'n' :: 'a' :: 'n' :: rest => some (.float (0 / 0), rest)
  | _ => none

def float? (text : List Char) : Option (Data × List Char) := do
  let (negative, rest) := sign text
  let (whole, rest) ← decimalDigits? rest
  let (places, rest) ← places? rest
  let (power, rest) ← power? rest
  if places.isNone && power.isNone then none
  let x := (Decimal.Literal.mk negative whole (places.getD []) (power.getD 0)).toFloat
  if x == Decimal.infinity then none else some (.float x, rest)

/-! ### Dates and times -/

def twoDigits? (low high : Nat) : List Char → Option (List Char × List Char)
  | a :: b :: rest =>
    let n := Decimal.digitsValue [a, b]
    if isDigit a && isDigit b && low ≤ n && n ≤ high then some ([a, b], rest) else none
  | _ => none

def daysIn (year month : Nat) : Nat :=
  if month = 2 then
    if year % 4 = 0 ∧ (year % 100 ≠ 0 ∨ year % 400 = 0) then 29 else 28
  else if month = 4 ∨ month = 6 ∨ month = 9 ∨ month = 11 then 30
  else 31

def day? : List Char → Option (List Char × List Char)
  | a :: b :: c :: d :: '-' :: rest => do
    if !([a, b, c, d].all isDigit) then none
    let (month, rest) ← twoDigits? 1 12 rest
    match rest with
    | '-' :: rest =>
      let days := daysIn (Decimal.digitsValue [a, b, c, d]) (Decimal.digitsValue month)
      let (day, rest) ← twoDigits? 1 days rest
      return ([a, b, c, d, '-'] ++ month ++ ['-'] ++ day, rest)
    | _ => none
  | _ => none

def time? (text : List Char) : Option (List Char × List Char) := do
  let (hour, rest) ← twoDigits? 0 23 text
  let ':' :: rest := rest | none
  let (minute, rest) ← twoDigits? 0 59 rest
  let ':' :: rest := rest | none
  let (second, rest) ← twoDigits? 0 60 rest
  let clock := hour ++ [':'] ++ minute ++ [':'] ++ second
  match rest with
  | '.' :: more =>
    let digits := more.takeWhile isDigit
    if digits.isEmpty then some (clock, rest)
    else some (clock ++ ['.'] ++ digits, more.drop digits.length)
  | _ => some (clock, rest)

def offset? (text : List Char) : Option (List Char × List Char) :=
  match text with
  | 'Z' :: rest => some (['Z'], rest)
  | 'z' :: rest => some (['Z'], rest)
  | c :: rest =>
    if c = '+' || c = '-' then do
      let (hour, rest) ← twoDigits? 0 23 rest
      let ':' :: rest := rest | none
      let (minute, rest) ← twoDigits? 0 59 rest
      return ([c] ++ hour ++ [':'] ++ minute, rest)
    else none
  | [] => none

def timeOfDay? (text : List Char) : Option (List Char × List Char) :=
  match text with
  | c :: rest =>
    if c = 'T' || c = 't' || c = ' ' then do
      let (clock, rest) ← time? rest
      match offset? rest with
      | some (offset, rest) => return (['T'] ++ clock ++ offset, rest)
      | none => return (['T'] ++ clock, rest)
    else none
  | [] => none

def date? (text : List Char) : Option (Data × List Char) :=
  match day? text with
  | some (day, rest) =>
    match timeOfDay? rest with
    | some (time, rest) => some (.date (String.ofList (day ++ time)), rest)
    | none => some (.date (String.ofList day), rest)
  | none => (time? text).map fun (clock, rest) => (.date (String.ofList clock), rest)

def numeral? (text : List Char) : Option (Data × List Char) :=
  date? text <|> float? text <|> named? text <|> integer? text

end TickArena.Toml
