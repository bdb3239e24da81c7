import TickArena.Data.Tree
import TickArena.Decimal.Reading

/-!
# Reading JSON

A recursive reader over the characters of the text.  Each step gives back what it
has not consumed; the step count bounds the depth of the recursion and starts at
the length of the text, which every step shortens.
-/

namespace TickArena.Json

def isBlank (c : Char) : Bool :=
  c = ' ' || c = '\t' || c = '\n' || c = '\r'

def skipBlanks (text : List Char) : List Char :=
  text.dropWhile isBlank

def isDigit (c : Char) : Bool :=
  '0' ≤ c && c ≤ '9'

def hexValue? (c : Char) : Option Nat :=
  if '0' ≤ c && c ≤ '9' then some (c.toNat - '0'.toNat)
  else if 'a' ≤ c && c ≤ 'f' then some (c.toNat - 'a'.toNat + 10)
  else if 'A' ≤ c && c ≤ 'F' then some (c.toNat - 'A'.toNat + 10)
  else none

def codeUnit? : List Char → Option (Nat × List Char)
  | a :: b :: c :: d :: rest => do
    let a ← hexValue? a
    let b ← hexValue? b
    let c ← hexValue? c
    let d ← hexValue? d
    return (((a * 16 + b) * 16 + c) * 16 + d, rest)
  | _ => none

def simpleEscape? (c : Char) : Option Char :=
  match c with
  | '"' => some '"'
  | '\\' => some '\\'
  | '/' => some '/'
  | 'b' => some '\x08'
  | 'f' => some '\x0c'
  | 'n' => some '\n'
  | 'r' => some '\r'
  | 't' => some '\t'
  | _ => none

/-- A code unit below the surrogates or above them is a character; a high
surrogate needs a low one after it. -/
def escapedChar? (text : List Char) : Option (Char × List Char) := do
  let (unit, rest) ← codeUnit? text
  if unit < 0xD800 ∨ 0xDFFF < unit then some (Char.ofNat unit, rest)
  else if 0xDC00 ≤ unit then none
  else
    match rest with
    | '\\' :: 'u' :: rest =>
      let (low, rest) ← codeUnit? rest
      if 0xDC00 ≤ low ∧ low ≤ 0xDFFF then
        some (Char.ofNat (0x10000 + (unit - 0xD800) * 0x400 + (low - 0xDC00)), rest)
      else none
    | _ => none

/-- The rest of a string after its opening quote; the characters read so far are
held in reverse. -/
def stringRest (read : List Char) : Nat → List Char → Option (String × List Char)
  | 0, _ => none
  | steps + 1, text =>
    match text with
    | [] => none
    | '"' :: rest => some (String.ofList read.reverse, rest)
    | '\\' :: 'u' :: rest => do
      let (c, rest) ← escapedChar? rest
      stringRest (c :: read) steps rest
    | '\\' :: c :: rest => do
      let c ← simpleEscape? c
      stringRest (c :: read) steps rest
    | c :: rest => if c.toNat < 32 then none else stringRest (c :: read) steps rest

/-- The exponent of a number; none is a power of zero. -/
def power? : List Char → Option (Int × Bool × List Char)
  | c :: rest =>
    if c = 'e' || c = 'E' then
      let (negative, rest) :=
        match rest with
        | '-' :: rest => (true, rest)
        | '+' :: rest => (false, rest)
        | rest => (false, rest)
      let digits := rest.takeWhile isDigit
      if digits.isEmpty then none
      else
        let value : Int := Int.ofNat (Decimal.digitsValue digits)
        some (if negative then -value else value, true, rest.dropWhile isDigit)
    else some (0, false, c :: rest)
  | [] => some (0, false, [])

/-- Digits after a point; a point needs at least one. -/
def places? : List Char → Option (List Char × Bool × List Char)
  | '.' :: rest =>
    let digits := rest.takeWhile isDigit
    if digits.isEmpty then none else some (digits, true, rest.dropWhile isDigit)
  | rest => some ([], false, rest)

/-- A number without point or exponent is whole if it fits a 64-bit word; negative
zero and larger numbers are doubles. -/
def number? (text : List Char) : Option (Data × List Char) := do
  let (negative, text) :=
    match text with
    | '-' :: rest => (true, rest)
    | rest => (false, rest)
  let whole := text.takeWhile isDigit
  let text := text.dropWhile isDigit
  if whole.isEmpty || (whole.head? = some '0' && 1 < whole.length) then none
  let (places, pointed, text) ← places? text
  let (power, raised, text) ← power? text
  let n := Decimal.digitsValue whole
  if pointed || raised || (negative && (n = 0 || twoPow 63 < n)) || twoPow 64 ≤ n then
    let x := (Decimal.Literal.mk negative whole places power).toFloat
    if x.isFinite then some (.float x, text) else none
  else some (.int (if negative then -(n : Int) else n), text)

def keyword? (word : String) (value : Data) (text : List Char) : Option (Data × List Char) :=
  if word.toList.isPrefixOf text then some (value, text.drop word.length) else none

mutual

def value? : Nat → List Char → Option (Data × List Char)
  | 0, _ => none
  | steps + 1, text =>
    match skipBlanks text with
    | '"' :: rest => do
      let (s, rest) ← stringRest [] rest.length.succ rest
      return (.text s, rest)
    | '[' :: rest =>
      match skipBlanks rest with
      | ']' :: rest => some (.list [], rest)
      | rest => items? [] steps rest
    | '\x7b' :: rest =>
      match skipBlanks rest with
      | '\x7d' :: rest => some (.record [], rest)
      | rest => fields? [] steps rest
    | 't' :: rest => keyword? "rue" (.bool true) rest
    | 'f' :: rest => keyword? "alse" (.bool false) rest
    | 'n' :: rest => keyword? "ull" .null rest
    | rest => number? rest

def items? (read : List Data) : Nat → List Char → Option (Data × List Char)
  | 0, _ => none
  | steps + 1, text => do
    let (item, rest) ← value? steps text
    match skipBlanks rest with
    | ',' :: rest => items? (item :: read) steps rest
    | ']' :: rest => some (.list (item :: read).reverse, rest)
    | _ => none

def fields? (read : List (String × Data)) : Nat → List Char → Option (Data × List Char)
  | 0, _ => none
  | steps + 1, text =>
    match skipBlanks text with
    | '"' :: rest => do
      let (name, rest) ← stringRest [] rest.length.succ rest
      match skipBlanks rest with
      | ':' :: rest =>
        let (value, rest) ← value? steps rest
        let read := (name, value) :: read.filter fun field => field.1 ≠ name
        match skipBlanks rest with
        | ',' :: rest => fields? read steps rest
        | '\x7d' :: rest => some (.record read.reverse, rest)
        | _ => none
      | _ => none
    | _ => none

end

/-- The tree of a whole text; later fields replace earlier ones of the same name. -/
def read? (text : String) : Option Data := do
  let (tree, rest) ← value? (2 * text.length + 2) text.toList
  if (skipBlanks rest).isEmpty then some tree else none

end TickArena.Json
