import TickArena.Data.Tree
import TickArena.Decimal.Layout

/-!
# Writing data trees as JSON

Compact text in the order of the tree.  A double always shows a point or an
exponent, so reading gives back a double and not a whole number.
-/

namespace TickArena.Json

def hexDigit (n : Nat) : Char :=
  "0123456789abcdef".toList.getD n '0'

def escape (c : Char) : String :=
  if c = '"' then "\\\""
  else if c = '\\' then "\\\\"
  else if c = '\n' then "\\n"
  else if c = '\r' then "\\r"
  else if c = '\t' then "\\t"
  else if c = '\x08' then "\\b"
  else if c = '\x0c' then "\\f"
  else if c.toNat < 32 then
    "\\u00" ++ (hexDigit (c.toNat / 16)).toString ++ (hexDigit (c.toNat % 16)).toString
  else c.toString

def quote (s : String) : String :=
  s.foldl (fun text c => text ++ escape c) "\"" ++ "\""

def number (x : Float) : String :=
  match Double.view x with
  | .finite negative m q => Decimal.interchange negative m q
  | _ => "null"

mutual

def append (text : String) : Data → String
  | .null => text ++ "null"
  | .bool b => text ++ (if b then "true" else "false")
  | .int n => text ++ toString n
  | .float x => text ++ number x
  | .text s => text ++ quote s
  | .date s => text ++ quote s
  | .list items => appendItems (text ++ "[") true items ++ "]"
  | .record fields => appendFields (text ++ "\x7b") true fields ++ "\x7d"

def appendItems (text : String) (first : Bool) : List Data → String
  | [] => text
  | item :: rest => appendItems (append (if first then text else text ++ ",") item) false rest

def appendFields (text : String) (first : Bool) : List (String × Data) → String
  | [] => text
  | (name, value) :: rest =>
    let start := (if first then text else text ++ ",") ++ quote name ++ ":"
    appendFields (append start value) false rest

end

def write (tree : Data) : String :=
  append "" tree

end TickArena.Json
