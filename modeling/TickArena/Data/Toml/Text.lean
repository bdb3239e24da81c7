import TickArena.Data.Json.Reader

/-!
# Blanks, comments and strings of TOML

Every reader takes the characters that are left and gives back what it has not
consumed; nothing means that the text is not well formed.
-/

namespace TickArena.Toml

open TickArena.Json (hexValue?)

def isBlank (c : Char) : Bool :=
  c = ' ' || c = '\t'

def skipBlanks (text : List Char) : List Char :=
  text.dropWhile isBlank

/-- Tabs and everything printable, but no control character. -/
def isPlain (c : Char) : Bool :=
  c = '\t' || (0x20 ≤ c.toNat && c.toNat ≠ 0x7F)

/-- Lines end with a line feed, alone or after a carriage return. -/
def newline? : List Char → Option (List Char)
  | '\n' :: rest => some rest
  | '\r' :: '\n' :: rest => some rest
  | _ => none

def skipComment : List Char → List Char
  | '#' :: rest => rest.dropWhile isPlain
  | text => text

def lineEnd? (text : List Char) : Option (List Char) :=
  match skipComment (skipBlanks text) with
  | [] => some []
  | rest => newline? rest

/-- Blanks, line ends and whole comments, as they may stand inside an array. -/
def skipLines : Nat → List Char → List Char
  | 0, text => text
  | steps + 1, text =>
    match skipBlanks text with
    | '#' :: rest =>
      match newline? (rest.dropWhile isPlain) with
      | some rest => skipLines steps rest
      | none => '#' :: rest
    | rest =>
      match newline? rest with
      | some rest => skipLines steps rest
      | none => rest

/-- A character by its code, which must not be a surrogate or beyond the last plane. -/
def codePoint? (digits : List Char) : Option Char := do
  let values ← digits.mapM hexValue?
  let code := values.foldl (fun n d => 16 * n + d) 0
  if code.isValidChar then some (Char.ofNat code) else none

def escape? : List Char → Option (Char × List Char)
  | 'b' :: rest => some ('\x08', rest)
  | 't' :: rest => some ('\t', rest)
  | 'n' :: rest => some ('\n', rest)
  | 'f' :: rest => some ('\x0c', rest)
  | 'r' :: rest => some ('\r', rest)
  | '"' :: rest => some ('"', rest)
  | '\\' :: rest => some ('\\', rest)
  | 'u' :: rest =>
    if rest.length < 4 then none
    else (codePoint? (rest.take 4)).map fun c => (c, rest.drop 4)
  | 'U' :: rest =>
    if rest.length < 8 then none
    else (codePoint? (rest.take 8)).map fun c => (c, rest.drop 8)
  | _ => none

/-- The rest of a string in double quotes; what is read is held in reverse. -/
def basicRest (read : List Char) : Nat → List Char → Option (String × List Char)
  | 0, _ => none
  | steps + 1, text =>
    match text with
    | '"' :: rest => some (String.ofList read.reverse, rest)
    | '\\' :: rest => do
      let (c, rest) ← escape? rest
      basicRest (c :: read) steps rest
    | c :: rest => if isPlain c then basicRest (c :: read) steps rest else none
    | [] => none

/-- The rest of a string in single quotes, which has no escapes. -/
def literalRest (text : List Char) : Option (String × List Char) :=
  let inside := text.takeWhile fun c => isPlain c && c ≠ '\''
  match text.drop inside.length with
  | '\'' :: rest => some (String.ofList inside, rest)
  | _ => none

def skipSpace : List Char → List Char
  | '\r' :: '\n' :: rest => skipSpace rest
  | c :: rest => if isBlank c || c = '\n' then skipSpace rest else c :: rest
  | [] => []

/-- A backslash at the end of a line joins it with the next text. -/
def joinedLine? (text : List Char) : Option (List Char) :=
  (newline? (skipBlanks text)).map skipSpace

/-- The rest of a string over several lines.  Three quotes close it, and up to two
more directly before them belong to it. -/
def blockRest (quote : Char) (escapes : Bool) (read : List Char) :
    Nat → List Char → Option (String × List Char)
  | 0, _ => none
  | steps + 1, text =>
    let quotes := (text.takeWhile (· = quote)).length
    if 3 ≤ quotes then
      let extra := min (quotes - 3) 2
      some (String.ofList (read.reverse ++ List.replicate extra quote), text.drop (extra + 3))
    else
      match text with
      | [] => none
      | '\\' :: rest =>
        if escapes then
          match joinedLine? rest with
          | some rest => blockRest quote escapes read steps rest
          | none => do
            let (c, rest) ← escape? rest
            blockRest quote escapes (c :: read) steps rest
        else blockRest quote escapes ('\\' :: read) steps rest
      | c :: rest =>
        match newline? text with
        | some rest => blockRest quote escapes ('\n' :: read) steps rest
        | none => if isPlain c then blockRest quote escapes (c :: read) steps rest else none

/-- The first line end of a block is not part of it. -/
def dropFirstNewline (text : List Char) : List Char :=
  (newline? text).getD text

def string? : List Char → Option (String × List Char)
  | '"' :: '"' :: '"' :: rest =>
    blockRest '"' true [] rest.length.succ (dropFirstNewline rest)
  | '\'' :: '\'' :: '\'' :: rest =>
    blockRest '\'' false [] rest.length.succ (dropFirstNewline rest)
  | '"' :: rest => basicRest [] rest.length.succ rest
  | '\'' :: rest => literalRest rest
  | _ => none

/-! ### Keys -/

def isBare (c : Char) : Bool :=
  ('A' ≤ c && c ≤ 'Z') || ('a' ≤ c && c ≤ 'z') || ('0' ≤ c && c ≤ '9') || c = '-' || c = '_'

def simpleKey? : List Char → Option (String × List Char)
  | '"' :: rest => basicRest [] rest.length.succ rest
  | '\'' :: rest => literalRest rest
  | text =>
    let name := text.takeWhile isBare
    if name.isEmpty then none else some (String.ofList name, text.drop name.length)

def depthLimit : Nat :=
  80

/-- Names joined by points; the number of names is below the depth limit. -/
def key? : Nat → List Char → Option (List String × List Char)
  | 0, _ => none
  | depth + 1, text => do
    let (name, rest) ← simpleKey? (skipBlanks text)
    match skipBlanks rest with
    | '.' :: rest =>
      let (names, rest) ← key? depth rest
      return (name :: names, rest)
    | rest => return ([name], rest)

end TickArena.Toml
