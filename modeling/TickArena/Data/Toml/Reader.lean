import TickArena.Data.Toml.Scalar
import TickArena.Data.Toml.Tables

/-!
# Reading TOML

Values, then the lines of a document: fields, headers and comments.  The step
count bounds the recursion and starts at the length of the text; the depth counts
down from the limit on nesting.
-/

namespace TickArena.Toml

def splitKey (names : List String) : Option (List String × String) :=
  match names.reverse with
  | [] => none
  | last :: path => some (path.reverse, last)

def keyEquals? (text : List Char) : Option (List String × String × List Char) := do
  let (names, rest) ← key? (depthLimit - 1) text
  let (path, name) ← splitKey names
  match skipBlanks rest with
  | '=' :: rest => some (path, name, skipBlanks rest)
  | _ => none

mutual

def value? (depth : Nat) : Nat → List Char → Option (Data × List Char)
  | 0, _ => none
  | steps + 1, text =>
    match text with
    | [] => none
    | '"' :: _ => (string? text).map fun (s, rest) => (.text s, rest)
    | '\'' :: _ => (string? text).map fun (s, rest) => (.text s, rest)
    | '[' :: rest =>
      match depth with
      | 0 => none
      | depth + 1 =>
        match skipLines rest.length.succ rest with
        | ']' :: rest => some (.list [], rest)
        | rest => items? depth [] steps rest
    | '\x7b' :: rest =>
      match depth with
      | 0 => none
      | depth + 1 =>
        match skipBlanks rest with
        | '\x7d' :: rest => some (.record [], rest)
        | rest => inline? depth [] steps rest
    | 't' :: 'r' :: 'u' :: 'e' :: rest => some (.bool true, rest)
    | 'f' :: 'a' :: 'l' :: 's' :: 'e' :: rest => some (.bool false, rest)
    | 'i' :: _ => named? text
    | 'n' :: _ => named? text
    | _ => numeral? text

/-- The items of an array; a comma may follow the last one. -/
def items? (depth : Nat) (read : List Data) : Nat → List Char → Option (Data × List Char)
  | 0, _ => none
  | steps + 1, text => do
    let (item, rest) ← value? depth steps text
    match skipLines rest.length.succ rest with
    | ']' :: rest => some (.list (item :: read).reverse, rest)
    | ',' :: rest =>
      match skipLines rest.length.succ rest with
      | ']' :: rest => some (.list (item :: read).reverse, rest)
      | rest => items? depth (item :: read) steps rest
    | _ => none

/-- The fields of a table in braces, which stays on one line. -/
def inline? (depth : Nat) (fields : Fields) : Nat → List Char → Option (Data × List Char)
  | 0, _ => none
  | steps + 1, text => do
    let (path, name, rest) ← keyEquals? text
    let (value, rest) ← value? depth steps rest
    let fields ← fields.add path name value .written
    match skipBlanks rest with
    | '\x7d' :: rest => some (.record (fieldsToData fields), rest)
    | ',' :: rest => inline? depth fields steps (skipBlanks rest)
    | _ => none

end

/-- The tables read so far and the path of the table that is open. -/
structure Document where
  root : Fields
  current : List String

def headerKey? (text : List Char) : Option (List String × List String × String × List Char) := do
  let (names, rest) ← key? (depthLimit - 1) text
  let (path, name) ← splitKey names
  return (names, path, name, skipBlanks rest)

def Document.line? (doc : Document) (text : List Char) : Option (Document × List Char) :=
  match skipBlanks text with
  | '[' :: '[' :: rest => do
    let (names, path, name, rest) ← headerKey? rest
    match rest with
    | ']' :: ']' :: rest =>
      return (⟨← doc.root.openElement path name, names⟩, ← lineEnd? rest)
    | _ => none
  | '[' :: rest => do
    let (names, path, name, rest) ← headerKey? rest
    match rest with
    | ']' :: rest => return (⟨← doc.root.openTable path name, names⟩, ← lineEnd? rest)
    | _ => none
  | '#' :: rest => (lineEnd? ('#' :: rest)).map (doc, ·)
  | [] => some (doc, [])
  | rest =>
    match newline? rest with
    | some rest => some (doc, rest)
    | none => do
      let (path, name, rest) ← keyEquals? rest
      let (value, rest) ← value? (depthLimit - 1) rest.length.succ rest
      let root ← doc.root.editAt false
        (fun origin fields => fields.add path name value origin) doc.current .written
      return (⟨root, doc.current⟩, ← lineEnd? rest)

def Document.lines? (doc : Document) : Nat → List Char → Option Document
  | _, [] => some doc
  | 0, _ => none
  | steps + 1, text => do
    let (doc, rest) ← doc.line? text
    doc.lines? steps rest

/-- The record of a whole document; a byte order mark may stand before it. -/
def read? (text : String) : Option Data := do
  let chars :=
    match text.toList with
    | '\uFEFF' :: rest => rest
    | chars => chars
  let doc ← (Document.mk [] []).lines? chars.length.succ chars
  return .record (fieldsToData doc.root)

end TickArena.Toml
