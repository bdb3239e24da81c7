import TickArena.Table

/-!
# File trees

A folder as a value: names, each with a file or a folder behind it.  A path is walked
part by part, and the walk can go back to the folder it came from.  A folder may list
its names in any order; what is written at a path goes where its name belongs.
-/

namespace TickArena

/-- Why a file could not be read. -/
inductive FileFault where
  | notFound
  | notText
  | notFolder
  | isFolder
  | pathInvalid
  | pathTooLong
  deriving DecidableEq

inductive FileTree where
  | file (bytes : ByteArray)
  | folder (entries : List (String × FileTree))
  deriving Inhabited

namespace FileTree

def names (path : String) : List String :=
  (path.splitOn "/").filter fun name => name ≠ "" && name ≠ "."

/-- The parts of a path.  A slash at the end asks for a folder, as a point does. -/
def parts (path : String) : List String :=
  (path.splitOn "/").filter (· ≠ "") ++ if path.endsWith "/" then ["."] else []

/-- No name has more bytes. -/
def nameLimit : Nat :=
  255

/-- No path has more bytes, whatever it leads to. -/
def pathLimit : Nat :=
  4095

/-- Walks on from a tree; behind it lie the folders around it, the nearest first. -/
def walk (tree : FileTree) (around : List FileTree) : List String → Except FileFault FileTree
  | [] => .ok tree
  | part :: rest =>
    match tree with
    | file _ => .error .notFolder
    | folder entries =>
      match part, around with
      | ".", _ => walk tree around rest
      | "..", [] => .error .notFound
      | "..", outer :: further => walk outer further rest
      | name, _ =>
        if nameLimit < name.utf8ByteSize then .error .pathTooLong
        else
          match Rows.get? name entries with
          | some inner => walk inner (tree :: around) rest
          | none => .error .notFound

/-- What lies at a path.  One that begins with a slash lies outside the tree. -/
def find (tree : FileTree) (path : String) : Except FileFault FileTree :=
  if path.contains '\x00' then .error .pathInvalid
  else if pathLimit < path.utf8ByteSize then .error .pathTooLong
  else if path.startsWith "/" then .error .notFound
  else tree.walk [] (parts path)

/-- Puts a tree at a path; missing folders on the way are made, and what is already
there is replaced. -/
def put (tree inner : FileTree) : List String → FileTree
  | [] => inner
  | name :: path =>
    let entries :=
      match tree with
      | file _ => []
      | folder entries => entries
    let child := (Rows.get? name entries).getD (folder [])
    folder (Rows.insert name (child.put inner path) entries)

/-- Entries in the order of their names. -/
def byName (entries : List (String × FileTree)) : List (String × FileTree) :=
  entries.mergeSort fun a b => (compare a.1 b.1).isLE

mutual

/-- The tree with the entries of each folder in the order of their names. -/
def arranged : FileTree → FileTree
  | file bytes => file bytes
  | folder entries => folder (byName (arrangedEach entries))

def arrangedEach : List (String × FileTree) → List (String × FileTree)
  | [] => []
  | (name, tree) :: rest => (name, tree.arranged) :: arrangedEach rest

end

/-- Whether a file name ends in the extension: the text after its last point, with
something before the point. -/
def hasExtension (extension name : String) : Bool :=
  match name.toList.reverse.span (· ≠ '.') with
  | (reversed, '.' :: _ :: _) => String.ofList reversed.reverse = extension
  | _ => false

end FileTree

end TickArena
