/-!
# Places

Where documents are found: a path in its normal form (`Place`), without empty or trivial parts; steps upwards stay. A
path that can be one at all (`reach`) is followed part by part (`follow`), and every part but the last has to lead to a
directory. Steps upwards from the top lead to directories of which nothing else is known.
-/

namespace GoalPlanner.Document

/-- A path: what it starts with and its parts. -/
structure Place where
  root : String
  parts : List String
  deriving DecidableEq, Repr

namespace Place

/-- A path from its text. Two slashes in front are a root of their own; one or more than two are the usual root. -/
def ofString (s : String) : Place :=
  let slashes := (s.toList.takeWhile (· == '/')).length
  let root := if slashes == 0 then "" else if slashes == 2 then "//" else "/"
  ⟨root, (s.splitOn "/").filter fun part => part != "" && part != "."⟩

/-- The text of a path. -/
def text (p : Place) : String :=
  if p.root == "" && p.parts.isEmpty then "." else p.root ++ "/".intercalate p.parts

/-- The path one part further. -/
def child (p : Place) (part : String) : Place := ⟨p.root, p.parts ++ [part]⟩

/-- A name without its last ending; a dot as the first or last character starts no ending. -/
def stem (name : String) : String :=
  match (name.splitOn ".").reverse with
  | last :: rest =>
    let front := ".".intercalate rest.reverse
    if last == "" || front == "" then name else front
  | [] => name

end Place

/-- What is found at a place. -/
inductive Found (α : Type)
  | nothing
  | directory
  | file (content : α)
  /-- It cannot be told, for the path is too long. -/
  | beyond

/-- Why a file cannot be opened or read. -/
inductive FileError
  | missing
  | isDirectory
  | notDirectory
  /-- A file stands where a directory is needed. -/
  | occupied
  /-- The path is too long, or a part of it that is looked for in a directory. -/
  | tooLong
  /-- No path has a null character. -/
  | noPath
  deriving DecidableEq, Repr

/-- Whether some parts only lead upwards from the top. -/
def isAbove (path : List String) : Bool := path.all (· == "..")

/-- The directory or file that one part leads to. -/
def step (here : List String) (part : String) : List String :=
  if part == ".." && !isAbove here then here.dropLast else here ++ [part]

/-- How many bytes the name of a file or directory may have. -/
def longestName : Nat := 255

/-- How many bytes a whole path may have. -/
def longestPath : Nat := 4095

/-- Where some parts lead from a directory, without steps back. -/
def follow {α : Type} (look : List String → Found α) (here : List String) :
    List String → Except FileError (List String)
  | [] => .ok here
  | part :: rest =>
    if longestName < part.utf8ByteSize then .error .tooLong
    else if rest.isEmpty then .ok (step here part)
    else match look (step here part) with
      | .directory => follow look (step here part) rest
      | .file _ => .error .notDirectory
      | .beyond => .error .tooLong
      | .nothing => .error .missing

/-- Where a path leads from the top, if it can be a path. -/
def reach {α : Type} (look : List String → Found α) (p : Place) : Except FileError (List String) :=
  if p.text.contains (Char.ofNat 0) then .error .noPath
  else if longestPath < p.text.utf8ByteSize then .error .tooLong
  else follow look [] p.parts

/-- Files below one directory, by the parts of their paths. -/
abbrev Tree (α : Type) := List (List String × α)

namespace Tree

variable {α : Type}

/-- What stands at a path without steps back. -/
def lookup (t : Tree α) (path : List String) : Found α :=
  match t.find? fun f => f.1 == path with
  | some (_, content) => .file content
  | none => if isAbove path || t.any fun f => path.isPrefixOf f.1 then .directory else .nothing

/-- What stands at or below the root of a place. Of what does not stand below the directory, only the top is known. -/
def under (t : Tree α) (root : String) : Tree α := if root == "" then t else []

/-- What is found at a place. -/
def locate (t : Tree α) (p : Place) : Found α :=
  match reach (t.under p.root).lookup p with
  | .ok path => (t.under p.root).lookup path
  | .error .tooLong => .beyond
  | .error _ => .nothing

/-- The names directly below a place, in increasing order. -/
def names (t : Tree α) (p : Place) : List String :=
  match reach (t.under p.root).lookup p with
  | .error _ => []
  | .ok here =>
    let below := (t.under p.root).filterMap fun f =>
      if here.isPrefixOf f.1 then (f.1.drop here.length).head? else none
    below.eraseDups.mergeSort fun a b => !decide (b < a)

end Tree

end GoalPlanner.Document
