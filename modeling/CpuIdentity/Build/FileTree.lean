import CpuIdentity.Text.Utf8

/-!
# File trees

Which paths lead to something in a tree of directories and files. A path is walked name by name, and
each name but the last must lead to a directory, so a name that leads nowhere cannot be undone by
going up again.
-/

namespace CpuIdentity

/-- A tree, by the absolute paths of its directories and of its files. The root is always a
    directory. -/
structure FileTree where
  directories : List (List Text)
  files : List (List Text)
  /-- The directory that relative paths start from. -/
  working : List Text

namespace FileTree

def nameLimit : Nat := 255

def pathLimit : Nat := 4095

/-- Where a walk has arrived. -/
inductive Place where
  | directory (path : List Text)
  | file
  deriving DecidableEq, Repr

/-- Whether a path is that of a directory. -/
def isDirectory (t : FileTree) (path : List Text) : Bool :=
  path.isEmpty || t.directories.contains path

/-- Goes one name further. An empty name stays where it is, as a single dot does. -/
def enter (t : FileTree) (path : List Text) (name : Text) : Option Place :=
  if name = [] ∨ name = ['.'] then some (.directory path)
  else if name = ['.', '.'] then some (.directory path.dropLast)
  else if nameLimit < (Utf8.encode name).length then none
  else if t.isDirectory (path ++ [name]) then some (.directory (path ++ [name]))
  else if t.files.contains (path ++ [name]) then some .file
  else none

/-- Walks a sequence of names. A file ends the walk. -/
def walk (t : FileTree) : Place → List Text → Option Place
  | place, [] => some place
  | .file, _ :: _ => none
  | .directory path, name :: names => (t.enter path name).bind fun place => t.walk place names

/-- The names of a path, between its slashes. -/
def names : Text → List Text
  | [] => [[]]
  | c :: cs =>
    if c = '/' then [] :: names cs
    else
      match names cs with
      | [] => [[c]]
      | n :: ns => (c :: n) :: ns

/-- Whether a path leads to something. The empty path, a path with a zero character and a path that
    is too long lead nowhere. -/
def present (t : FileTree) (path : Text) : Bool :=
  if path = [] ∨ '\x00' ∈ path ∨ pathLimit < (Utf8.encode path).length then false
  else (t.walk (.directory (if path.head? = some '/' then [] else t.working)) (names path)).isSome

end FileTree

end CpuIdentity
