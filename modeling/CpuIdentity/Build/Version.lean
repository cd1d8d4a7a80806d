import CpuIdentity.Text.Basic

/-!
# Versions

Which build of the program is running: its version number and its position in source control. A
field may be empty, since a build need not know it; an empty field is shown as `unknown`. What the
version control program prints about the current branch is brought into one form: no blank characters
around the name, and no name at all where the head is detached.
-/

namespace CpuIdentity

/-- What is printed in place of a branch name when the head is detached. -/
def detachedHead : Text := "HEAD"

/-- The branch name in a printed reference; empty when the head is detached. -/
def branchName (printed : Text) : Text :=
  if Text.trim printed = detachedHead then [] else Text.trim printed

/-- The full reference that the head points to, `none` when the head is detached. -/
def headReference? (printed : Text) : Option Text :=
  if List.isPrefixOf "refs/" (Text.trim printed) then some (Text.trim printed) else none

structure Version where
  number : Text
  branch : Text
  commit : Text
  deriving DecidableEq, Repr

namespace Version

/-- The name of the program, which every version text starts with. -/
def programName : Text := "powertelemetry"

def unknown : Text := "unknown"

/-- The identity of a build from the values given to it; the branch is brought into its one form. -/
def ofBuild (number branch commit : Text) : Version := ⟨number, branchName branch, commit⟩

def shown (field : Text) : Text := if field = [] then unknown else field

/-- Whether the position in source control is known at all. -/
def hasPosition (v : Version) : Bool := !v.branch.isEmpty || !v.commit.isEmpty

/-- The position in source control, as in `(git: main@a1b2c3d)`. -/
def position (v : Version) : Text := "(git: " ++ shown v.branch ++ "@" ++ shown v.commit ++ ")"

/-- The version in full: program, number and, if it is known, the position. -/
def full (v : Version) : Text :=
  Text.joinWith " " ([programName, shown v.number] ++ if v.hasPosition then [v.position] else [])

example : (ofBuild "2.0" "HEAD\n" "a1b2").full =
    ("powertelemetry 2.0 (git: unknown@a1b2)" : Text) := by decide

end Version

end CpuIdentity
