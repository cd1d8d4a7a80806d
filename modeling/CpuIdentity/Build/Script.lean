import CpuIdentity.Build.Version
import CpuIdentity.Text.Utf8
import CpuIdentity.Trace

/-!
# The build script

Before the program is built, the script tells the builder which version, branch and commit to build
in, and when to run the script again: when one of its variables changes, or when the head of the
repository moves. A value set by the environment wins over what the version control program says.
-/

namespace CpuIdentity

namespace BuildScript

inductive Variable where
  | version
  | branch
  | commit
  | packageVersion
  deriving DecidableEq, Repr

def Variable.name : Variable → Text
  | .version => "POWERTELEMETRY_VERSION"
  | .branch => "POWERTELEMETRY_GIT_BRANCH"
  | .commit => "POWERTELEMETRY_GIT_COMMIT"
  | .packageVersion => "CARGO_PKG_VERSION"

structure CallResult where
  succeeded : Bool
  output : List UInt8
  deriving DecidableEq, Repr

/-- What the script finds around it. -/
structure Surroundings where
  /-- The bytes of each variable that is set. -/
  environment : Variable → Option (List UInt8)
  /-- How the version control program ends for given arguments; `none` if it cannot be run. -/
  call : List Text → Option CallResult
  present : Text → Bool

inductive Action where
  | called (args : List Text)
  | printed (line : Text)
  deriving DecidableEq, Repr

/-- A computation that leaves a trace of actions. -/
abbrev Step := Traced Action

def print (line : Text) : Step Unit := Traced.emit (.printed line)

def printAll : List Text → Step Unit
  | [] => pure ()
  | line :: lines => do
    print line
    printAll lines

/-- The value of a variable; one that is not well-formed UTF-8 counts as not set. -/
def value? (s : Surroundings) (v : Variable) : Option Text := (s.environment v).bind Utf8.decode?

/-- The trimmed output of the version control program, if it succeeds with well-formed output. -/
def outputOf? (s : Surroundings) (args : List Text) : Option Text :=
  match s.call args with
  | some r => if r.succeeded then (Utf8.decode? r.output).map Text.trim else none
  | none => none

/-- Asks the version control program about a reference. -/
def ask (s : Surroundings) (args : List Text) : Step (Option Text) := do
  Traced.emit (.called args)
  return outputOf? s args

/-- The arguments that ask for the path of a file of the repository. -/
def pathQuery (file : Text) : List Text := ["rev-parse", "--git-path", file]

/-- The arguments that ask for the reference that the head points to. -/
def headQuery : List Text := ["rev-parse", "--symbolic-full-name", "HEAD"]

def branchQuery : List Text := ["rev-parse", "--abbrev-ref", "HEAD"]

def commitQuery : List Text := ["rev-parse", "--short", "HEAD"]

def variableDirective (v : Variable) : Text := "cargo:rerun-if-env-changed=" ++ v.name

def pathDirective (path : Text) : Text := "cargo:rerun-if-changed=" ++ path

def valueDirective (v : Variable) (value : Text) : Text :=
  "cargo:rustc-env=" ++ v.name ++ "=" ++ value

/-- The directives for those of the paths at which something is found, in order. A missing path
    would make every build run the script again. -/
def pathDirectives (present : Text → Bool) (paths : List Text) : List Text :=
  (paths.filter present).map pathDirective

/-- The path of the file behind the reference that the head points to. -/
def referencePath (s : Surroundings) : Step (Option Text) := do
  let head ← ask s headQuery
  match headReference? (head.getD []) with
  | some reference => ask s (pathQuery reference)
  | none => return none

/-- Prints the directives for the files that move with the head: the head, the reference that it
    points to, and the packed references. Without the first there are none. -/
def watchHead (s : Surroundings) : Step Unit := do
  match ← ask s (pathQuery "HEAD") with
  | none => pure ()
  | some head => do
    let reference ← referencePath s
    let packed ← ask s (pathQuery "packed-refs")
    printAll (pathDirectives s.present (head :: reference.toList ++ packed.toList))

/-- The value of a variable, or what the version control program says if it is not set. -/
def valueOrAsk (s : Surroundings) (v : Variable) (query : List Text) : Step Text :=
  match value? s v with
  | some t => return t
  | none => return (← ask s query).getD []

def version (s : Surroundings) : Text :=
  (value? s .version <|> value? s .packageVersion).getD []

def run (s : Surroundings) : Step Unit := do
  printAll ([.version, .branch, .commit].map variableDirective)
  watchHead s
  let branch ← valueOrAsk s .branch branchQuery
  let commit ← valueOrAsk s .commit commitQuery
  print (valueDirective .version (version s))
  print (valueDirective .branch (branchName branch))
  print (valueDirective .commit commit)

/-- The build that the builder makes with the values that the script hands to it. -/
def built (s : Surroundings) : Version :=
  .ofBuild (version s) (branchName (valueOrAsk s .branch branchQuery).value)
    (valueOrAsk s .commit commitQuery).value

def Action.line? : Action → Option Text
  | .printed line => some line
  | _ => none

def Action.call? : Action → Option (List Text)
  | .called args => some args
  | _ => none

def lines (trace : List Action) : List Text := trace.filterMap Action.line?

def calls (trace : List Action) : List (List Text) := trace.filterMap Action.call?

/-- All that the script prints. -/
def output (s : Surroundings) : Text := (lines (run s).trace).flatMap Text.line

/-- What the script leaves behind for the builder. -/
structure Report where
  status : Nat
  output : Text
  deriving DecidableEq, Repr

/-- The script has no way to fail: what it cannot find out it leaves empty. -/
def report (s : Surroundings) : Report := ⟨0, output s⟩

end BuildScript

end CpuIdentity
