import CpuIdentity.Metrics.Exporter
import CpuIdentity.Net.SocketAddress
import CpuIdentity.Text.Terminal

/-!
# Arguments

A command line is a sequence of options. A switch stands alone. A setting has a value, attached to it
by an equals sign or given by the next argument, which then must not look like an option. No option
may occur twice, and nothing else may occur.

A setting whose value comes from the next argument stays open until the next option that is
recognised, or the end. Only then is it entered, so an argument that is not recognised is reported
before a fault of the open setting. The wording of a rejection quotes what was given as plain text,
without what a terminal would act on.
-/

namespace CpuIdentity

/-- An option that stands alone. -/
inductive Switch where
  | list
  | metrics
  | verbose
  deriving DecidableEq, Repr

/-- An option with a value. -/
inductive Setting where
  | lineage
  | model
  | listen
  | scope
  deriving DecidableEq, Repr

/-- What a command line asks for. -/
structure Arguments where
  list : Bool
  lineage : Option Text
  model : Option Text
  metrics : Bool
  listen : Option SocketAddress
  scope : Text
  verbose : Bool
  deriving DecidableEq, Repr

/-- Why a command line is not carried out. -/
inductive Rejection where
  | help
  /-- An argument is no option and no value of one. -/
  | unknown (given : Text)
  /-- A value is attached to an option that has none. -/
  | valueOnSwitch (value : Text) (usage : Text)
  | missingValue (setting : Setting)
  | repeated (usage : Text)
  /-- The value of the listening address is no socket address. -/
  | invalidAddress (given : Text)
  /-- A lineage is given without a listing to restrict. -/
  | lineageWithoutList
  deriving DecidableEq, Repr

/-- The word of a switch after its two dashes. -/
def Switch.word : Switch → Text
  | .list => "list"
  | .metrics => "metrics"
  | .verbose => "verbose"

def Switch.usage (s : Switch) : Text := "--" ++ s.word

def Setting.word : Setting → Text
  | .lineage => "lineage"
  | .model => "model"
  | .listen => "listen"
  | .scope => "namespace"

def Setting.usage (s : Setting) : Text :=
  "--" ++ s.word ++ " <" ++ s.word.map Char.toUpper ++ ">"

def Switch.all : List Switch := [.list, .metrics, .verbose]

def Setting.all : List Setting := [.lineage, .model, .listen, .scope]

namespace Arguments

/-- What has been entered of a command line so far. -/
structure Draft where
  list : Bool := false
  metrics : Bool := false
  verbose : Bool := false
  lineage : Option Text := none
  model : Option Text := none
  listen : Option SocketAddress := none
  scope : Option Text := none
  deriving DecidableEq, Repr

/-- A setting that still waits to be entered, with its value if that has been read. -/
structure Pending where
  setting : Setting
  value : Option Text
  deriving DecidableEq, Repr

def enterSwitch (d : Draft) (s : Switch) : Except Rejection Draft :=
  match s with
  | .list => if d.list then .error (.repeated s.usage) else .ok { d with list := true }
  | .metrics => if d.metrics then .error (.repeated s.usage) else .ok { d with metrics := true }
  | .verbose => if d.verbose then .error (.repeated s.usage) else .ok { d with verbose := true }

/-- Enters a setting with its value. That it occurs once is checked before the value is. -/
def enterSetting (d : Draft) (s : Setting) (value : Text) : Except Rejection Draft :=
  match s with
  | .lineage =>
    if d.lineage.isSome then .error (.repeated s.usage) else .ok { d with lineage := some value }
  | .model =>
    if d.model.isSome then .error (.repeated s.usage) else .ok { d with model := some value }
  | .scope =>
    if d.scope.isSome then .error (.repeated s.usage) else .ok { d with scope := some value }
  | .listen =>
    if d.listen.isSome then .error (.repeated s.usage)
    else
      match SocketAddress.ofText? value with
      | some address => .ok { d with listen := some address }
      | none => .error (.invalidAddress value)

/-- Enters the open setting, if there is one. -/
def settle (d : Draft) : Option Pending → Except Rejection Draft
  | none => .ok d
  | some ⟨s, none⟩ => .error (.missingValue s)
  | some ⟨s, some value⟩ => enterSetting d s value

/-- The options by their words. -/
inductive Named where
  | switch (s : Switch)
  | setting (s : Setting)
  | help

def Named.ofWord? (w : Text) : Option Named :=
  if w = ("help" : Text) then some .help
  else
    match Switch.all.find? (·.word = w), Setting.all.find? (·.word = w) with
    | some s, _ => some (.switch s)
    | none, some s => some (.setting s)
    | none, none => none

/-- The forms an argument can have. -/
inductive Form where
  /-- Two dashes alone: no option follows. -/
  | terminator
  /-- Two dashes and a word, with the value after an equals sign if there is one. -/
  | long (word : Text) (value : Option Text)
  /-- One dash and letters. -/
  | short (letters : Text)
  /-- Anything else, a single dash among it. -/
  | plain

def Form.of : Text → Form
  | ['-', '-'] => .terminator
  | '-' :: '-' :: t =>
    .long (t.takeWhile (· ≠ '=')) (if '=' ∈ t then some ((t.dropWhile (· ≠ '=')).drop 1) else none)
  | ['-'] => .plain
  | '-' :: letters => .short letters
  | _ => .plain

/-- Enters the options that the letters after one dash stand for. -/
def enterLetters (d : Draft) : Text → Except Rejection Draft
  | [] => .ok d
  | c :: cs =>
    if c = 'v' then
      match enterSwitch d .verbose with
      | .ok d => enterLetters d cs
      | .error r => .error r
    else if c = 'h' then .error .help
    else .error (.unknown ['-', c])

/-- Whether a letter after one dash stands for an option. -/
def isLetter (c : Char) : Bool := c = 'v' || c = 'h'

/-- Reads the letters of an argument with one dash. The open setting is entered before the first of
    them, unless that one is not recognised. -/
def readLetters (d : Draft) (pending : Option Pending) (letters : Text) : Except Rejection Draft :=
  match letters with
  | [] => settle d pending
  | c :: _ =>
    if isLetter c then
      match settle d pending with
      | .ok d => enterLetters d letters
      | .error r => .error r
    else .error (.unknown ['-', c])

/-- Reads an argument with two dashes and a word. -/
def readLong (d : Draft) (pending : Option Pending) (word : Text) (value : Option Text) :
    Except Rejection (Draft × Option Pending) :=
  match Named.ofWord? word, value with
  | none, _ => .error (.unknown ("--" ++ word))
  | some (.switch s), some value => .error (.valueOnSwitch value s.usage)
  | some .help, some value => .error (.valueOnSwitch value "--help")
  | some named, _ =>
    match settle d pending with
    | .error r => .error r
    | .ok d =>
      match named, value with
      | .help, _ => .error .help
      | .switch s, _ => (enterSwitch d s).map (·, none)
      | .setting s, some value => (enterSetting d s value).map (·, none)
      | .setting s, none => .ok (d, some ⟨s, none⟩)

def read (d : Draft) (pending : Option Pending) : List Text → Except Rejection Draft
  | [] => settle d pending
  | a :: as =>
    match Form.of a with
    | .terminator =>
      match as with
      | [] => settle d pending
      | next :: _ => .error (.unknown next)
    | .long word value =>
      match readLong d pending word value with
      | .ok (d, pending) => read d pending as
      | .error r => .error r
    | .short letters =>
      match readLetters d pending letters with
      | .ok d => read d none as
      | .error r => .error r
    | .plain =>
      match pending with
      | some ⟨s, none⟩ => read d (some ⟨s, some a⟩) as
      | _ => .error (.unknown a)

/-- The finished arguments. A lineage needs a listing that it restricts. -/
def finish (d : Draft) : Except Rejection Arguments :=
  if d.lineage.isSome && !d.list then .error .lineageWithoutList
  else .ok {
    list := d.list
    lineage := d.lineage
    model := d.model
    metrics := d.metrics
    listen := d.listen
    scope := d.scope.getD Config.defaultScope
    verbose := d.verbose }

/-- The arguments that a command line spells. -/
def parse (args : List Text) : Except Rejection Arguments :=
  match read {} none args with
  | .ok d => finish d
  | .error r => .error r

end Arguments

namespace Rejection

/-- The wording of a rejection; help is no fault and has none. -/
def message? : Rejection → Option Text
  | .help => none
  | .unknown given => some ("unexpected argument '" ++ Terminal.plain given ++ "' found")
  | .valueOnSwitch value usage =>
    some ("unexpected value '" ++ Terminal.plain value ++ "' for '" ++ usage ++
      "' found; no more were expected")
  | .missingValue setting =>
    some ("a value is required for '" ++ setting.usage ++ "' but none was supplied")
  | .repeated usage => some ("the argument '" ++ usage ++ "' cannot be used multiple times")
  | .invalidAddress given =>
    some ("invalid value '" ++ Terminal.plain given ++ "' for '" ++ Setting.listen.usage ++
      "': invalid socket address syntax")
  | .lineageWithoutList =>
    some ("the following required arguments were not provided:\n  " ++ Switch.list.usage)

def exitStatus : Rejection → Nat
  | .help => 0
  | _ => 2

end Rejection

def helpText : Text :=
  List.flatMap Text.line
    ["Intel Family-6 CPU identification for power telemetry collectors",
     "",
     "Usage: powertelemetry [OPTIONS]",
     "",
     "Options:",
     "      --list                   List every catalogued Intel Family-6 model",
     "      --lineage <LINEAGE>      Restrict --list to one lineage (core, hybrid, atom, xeon-phi)",
     "      --model <MODEL>          Classify a model number given as hex (0x55), decimal (85) or symbolic name",
     "      --metrics                Print identity metrics in Prometheus text format",
     "      --listen <LISTEN>        Serve /metrics and /version on this address (e.g. 0.0.0.0:8080)",
     "      --namespace <NAMESPACE>  Metric name prefix [default: powertelemetry]",
     "  -v, --verbose                Enable verbose logging (shows CPUID decoding)",
     "  -h, --help                   Print help"]

end CpuIdentity
