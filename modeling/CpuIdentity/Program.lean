import CpuIdentity.Catalogue.Classify
import CpuIdentity.CommandLine.Arguments
import CpuIdentity.Net.Server

/-!
# The program

A run does what its arguments ask for, on a machine and a network. A model to classify goes before a
listing, and both need nothing of the machine. Metrics go before the server, and the server before
the summary; these three need the host, which is found when it is first asked for. What a run tells of
its own version are the values that it was built with.
-/

namespace CpuIdentity

/-- What a run leaves behind for whoever started it. -/
structure Report where
  status : Nat
  output : Text
  /-- The fault that ended the run, in words, if one did. -/
  fault : Option Text
  log : List Event
  responses : List Response
  deriving DecidableEq, Repr

namespace Program

/-- Classifies the model number that a text gives. -/
def classify (t : Text) : Run Unit := do
  let n ← (Model.readNumber t).mapError Error.ofNumberError
  write (Text.line (classification n))

/-- The lineage that a text names, if there is a text. -/
def restriction : Option Text → Except Error (Option Lineage)
  | none => .ok none
  | some t => ((Lineage.ofName t).mapError Error.catalogue).map some

/-- Lists the catalogue, or the lineage that a text names. -/
def list (lineage : Option Text) : Run Unit := do
  let l ← restriction lineage
  write (listing l)

/-- The exporter for a scope on a machine, after observing the host if it can be identified. -/
def prepare (build : Version) (m : Machine) (scope : Text) : HostRun Exporter := do
  let config ← Config.detect m scope
  let x ← Exporter.create build config
  match ← Host.current m with
  | some h => return x.observe h
  | none => return x

def hostLine : Option Host → Text
  | some h => h.text
  | none => "Host CPU is not an Intel Family-6 part"

/-- Writes the version of the program and what the host is. -/
def summarise (build : Version) (m : Machine) : HostRun Unit := do
  write (Text.line build.full)
  write (Text.line (hostLine (← Host.current m)))

/-- Does what the arguments ask of the host. A server is left to be started: the result is its
    address and its exporter. -/
def publish (build : Version) (m : Machine) (a : Arguments) :
    HostRun (Option (SocketAddress × Exporter)) := do
  let x ← prepare build m a.scope
  if a.metrics then
    write (← x.encode)
    return none
  else
    match a.listen with
    | some address => return some (address, x)
    | none =>
      summarise build m
      return none

/-- Does what the arguments ask for, up to the start of a server if they ask for one. -/
def start (build : Version) (m : Machine) (a : Arguments) :
    Run (Option (SocketAddress × Exporter)) := do
  log (.started build)
  log .catalogueInUse
  match a.model with
  | some t =>
    classify t
    return none
  | none =>
    if a.list then
      list a.lineage
      return none
    else (publish build m a).run' none

/-- Does what the arguments ask for. -/
def run (build : Version) (m : Machine) (network : Network) (a : Arguments) : Run Unit := do
  match ← start build m a with
  | some (address, x) => Server.serve build network address x
  | none => pure ()

/-- The events that reach the log: all of them, or all above the lowest level. -/
def logged (verbose : Bool) (events : List Event) : List Event :=
  events.filter fun e => verbose || decide (e.level ≠ .debug)

/-- What a run leaves behind, from its trace and its result. -/
def report (verbose : Bool) (r : Traced Effect (Except Error Unit)) : Report where
  status := match r.value with
    | .ok () => 0
    | .error _ => 1
  output := Effect.output r.trace
  fault := match r.value with
    | .ok () => none
    | .error cause => some ("Error: " ++ cause.report)
  log := logged verbose (Effect.events r.trace)
  responses := Effect.responses r.trace

/-- What a rejected command line leaves behind. -/
def reject (r : Rejection) : Report where
  status := r.exitStatus
  output := if r = .help then helpText else []
  fault := r.message?.map ("error: " ++ ·)
  log := []
  responses := []

/-- Carries out a command line on a machine and a network. -/
def execute (build : Version) (m : Machine) (network : Network) (args : List Text) : Report :=
  match Arguments.parse args with
  | .ok a => report a.verbose (run build m network a).run
  | .error r => reject r

end Program

end CpuIdentity
