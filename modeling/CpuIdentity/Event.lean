import CpuIdentity.Build.Version
import CpuIdentity.Catalogue.Classify
import CpuIdentity.Cpu.Signature
import CpuIdentity.Error
import CpuIdentity.Net.Http
import CpuIdentity.Net.SocketAddress
import CpuIdentity.Text.Terminal
import CpuIdentity.Trace

/-!
# Events and effects

An event is something worth a line in the log, told by what happened; its level and its wording
follow from that. An effect is anything that a run does to the world or asks of it, events included,
so the trace of a run shows the order of questions, log lines, output and answers.
-/

namespace CpuIdentity

inductive Level where
  | error
  | warn
  | info
  | debug
  deriving DecidableEq, Repr

def Level.label : Level → Text
  | .error => "ERROR"
  | .warn => "WARN"
  | .info => "INFO"
  | .debug => "DEBUG"

/-- A signal that asks the server to stop. -/
inductive Signal where
  | interrupt
  | terminate
  deriving DecidableEq, Repr

/-- The signal that is not this one. -/
def Signal.other : Signal → Signal
  | .interrupt => .terminate
  | .terminate => .interrupt

theorem Signal.eq_other_of_ne {s t : Signal} (h : t ≠ s) : t = s.other := by
  revert h
  cases s <;> cases t <;> decide

def Signal.label : Signal → Text
  | .interrupt => "Ctrl+C"
  | .terminate => "SIGTERM"

inductive Event where
  | started (version : Version)
  | catalogueInUse
  | hostnameUnavailable (fault : Errno)
  | exportingFor (hostname : Option Text)
  | exporterRegistered (scope : Text)
  | versionWordRead (eax : UInt32) (signature : Signature)
  | processorFound (signature : Signature)
  | steppingUnexpected (stepping : UInt8)
  | classified (number : UInt8) (model : Model)
  | uncatalogued (number : UInt8)
  | hostNotIdentified (cause : Error)
  | encodingFailed (cause : Error)
  | serverStarting (address : SocketAddress)
  | handlerUnavailable (signal : Signal) (fault : IoError)
  | shutdownRequested (signal : Signal)
  | serverStopped
  deriving DecidableEq, Repr

namespace Event

def level : Event → Level
  | .started _ => .debug
  | .catalogueInUse => .debug
  | .hostnameUnavailable _ => .warn
  | .exportingFor _ => .info
  | .exporterRegistered _ => .debug
  | .versionWordRead .. => .debug
  | .processorFound _ => .info
  | .steppingUnexpected _ => .warn
  | .classified .. => .info
  | .uncatalogued _ => .warn
  | .hostNotIdentified _ => .warn
  | .encodingFailed _ => .error
  | .serverStarting _ => .warn
  | .handlerUnavailable .. => .error
  | .shutdownRequested _ => .warn
  | .serverStopped => .info

def message : Event → Text
  | .started version => version.full
  | .catalogueInUse => "Model catalogue: " ++ provenance
  | .hostnameUnavailable fault => "Failed to detect hostname: " ++ fault.bySymbol
  | .exportingFor hostname => "Exporting identity for host " ++ hostname.getD "<unknown>"
  | .exporterRegistered scope => "Identity exporter registered under " ++ scope
  | .versionWordRead eax signature =>
    "CPUID leaf 1 EAX = 0x" ++ Text.hexPadded 8 eax.toNat ++ ": " ++ signature.text
  | .processorFound signature => "CPU: " ++ signature.text
  | .steppingUnexpected stepping =>
    "Unexpected stepping " ++ Text.hexUpper stepping.toNat ++
      " for model 0x55, keeping Skylake-X"
  | .classified number model => "Classified CPU model " ++ numberLabel number ++ " as " ++ model.name
  | .uncatalogued number =>
    "Intel family 6 model " ++ numberLabel number ++ " is not in the catalogue"
  | .hostNotIdentified cause => "Host CPU not identified: " ++ cause.message
  | .encodingFailed cause => "Failed to encode identity metrics: " ++ cause.message
  | .serverStarting address => "Starting HTTP server on " ++ address.text
  | .handlerUnavailable signal fault =>
    "Failed to install " ++ signal.label ++ " handler: " ++ fault.message
  | .shutdownRequested signal => "Shutdown triggered by " ++ signal.label
  | .serverStopped => "Server shutdown complete"

/-- An event as a log line. -/
def line (e : Event) : Text := e.level.label ++ " " ++ e.message

/-- The log line as a terminal may read it. -/
def shown (e : Event) : Text := e.level.label ++ " " ++ Terminal.escaped e.message

end Event

/-- Something that a run does to the world or asks of it. -/
inductive Effect where
  | cpuid (leaf subleaf : UInt32)
  /-- The system is asked for the name of the host. -/
  | hostname
  | logged (event : Event)
  | written (text : Text)
  | answered (response : Response)
  deriving DecidableEq, Repr

/-- A computation that leaves a trace of effects. -/
abbrev Act := Traced Effect

/-- A computation that leaves a trace of effects and may fail. -/
abbrev Run := ExceptT Error Act

def log (e : Event) : Act Unit := Traced.emit (.logged e)

def write (t : Text) : Act Unit := Traced.emit (.written t)

namespace Effect

def event? : Effect → Option Event
  | .logged e => some e
  | _ => none

def query? : Effect → Option (UInt32 × UInt32)
  | .cpuid leaf subleaf => some (leaf, subleaf)
  | _ => none

def text? : Effect → Option Text
  | .written t => some t
  | _ => none

def response? : Effect → Option Response
  | .answered r => some r
  | _ => none

def events (trace : List Effect) : List Event := trace.filterMap event?

def queries (trace : List Effect) : List (UInt32 × UInt32) := trace.filterMap query?

/-- All that a trace wrote to the standard output. -/
def output (trace : List Effect) : Text := (trace.filterMap text?).flatten

def responses (trace : List Effect) : List Response := trace.filterMap response?

end Effect

end CpuIdentity
