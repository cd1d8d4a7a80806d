import CpuIdentity.Build.Script
import CpuIdentity.Net.Http
import CpuIdentity.Program
import Std.Async.Select
import Std.Async.Signal
import Std.Async.TCP

/-!
# The command line

The outer layer: it asks the system for what a machine answers, shows what a run does, and moves bytes
between clients and the server. What is shown and answered is settled by the program, and a served
exporter takes the steps of the server.
-/

namespace CpuIdentity.Main

open Std.Async

/-- The word made of four bytes, least significant first. -/
def wordOfBytes (bytes : List UInt8) : UInt32 :=
  bytes.foldr (fun b w => w * 256 + b.toUInt32) 0

/-- The registers in a block of sixteen bytes: EAX, EBX, ECX and EDX. -/
def registersOfBytes (bytes : List UInt8) : Registers :=
  let word (i : Nat) := wordOfBytes ((bytes.drop (4 * i)).take 4)
  ⟨word 0, word 1, word 2, word 3⟩

/-- What the first processor answers for the leaves 0 and 1. Without access to it all registers are
    zero. -/
def readRegisters : IO (List ((UInt32 × UInt32) × Registers)) := do
  try
    let device ← IO.FS.Handle.mk "/dev/cpu/0/cpuid" .read
    let bytes := (← device.read 32).toList
    return [((0, 0), registersOfBytes bytes), ((1, 0), registersOfBytes (bytes.drop 16))]
  catch _ => return []

def readNodeName : IO (Except Errno (List UInt8)) := do
  try
    let held ← IO.FS.readBinFile "/proc/sys/kernel/hostname"
    return Machine.nodeNameOf (held.toList.takeWhile (· ≠ 10))
  catch _ => return .error .notPermitted

def readMachine : IO Machine := do
  let rows ← readRegisters
  return ⟨Machine.registersOf rows, ← readNodeName⟩

/-- Shows an effect: output on the standard output, and events that reach the log on the standard
    error. -/
def showEffect (verbose : Bool) : Effect → IO Unit
  | .written t => IO.print (String.ofList t)
  | .logged e => for e in Program.logged verbose [e] do IO.eprintln (String.ofList e.shown)
  | _ => pure ()

/-- Shows the trace of a computation and goes on with its value. -/
def perform (verbose : Bool) (x : Act α) : IO α := do
  x.trace.forM (showEffect verbose)
  return x.value

/-- The address of the system for an address of the program. -/
def systemAddress : SocketAddress → Std.Net.SocketAddress
  | .v4 x port =>
    let octets : List UInt8 := [x.a, x.b, x.c, x.d].map UInt8.ofNat
    .v4 ⟨⟨Vector.ofFn fun i : Fin 4 => octets.getD i 0⟩, UInt16.ofNat port⟩
  | .v6 groups _ port =>
    let words : List UInt16 := groups.map UInt16.ofNat
    .v6 ⟨⟨Vector.ofFn fun i : Fin 8 => words.getD i 0⟩, UInt16.ofNat port⟩

/-- Reads from a client up to the end of the first line. -/
partial def readLine (client : TCP.Socket.Client) (sofar : List UInt8) : Async (List UInt8) := do
  if sofar.contains 13 then return sofar.takeWhile (· ≠ 13)
  else
    match ← client.recv? 4096 with
    | none => return sofar
    | some bytes => readLine client (sofar ++ bytes.toList)

/-- Reads a request from a client and sends what answering it leaves to send. -/
def answerClient (verbose : Bool) (answer : Request → Act Watch) (client : TCP.Socket.Client) :
    Async Unit := do
  let line ← readLine client []
  match (Utf8.decode? line).bind Request.ofLine? with
  | none => client.shutdown
  | some request =>
    let answered := answer request
    discard (perform verbose answered)
    (Effect.responses answered.trace).forM fun response =>
      client.send ⟨(Utf8.encode response.wire).toArray⟩
    client.shutdown

/-- The system's waiters for the signals, or why they cannot be had. -/
abbrev Waiters := CpuIdentity.Signal → Except IoError Signal.Waiter

/-- A fault of the system as the program tells it. -/
def ioFault (fault : IO.Error) : IoError := .other (toString fault).toList

def waiterFor (signal : Std.Async.Signal) : IO (Except IoError Signal.Waiter) := do
  try return .ok (← Signal.Waiter.mk signal false)
  catch fault => return .error (ioFault fault)

def readWaiters : IO Waiters := do
  let interrupt ← waiterFor .sigint
  let terminate ← waiterFor .sigterm
  return fun
    | .interrupt => interrupt
    | .terminate => terminate

/-- What the waiters tell of the handlers. -/
def Waiters.handlers (waiters : Waiters) : Handlers := fun s =>
  match waiters s with
  | .ok _ => none
  | .error fault => some fault

/-- What a running server waits for: a client or a signal. -/
abbrev Next := Sum TCP.Socket.Client CpuIdentity.Signal

/-- Waits for whichever comes first. -/
def next (server : TCP.Socket.Server) (waiters : Waiters) : Async Next :=
  let clients : Selectable Next := .case server.acceptSelector fun client => pure (.inl client)
  let signals : List (Selectable Next) :=
    [CpuIdentity.Signal.interrupt, .terminate].filterMap fun s =>
      (waiters s).toOption.map fun waiter => .case waiter.selector fun _ => pure (.inr s)
  Selectable.one (clients :: signals).toArray

/-- Takes the steps of a server until it has found that it has to stop. -/
partial def takeSteps (verbose : Bool) (step : Watch → Server.Happening → Act Watch)
    (server : TCP.Socket.Server) (waiters : Waiters) (w : Watch) : Async Unit := do
  if w.found.isSome then return
  match ← next server waiters with
  | .inl client =>
    try answerClient verbose (fun r => step w (.request r)) client catch _ => pure ()
    takeSteps verbose step server waiters w
  | .inr signal =>
    let w ← perform verbose (step w (.look ⟨signal, fun s => s = signal⟩))
    takeSteps verbose step server waiters w

/-- Ends with an error of the program. -/
def fail (cause : Error) : IO UInt32 := do
  IO.eprintln (String.ofList ("Error: " ++ cause.report))
  return 1

/-- Why an address cannot be listened on. -/
def listenFault : IO.Error → Errno
  | .resourceBusy .. => .addressInUse
  | .permissionDenied .. => .accessDenied
  | _ => .addressNotAvailable

/-- Serves the pages of an exporter until a signal arrives. The first look installs the handlers. -/
def serve (verbose : Bool) (build : Version) (address : SocketAddress) (x : Exporter) :
    IO UInt32 := do
  perform verbose (Server.announce address)
  let listening : Except Errno TCP.Socket.Server ← try
    let server ← TCP.Socket.Server.mk
    server.bind (systemAddress address)
    server.listen 128
    pure (.ok server)
  catch fault => pure (.error (listenFault fault))
  match listening with
  | .error fault => fail (.io (.os fault))
  | .ok server =>
    let waiters ← readWaiters
    let step := Server.step build x waiters.handlers
    let w ← perform verbose (step .unbegun (.look ⟨.interrupt, fun _ => false⟩))
    (takeSteps verbose step server waiters w).block
    perform verbose Server.close
    return 0

/-- The build that the build script makes of the package alone, where no value is set and the version
    control program says nothing. -/
def build : Version := BuildScript.built {
  environment := fun
    | .packageVersion => some (Utf8.encode "1.0.0")
    | _ => none
  call := fun _ => none
  present := fun _ => false }

/-- Carries out a command line. -/
def execute (args : List Text) : IO UInt32 := do
  match Arguments.parse args with
  | .error r =>
    let report := Program.reject r
    IO.print (String.ofList report.output)
    report.fault.forM fun t => IO.eprintln (String.ofList t)
    return UInt32.ofNat report.status
  | .ok a =>
    match ← perform a.verbose (Program.start build (← readMachine) a).run with
    | .error cause => fail cause
    | .ok none => return 0
    | .ok (some (address, x)) => serve a.verbose build address x

end CpuIdentity.Main

/-- The command line of the program. -/
def main (args : List String) : IO UInt32 :=
  CpuIdentity.Main.execute (args.map String.toList)
