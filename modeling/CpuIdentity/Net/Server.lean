import CpuIdentity.Metrics.Exporter
import CpuIdentity.Net.Http

/-!
# The server

The server answers requests for two pages from an exporter that no request can change, until a signal
asks it to stop. Which response a request gets follows the documented rules of its routing: a page may
be asked for with its body or without, any other method is refused with those that are allowed, and
there is nothing under any other path. These rules stand as documented; no response of a served
program was set beside them.

The server waits for two signals at once. The wait for a signal begins, when it is first looked at, by
installing a handler. If that fails the fault is logged and the wait has no end; otherwise it is over
once the signal has arrived. The server stops as soon as a look finds a wait over.
-/

namespace CpuIdentity

/-- The page of metrics from what encoding them gave. A fault is logged and makes a server error. -/
def metricsPage (encoded : Except Error Text) : Act Response :=
  match encoded with
  | .ok body => return .ok Exposition.contentType body
  | .error cause => do
    log (.encodingFailed cause)
    return .serverError ("failed to encode metrics: " ++ cause.message)

/-- The page that tells which build is running. -/
def versionPage (build : Version) : Response := .ok Response.plainText build.full

/-- What the system makes of installing the handler of a signal: a fault, if it fails. -/
abbrev Handlers := Signal → Option IoError

/-- How far the wait for a signal has come. -/
inductive Wait where
  | unbegun
  /-- The handler is installed and hears the signal when it arrives. -/
  | listening
  /-- There is no handler, so the signal is never heard. -/
  | forever
  deriving DecidableEq, Repr

namespace Wait

/-- Begins to wait for a signal. A handler that cannot be installed is logged. -/
def begin (handlers : Handlers) (s : Signal) : Act Wait :=
  match handlers s with
  | none => return .listening
  | some fault => do
    log (.handlerUnavailable s fault)
    return .forever

/-- Looks at the wait for a signal, which begins now if it has not yet. -/
def look (handlers : Handlers) (s : Signal) (x : Wait) : Act Wait :=
  if x = .unbegun then begin handlers s else return x

/-- Whether a wait is over, given whether its signal has arrived. -/
def isOver (x : Wait) (arrived : Bool) : Bool := arrived && decide (x = .listening)

end Wait

/-- A look at the waits for both signals: which comes first, and which signals have arrived by then. -/
structure Look where
  first : Signal
  arrived : Signal → Bool

/-- The signals in the order in which a look turns to them. -/
def Look.order (l : Look) : List Signal := [l.first, l.first.other]

/-- The waits for the signals, and the first signal whose wait was found over, once there is one. -/
structure Watch where
  wait : Signal → Wait
  found : Option Signal

namespace Watch

/-- Nobody has looked yet. -/
def unbegun : Watch := ⟨fun _ => .unbegun, none⟩

def put (w : Watch) (s : Signal) (x : Wait) : Watch :=
  { w with wait := fun t => if t = s then x else w.wait t }

/-- Looks at one wait after the other until one is over; its signal is logged. -/
def select (handlers : Handlers) (arrived : Signal → Bool) (w : Watch) : List Signal → Act Watch
  | [] => return w
  | s :: rest => do
    let x ← (w.wait s).look handlers s
    if x.isOver (arrived s) then
      log (.shutdownRequested s)
      return { w.put s x with found := some s }
    else (w.put s x).select handlers arrived rest

/-- Looks at both waits, unless one was found over before. -/
def look (handlers : Handlers) (w : Watch) (l : Look) : Act Watch :=
  if w.found.isSome then return w else w.select handlers l.arrived l.order

def looks (handlers : Handlers) (w : Watch) : List Look → Act Watch
  | [] => return w
  | l :: ls => do (← w.look handlers l).looks handlers ls

end Watch

namespace Server

/-- A method that asks for a page. -/
def getMethod : Text := "GET"

/-- A method that asks for a page without its body. -/
def headMethod : Text := "HEAD"

/-- The methods that a page allows. -/
def allowed : Text := "GET,HEAD"

/-- The page under a path. -/
def page? (build : Version) (x : Exporter) (path : Text) : Option (Act Response) :=
  if path = ("/metrics" : Text) then some (metricsPage x.encode)
  else if path = ("/version" : Text) then some (pure (versionPage build))
  else none

def respond (build : Version) (x : Exporter) (r : Request) : Act Response :=
  match page? build x r.path with
  | none => return .notFound
  | some page =>
    if r.method = getMethod then page
    else if r.method = headMethod then return (← page).withoutBody
    else return .methodNotAllowed allowed

/-- What may happen to a server that runs. -/
inductive Happening where
  | request (r : Request)
  /-- The server looks whether it has to stop. -/
  | look (l : Look)

def Happening.request? : Happening → Option Request
  | .request r => some r
  | .look _ => none

def Happening.look? : Happening → Option Look
  | .request _ => none
  | .look l => some l

/-- What a server does when something happens to it. A request that it has received is answered, also
    after it has found that it has to stop. -/
def step (build : Version) (x : Exporter) (handlers : Handlers) (w : Watch) :
    Happening → Act Watch
  | .request r => do
    Traced.emit (.answered (← respond build x r))
    return w
  | .look l => w.look handlers l

def steps (build : Version) (x : Exporter) (handlers : Handlers) (w : Watch) :
    List Happening → Act Watch
  | [] => return w
  | h :: hs => do steps build x handlers (← step build x handlers w h) hs

end Server

/-- What happens to a server from its start to its end, and what the system makes of its handlers. -/
structure Session where
  handlers : Handlers
  happenings : List Server.Happening
  /-- A server comes to its end when a look has found that it has to stop. -/
  ends : (Watch.unbegun.looks handlers
    (happenings.filterMap Server.Happening.look?)).value.found.isSome = true

namespace Session

def requests (s : Session) : List Request := s.happenings.filterMap Server.Happening.request?

def looks (s : Session) : List Look := s.happenings.filterMap Server.Happening.look?

/-- The waits at the end of a session. -/
def watch (s : Session) : Watch := (Watch.unbegun.looks s.handlers s.looks).value

/-- The signal that stops the server. -/
def signal (s : Session) : Signal := s.watch.found.get s.ends

end Session

/-- What the network makes of an attempt to listen on an address. -/
abbrev Network := SocketAddress → Except IoError Session

namespace Server

/-- What a server does before it listens. -/
def announce (address : SocketAddress) : Act Unit := log (.serverStarting address)

/-- What a server does at its end. -/
def close : Act Unit := log .serverStopped

/-- Serves the pages of an exporter on an address. -/
def serve (build : Version) (network : Network) (address : SocketAddress) (x : Exporter) :
    Run Unit := do
  announce address
  match network address with
  | .error cause => throw (.io cause)
  | .ok session => do
    let _ ← steps build x session.handlers .unbegun session.happenings
    close

end Server

end CpuIdentity
