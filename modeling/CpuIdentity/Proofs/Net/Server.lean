import CpuIdentity.Net.Server
import CpuIdentity.Proofs.Run

/-!
# What a server does

A response depends on its request, the running build and the exporter alone, so the responses of a
session are its requests with one function applied to each. If the exporter can be encoded, its page
is served with success.

What a server has to wait for depends on its looks alone. A wait that is over has its handler, since
it has begun by installing it, so a server is stopped by a signal that it can hear. A handler that
cannot be installed is logged once, by the first look.
-/

namespace CpuIdentity

namespace Signal

theorem other_other (s : Signal) : s.other.other = s := by cases s <;> rfl

/-- What both signals bring, in either order, is what the other one brings if this one brings nothing. -/
theorem flatMap_both {α : Type} {f : Signal → List α} {s : Signal} (h : f s = []) (first : Signal) :
    [first, first.other].flatMap f = f s.other := by
  rw [List.flatMap_cons, List.flatMap_cons, List.flatMap_nil, List.append_nil]
  by_cases same : s = first
  · rw [← same, h, List.nil_append]
  · have second : s = first.other := eq_other_of_ne same
    rw [second, other_other, ← second, h, List.append_nil]

end Signal

namespace Wait

variable {handlers : Handlers} {s : Signal}

/-- What a wait has come to once it has begun. -/
def begun (handlers : Handlers) (s : Signal) : Wait := (begin handlers s).value

theorem begun_of_none (h : handlers s = none) : begun handlers s = .listening := by
  rw [begun, begin, h]
  rfl

theorem begun_of_some {fault : IoError} (h : handlers s = some fault) :
    begun handlers s = .forever := by
  rw [begun, begin, h]
  rfl

theorem begun_ne_unbegun (handlers : Handlers) (s : Signal) : begun handlers s ≠ .unbegun := by
  cases h : handlers s with
  | none => simp [begun_of_none h]
  | some fault => simp [begun_of_some h]

/-- A wait that has begun is over if its signal has arrived at a handler. -/
theorem isOver_begun (handlers : Handlers) (s : Signal) (arrived : Bool) :
    (begun handlers s).isOver arrived = (arrived && (handlers s).isNone) := by
  cases h : handlers s with
  | none => simp [begun_of_none h, isOver]
  | some fault => simp [begun_of_some h, isOver]

/-- Looking again at a wait that has begun does nothing. -/
theorem look_begun (handlers : Handlers) (s : Signal) :
    (begun handlers s).look handlers s = pure (begun handlers s) :=
  if_neg (begun_ne_unbegun handlers s)

/-- What is logged when a wait begins. -/
def failure (handlers : Handlers) (s : Signal) : List Effect :=
  (handlers s).toList.map fun fault => .logged (.handlerUnavailable s fault)

theorem failure_of_isNone (h : (handlers s).isNone = true) : failure handlers s = [] := by
  rw [failure, Option.isNone_iff_eq_none.1 h]
  rfl

theorem look_unbegun (handlers : Handlers) (s : Signal) :
    look handlers s .unbegun = ⟨failure handlers s, begun handlers s⟩ := by
  rw [look, if_pos rfl, begun, begin, failure]
  cases handlers s <;> rfl

theorem silent_look (handlers : Handlers) (s : Signal) (x : Wait) :
    Effect.Silent (x.look handlers s).trace := by
  by_cases h : x = .unbegun
  · rw [h, look_unbegun, failure]
    cases handlers s with
    | none => exact Effect.silent_nil
    | some fault => exact Effect.silent_nil.logged _
  · rw [look, if_neg h]
    exact Effect.silent_nil

end Wait

namespace Look

/-- Whether a signal has arrived at its handler by the time of a look. -/
def hears (handlers : Handlers) (l : Look) (s : Signal) : Bool :=
  l.arrived s && (handlers s).isNone

/-- The signal that a look finds to have arrived, the first in its order. -/
def heard? (handlers : Handlers) (l : Look) : Option Signal := l.order.find? (l.hears handlers)

end Look

namespace Watch

variable {handlers : Handlers} {w : Watch}

/-- Both waits have begun, and a signal may have been found. -/
def watching (handlers : Handlers) (found : Option Signal) : Watch := ⟨Wait.begun handlers, found⟩

/-- What is logged of the signal that stops a server. -/
def stopping (found : Option Signal) : List Effect :=
  found.toList.map fun s => .logged (.shutdownRequested s)

theorem put_begun (handlers : Handlers) (found : Option Signal) (s : Signal) :
    (watching handlers found).put s (Wait.begun handlers s) = watching handlers found := by
  have same : (fun t => if t = s then Wait.begun handlers s else Wait.begun handlers t) =
      Wait.begun handlers := by
    funext t
    split
    case isTrue h => rw [h]
    case isFalse => rfl
  rw [put, watching, same]

/-- Once both waits have begun, looking finds the first signal that has arrived at its handler. -/
theorem select_watching (handlers : Handlers) (arrived : Signal → Bool) (order : List Signal) :
    (watching handlers none).select handlers arrived order =
      let found := order.find? fun s => arrived s && (handlers s).isNone
      ⟨stopping found, watching handlers found⟩ := by
  induction order with
  | nil => rfl
  | cons s rest ih =>
    have looked : ((watching handlers none).wait s).look handlers s =
        pure (Wait.begun handlers s) := Wait.look_begun handlers s
    rw [select, looked, pure_bind, Wait.isOver_begun, put_begun, List.find?_cons]
    cases arrived s && (handlers s).isNone with
    | true => rfl
    | false => exact ih

theorem look_watching (handlers : Handlers) (l : Look) :
    (watching handlers none).look handlers l =
      ⟨stopping (l.heard? handlers), watching handlers (l.heard? handlers)⟩ :=
  select_watching handlers l.arrived l.order

theorem look_of_found (h : w.found.isSome = true) (l : Look) : w.look handlers l = pure w :=
  if_pos h

/-- Nobody looks any more once a signal is found. -/
theorem looks_of_found (h : w.found.isSome = true) (ls : List Look) :
    w.looks handlers ls = pure w := by
  induction ls with
  | nil => rfl
  | cons l ls ih => rw [looks, look_of_found h, pure_bind, ih]

/-- Once both waits have begun, the first look that finds an arrived signal settles what stops the
    server. -/
theorem looks_watching (handlers : Handlers) (ls : List Look) :
    (watching handlers none).looks handlers ls =
      let found := ls.findSome? (Look.heard? handlers)
      ⟨stopping found, watching handlers found⟩ := by
  induction ls with
  | nil => rfl
  | cons l ls ih =>
    rw [looks, look_watching, List.findSome?_cons]
    cases l.heard? handlers with
    | none => exact ih
    | some s =>
      rw [Traced.mk_bind, looks_of_found rfl]
      rfl

/-- A wait that has not begun does so when it is looked at, and is over at once only with a handler. -/
theorem select_cons_of_unbegun {s : Signal} (h : w.wait s = .unbegun) (arrived : Signal → Bool)
    (rest : List Signal) :
    w.select handlers arrived (s :: rest) =
      if arrived s && (handlers s).isNone then
        ⟨stopping (some s), { w.put s (Wait.begun handlers s) with found := some s }⟩
      else
        let others := (w.put s (Wait.begun handlers s)).select handlers arrived rest
        ⟨Wait.failure handlers s ++ others.trace, others.value⟩ := by
  rw [select, h, Wait.look_unbegun, Traced.mk_bind, Wait.isOver_begun]
  cases heard : arrived s && (handlers s).isNone with
  | true =>
    rw [Wait.failure_of_isNone (Bool.and_eq_true_iff.1 heard).2]
    rfl
  | false => rfl

/-- Both waits have begun when a look has turned to one after the other. -/
theorem put_put_other (handlers : Handlers) (s : Signal) :
    (unbegun.put s (Wait.begun handlers s)).put s.other (Wait.begun handlers s.other) =
      watching handlers none := by
  have same : (fun t => if t = s.other then Wait.begun handlers s.other
      else if t = s then Wait.begun handlers s else .unbegun) = Wait.begun handlers := by
    funext t
    cases s <;> cases t <;> rfl
  simp only [put, unbegun, watching, same]

/-- The first look begins the waits in its order, the second one only if the first is not over at
    once. -/
theorem look_unbegun (handlers : Handlers) (l : Look) :
    unbegun.look handlers l =
      if l.hears handlers l.first then
        ⟨stopping (some l.first),
          { unbegun.put l.first (Wait.begun handlers l.first) with found := some l.first }⟩
      else
        ⟨l.order.flatMap (Wait.failure handlers) ++ stopping (l.heard? handlers),
          watching handlers (l.heard? handlers)⟩ := by
  have still : (unbegun.put l.first (Wait.begun handlers l.first)).wait l.first.other = .unbegun := by
    cases l.first <;> rfl
  show unbegun.select handlers l.arrived [l.first, l.first.other] = _
  rw [select_cons_of_unbegun rfl, ← Look.hears]
  cases first : l.hears handlers l.first with
  | true => rfl
  | false =>
    rw [select_cons_of_unbegun still, put_put_other, Look.heard?, Look.order, List.find?_cons, first,
      List.find?_cons, ← Look.hears]
    cases second : l.hears handlers l.first.other with
    | true =>
      have quiet := Wait.failure_of_isNone (Bool.and_eq_true_iff.1 second).2
      rw [List.flatMap_cons, List.flatMap_cons, quiet]
      exact Traced.ext (by simp) rfl
    | false => exact Traced.ext (by simp [select, stopping]) rfl

/-- After the first look the waits have begun, and the first look that finds an arrived signal settles
    what stops the server. -/
theorem looks_unbegun (handlers : Handlers) (l : Look) (ls : List Look) :
    unbegun.looks handlers (l :: ls) =
      if l.hears handlers l.first then
        ⟨stopping (some l.first),
          { unbegun.put l.first (Wait.begun handlers l.first) with found := some l.first }⟩
      else
        let found := (l :: ls).findSome? (Look.heard? handlers)
        ⟨l.order.flatMap (Wait.failure handlers) ++ stopping found, watching handlers found⟩ := by
  rw [looks, look_unbegun, List.findSome?_cons]
  cases l.hears handlers l.first with
  | true =>
    rw [if_pos rfl, if_pos rfl, Traced.mk_bind, looks_of_found rfl]
    rfl
  | false =>
    rw [if_neg Bool.false_ne_true, if_neg Bool.false_ne_true, Traced.mk_bind]
    cases l.heard? handlers with
    | none =>
      rw [looks_watching]
      exact Traced.ext (by simp [stopping]) rfl
    | some s =>
      rw [looks_of_found rfl]
      exact Traced.ext (List.append_nil _) rfl

theorem silent_select (handlers : Handlers) (arrived : Signal → Bool) (w : Watch)
    (order : List Signal) : Effect.Silent (w.select handlers arrived order).trace := by
  induction order generalizing w with
  | nil => exact Effect.silent_nil
  | cons s rest ih =>
    unfold select
    rw [Traced.trace_bind]
    refine (Wait.silent_look handlers s (w.wait s)).append ?_
    split
    · exact Effect.silent_nil.logged _
    · exact ih _

/-- A look writes nothing and answers nobody. -/
theorem silent_look (handlers : Handlers) (w : Watch) (l : Look) :
    Effect.Silent (w.look handlers l).trace := by
  unfold look
  split
  · exact Effect.silent_nil
  · exact silent_select handlers l.arrived w l.order

end Watch

namespace Session

/-- The handlers that could not be installed, each with its fault. A handler is not tried if its wait
    has not begun. -/
def failures (s : Session) : List (Signal × IoError) :=
  [Signal.interrupt, .terminate].flatMap fun t =>
    if s.watch.wait t = .unbegun then [] else (s.handlers t).toList.map fun fault => (t, fault)

/-- A session comes to its end in one of two ways: the first look finds the signal that it turns to
    first, or both waits begin and some look finds a signal. -/
theorem cases_looks (s : Session) :
    ∃ l ls, s.looks = l :: ls ∧
      ((l.hears s.handlers l.first = true ∧ s.signal = l.first ∧
          s.watch.wait = (Watch.unbegun.put l.first (Wait.begun s.handlers l.first)).wait ∧
          (Watch.unbegun.looks s.handlers s.looks).trace = Watch.stopping (some s.signal)) ∨
        ((l :: ls).findSome? (Look.heard? s.handlers) = some s.signal ∧
          s.watch.wait = Wait.begun s.handlers ∧
          (Watch.unbegun.looks s.handlers s.looks).trace =
            l.order.flatMap (Wait.failure s.handlers) ++ Watch.stopping (some s.signal))) := by
  have found : s.watch.found = some s.signal := (Option.some_get s.ends).symm
  have watch : s.watch = (Watch.unbegun.looks s.handlers s.looks).value := rfl
  cases looks : s.looks with
  | nil =>
    rw [watch, looks] at found
    cases found
  | cons l ls =>
    have run := Watch.looks_unbegun s.handlers l ls
    refine ⟨l, ls, rfl, ?_⟩
    rw [looks] at watch
    cases first : l.hears s.handlers l.first with
    | true =>
      rw [first, if_pos rfl] at run
      rw [watch, run] at found
      rw [watch, run]
      exact .inl ⟨rfl, (Option.some.inj found).symm, rfl, congrArg Watch.stopping found⟩
    | false =>
      rw [first, if_neg Bool.false_ne_true] at run
      rw [watch, run] at found
      rw [watch, run]
      refine .inr ⟨found, rfl, ?_⟩
      rw [← found]
      rfl

/-- The signal that stops a server has arrived at its handler by the time of some look. -/
theorem exists_hears_signal (s : Session) : ∃ l ∈ s.looks, l.hears s.handlers s.signal = true := by
  obtain ⟨l, ls, looks, ⟨heard, same, -⟩ | ⟨found, -⟩⟩ := s.cases_looks
  · rw [looks, same]
    exact ⟨l, List.mem_cons_self, heard⟩
  · obtain ⟨l', member, heard⟩ := List.exists_of_findSome?_eq_some found
    rw [looks]
    exact ⟨l', member, List.find?_some heard⟩

theorem handlers_signal (s : Session) : s.handlers s.signal = none := by
  obtain ⟨l, -, heard⟩ := s.exists_hears_signal
  exact Option.isNone_iff_eq_none.1 (Bool.and_eq_true_iff.1 heard).2

/-- The signal that stops a server has a handler, so at most the handler of the other one is missing. -/
theorem failures_eq (s : Session) :
    s.failures = if s.watch.wait s.signal.other = .unbegun then []
      else (s.handlers s.signal.other).toList.map fun fault => (s.signal.other, fault) := by
  refine Signal.flatMap_both ?_ .interrupt
  rw [s.handlers_signal]
  exact ite_self _

/-- The looks of a session log each handler that could not be installed, and then the signal that stops
    the server. -/
theorem trace_looks (s : Session) :
    (Watch.unbegun.looks s.handlers s.looks).trace =
      s.failures.map (fun f => .logged (.handlerUnavailable f.1 f.2)) ++
        [.logged (.shutdownRequested s.signal)] := by
  rw [s.failures_eq]
  obtain ⟨l, ls, -, ⟨-, same, wait, trace⟩ | ⟨-, wait, trace⟩⟩ := s.cases_looks
  · have untried : s.watch.wait s.signal.other = .unbegun := by
      rw [wait, same]
      cases l.first <;> rfl
    rw [trace, if_pos untried]
    rfl
  · have quiet : Wait.failure s.handlers s.signal = [] :=
      Wait.failure_of_isNone (Option.isNone_iff_eq_none.2 s.handlers_signal)
    have tried : ¬s.watch.wait s.signal.other = .unbegun := by
      rw [wait]
      exact Wait.begun_ne_unbegun _ _
    rw [trace, if_neg tried, List.map_map, Look.order, Signal.flatMap_both quiet]
    rfl

/-- A handler is left untried only if the first look finds the other signal at once. -/
theorem eq_other_of_unbegun {s : Session} {t : Signal} (h : s.watch.wait t = .unbegun) :
    t = s.signal.other ∧
      ∃ l ls, s.looks = l :: ls ∧ l.first = s.signal ∧ l.arrived s.signal = true := by
  obtain ⟨l, ls, looks, ⟨heard, same, wait, -⟩ | ⟨-, wait, -⟩⟩ := s.cases_looks
  · rw [wait] at h
    rw [same]
    refine ⟨Signal.eq_other_of_ne ?_, l, ls, looks, rfl, (Bool.and_eq_true_iff.1 heard).1⟩
    rintro rfl
    exact Wait.begun_ne_unbegun s.handlers l.first ((if_pos rfl).symm.trans h)
  · rw [wait] at h
    exact absurd h (Wait.begun_ne_unbegun s.handlers t)

end Session

namespace Server

variable {b : Version} {x : Exporter} {body : Text}

/-- The response to a request, without what is logged for it. -/
def response (b : Version) (x : Exporter) (r : Request) : Response := (respond b x r).value

theorem silent_metricsPage (encoded : Except Error Text) :
    Effect.Silent (metricsPage encoded).trace := by
  cases encoded with
  | ok body => exact Effect.silent_nil
  | error cause => exact Effect.silent_nil.logged _

theorem silent_page {path : Text} {page : Act Response} (h : page? b x path = some page) :
    Effect.Silent page.trace := by
  unfold page? at h
  split at h
  · cases h
    exact silent_metricsPage x.encode
  · split at h
    · cases h
      exact Effect.silent_nil
    · cases h

theorem silent_respond (b : Version) (x : Exporter) (r : Request) :
    Effect.Silent (respond b x r).trace := by
  unfold respond
  split
  · exact Effect.silent_nil
  · rename_i page known
    split
    · exact silent_page known
    · split
      · exact (silent_page known).append Effect.silent_nil
      · exact Effect.silent_nil

theorem page?_metrics (b : Version) (x : Exporter) :
    page? b x "/metrics" = some (metricsPage x.encode) := if_pos rfl

theorem page?_version (b : Version) (x : Exporter) :
    page? b x "/version" = some (pure (versionPage b)) :=
  (if_neg (by decide)).trans (if_pos rfl)

theorem response_get {r : Request} {page : Act Response} (h : page? b x r.path = some page)
    (method : r.method = getMethod) : response b x r = page.value := by
  rw [response, respond, h]
  simp only [if_pos method]

/-- Whoever gets the metrics of an exporter that can be encoded gets all of them. -/
theorem response_get_metrics (encoded : x.encode = .ok body) {r : Request}
    (path : r.path = ("/metrics" : Text)) (method : r.method = getMethod) :
    response b x r = .ok Exposition.contentType body := by
  rw [response_get (path ▸ page?_metrics b x) method, encoded]
  rfl

theorem response_get_version (b : Version) (x : Exporter) {r : Request}
    (path : r.path = ("/version" : Text)) (method : r.method = getMethod) :
    response b x r = versionPage b := by
  rw [response_get (path ▸ page?_version b x) method]
  rfl

/-- A page of an exporter that can be encoded is served at once, with success. -/
theorem page_of_encode (encoded : x.encode = .ok body) {path : Text} {page : Act Response}
    (h : page? b x path = some page) : ∃ r : Response, page = pure r ∧ r.status = 200 := by
  unfold page? at h
  rw [encoded] at h
  split at h
  · cases h
    exact ⟨_, rfl, rfl⟩
  · split at h
    · cases h
      exact ⟨_, rfl, rfl⟩
    · cases h

/-- Nothing is logged for a request if the exporter can be encoded. -/
theorem trace_respond (encoded : x.encode = .ok body) (r : Request) :
    (respond b x r).trace = [] := by
  unfold respond
  split
  · rfl
  · rename_i page known
    obtain ⟨served, rfl, -⟩ := page_of_encode encoded known
    split
    · rfl
    · split <;> rfl

/-- The responses of a server are those to each of its requests, whatever it looks for between them. -/
theorem responses_steps (b : Version) (x : Exporter) (handlers : Handlers) (w : Watch)
    (hs : List Happening) :
    Effect.responses (steps b x handlers w hs).trace =
      (hs.filterMap Happening.request?).map (response b x) := by
  induction hs generalizing w with
  | nil => rfl
  | cons h hs ih =>
    rw [steps, Traced.trace_bind, Effect.responses_append, ih]
    cases h with
    | request r =>
      have first : (step b x handlers w (.request r)).trace =
          (respond b x r).trace ++ [.answered (response b x r)] := rfl
      rw [first, (silent_respond b x r).responses_append]
      rfl
    | look l =>
      have first : (step b x handlers w (.look l)).trace = (w.look handlers l).trace := rfl
      rw [first, (Watch.silent_look handlers w l).responses_eq]
      rfl

/-- A server that comes to listen takes the steps of its session and then stops. -/
theorem run_serve {network : Network} {address : SocketAddress} {session : Session}
    (h : network address = .ok session) (b : Version) (x : Exporter) :
    (serve b network address x).run =
      ⟨.logged (.serverStarting address) ::
          (steps b x session.handlers .unbegun session.happenings).trace ++ [.logged .serverStopped],
        .ok ()⟩ := by
  unfold serve
  rw [Run.run_bind_of_ok (Run.run_liftM _), h]
  simp only
  rw [Run.run_bind_of_ok (Run.run_liftM _)]
  rfl

theorem run_serve_of_error {network : Network} {address : SocketAddress} {cause : IoError}
    (h : network address = .error cause) (b : Version) (x : Exporter) :
    (serve b network address x).run =
      ⟨[.logged (.serverStarting address)], .error (.io cause)⟩ := by
  unfold serve
  rw [Run.run_bind_of_ok (Run.run_liftM _), h]
  rfl

theorem responses_serve {network : Network} {address : SocketAddress} {session : Session}
    (h : network address = .ok session) (b : Version) (x : Exporter) :
    Effect.responses (serve b network address x).run.trace =
      session.requests.map (response b x) := by
  have started := Effect.silent_nil.logged (.serverStarting address)
  have stopped := Effect.silent_nil.logged .serverStopped
  rw [run_serve h]
  dsimp only
  rw [List.cons_append, ← List.singleton_append, started.responses_append, Effect.responses_append,
    responses_steps, stopped.responses_eq, List.append_nil]
  rfl

/-- Whatever a server answers, it answers from its exporter. -/
theorem eq_response_of_mem_serve {network : Network} {address : SocketAddress} {x : Exporter}
    {r : Response} (h : r ∈ Effect.responses (serve b network address x).run.trace) :
    ∃ q, r = response b x q := by
  cases served : network address with
  | error cause =>
    rw [run_serve_of_error served] at h
    cases h
  | ok session =>
    rw [responses_serve served] at h
    obtain ⟨q, -, same⟩ := List.mem_map.1 h
    exact ⟨q, same.symm⟩

end Server

end CpuIdentity
