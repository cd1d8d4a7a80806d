import CpuIdentity.Proofs.Exporter.Steps
import CpuIdentity.Proofs.Net.Request
import CpuIdentity.Proofs.Net.Server

/-!
# Sessions

A session is what happens between the start and the end of a server. Every request has the response
that its path and its method call for, whatever other requests there are, and the log tells the same of
every session: the start, the handler that could not be installed, the signal, the end.
-/

namespace CpuIdentity

open Effect (Tells tells_nil)

namespace Server

variable {b : Version} {x : Exporter} {body : Text} {r : Request} {page : Act Response}

/-- The paths of the pages. -/
def HasPage (path : Text) : Prop := path = ("/metrics" : Text) ∨ path = ("/version" : Text)

/-- A request asks for the path of a page. -/
def TargetsPage (r : Request) : Prop := ∃ path, HasPage path ∧ r.AsksFor path

theorem targetsPage_iff : TargetsPage r ↔ HasPage r.path := by
  constructor
  · rintro ⟨path, page, asks⟩
    rw [asks.path_eq]
    exact page
  · intro page
    have below : r.path.head? = some '/' ∧ r.path ≠ ("/" : Text) := by
      rcases page with page | page <;> rw [page] <;> decide
    exact ⟨r.path, page, (Request.asksFor_iff below.1 below.2).2 rfl⟩

/-- The methods that ask for a page, with its body or without. -/
def AsksForPage (method : Text) : Prop := method = ("GET" : Text) ∨ method = ("HEAD" : Text)

/-- What the response to a request has to be, by the target and the method of the request. -/
structure Answers (r : Request) (a : Response) : Prop where
  served : a.status = 200 ↔ TargetsPage r ∧ AsksForPage r.method
  refused : a.status = 405 ∧ a.allow.map (List.splitOn ',') = some (["GET", "HEAD"] : List Text) ↔
    TargetsPage r ∧ ¬AsksForPage r.method
  missing : a.status = 404 ↔ ¬TargetsPage r

theorem page?_eq_none_iff (b : Version) (x : Exporter) (path : Text) :
    page? b x path = none ↔ ¬HasPage path := by
  constructor
  · rintro none (rfl | rfl)
    · rw [page?_metrics] at none
      cases none
    · rw [page?_version] at none
      cases none
  · intro h
    obtain ⟨metrics, version⟩ := not_or.1 h
    rw [page?, if_neg metrics, if_neg version]

theorem exists_page (b : Version) (x : Exporter) {path : Text} (h : HasPage path) :
    ∃ page, page? b x path = some page := by
  cases known : page? b x path with
  | none => exact absurd h ((page?_eq_none_iff b x path).1 known)
  | some page => exact ⟨page, rfl⟩

theorem response_of_no_page (b : Version) (x : Exporter) (h : ¬HasPage r.path) :
    response b x r = .notFound := by
  rw [response, respond, (page?_eq_none_iff b x r.path).2 h]
  rfl

theorem response_head (h : page? b x r.path = some page) (method : r.method = headMethod) :
    response b x r = page.value.withoutBody := by
  have other : ¬headMethod = getMethod := by decide
  rw [response, respond, h]
  simp only [method, if_neg other]
  rfl

theorem response_of_other_method (h : page? b x r.path = some page) (method : ¬AsksForPage r.method) :
    response b x r = .methodNotAllowed allowed := by
  obtain ⟨get, head⟩ := not_or.1 method
  have notGet : ¬r.method = getMethod := get
  have notHead : ¬r.method = headMethod := head
  rw [response, respond, h]
  simp only [if_neg notGet, if_neg notHead]
  rfl

/-- Asking without the body gets the same response, but for the body. -/
theorem response_head_eq_get (b : Version) (x : Exporter) (target : Text) :
    response b x ⟨"HEAD", target⟩ = (response b x ⟨"GET", target⟩).withoutBody := by
  cases known : page? b x (Request.path ⟨"GET", target⟩) with
  | none =>
    have missing := (page?_eq_none_iff b x _).1 known
    rw [response_of_no_page b x missing]
    exact response_of_no_page b x missing
  | some page =>
    rw [response_get known rfl]
    exact response_head known rfl

/-- A page of an exporter that can be encoded answers whoever asks for it with success. -/
theorem status_of_page (encoded : x.encode = .ok body) (known : page? b x r.path = some page)
    (method : AsksForPage r.method) : (response b x r).status = 200 := by
  obtain ⟨a, rfl, status⟩ := page_of_encode encoded known
  rcases method with get | head
  · rw [response_get known get]
    exact status
  · rw [response_head known head]
    exact status

/-- Each response is the one that its request calls for. -/
theorem answers_response (encoded : x.encode = .ok body) (r : Request) :
    Answers r (response b x r) := by
  by_cases path : HasPage r.path
  · obtain ⟨page, known⟩ := exists_page b x path
    by_cases method : AsksForPage r.method
    · have status := status_of_page encoded known method
      constructor <;> simp [status, targetsPage_iff, path, method]
    · rw [response_of_other_method known method]
      have names : allowed.splitOn ',' = (["GET", "HEAD"] : List Text) := by decide
      constructor <;> simp [Response.methodNotAllowed, names, targetsPage_iff, path, method]
  · rw [response_of_no_page b x path]
    constructor <;> simp [Response.notFound, targetsPage_iff, path]

/-- No request makes a server fail whose exporter can be encoded. -/
theorem status_response (encoded : x.encode = .ok body) (r : Request) :
    (response b x r).status ∈ [200, 404, 405] := by
  have answers := answers_response (b := b) encoded r
  by_cases page : TargetsPage r
  · by_cases method : AsksForPage r.method
    · rw [answers.served.2 ⟨page, method⟩]
      exact .head _
    · rw [(answers.refused.2 ⟨page, method⟩).1]
      exact .tail _ (.tail _ (.head _))
  · rw [answers.missing.2 page]
    exact .tail _ (.head _)

/-- The name of a signal in the log. -/
def nameOf : Signal → Text
  | .interrupt => "Ctrl+C"
  | .terminate => "SIGTERM"

/-- What a server logs from its start to its end: each handler that could not be installed with its
    fault, and then the signal that stops it. -/
def account (network : Network) (address : SocketAddress) : List (Level × Text) :=
  (.warn, "Starting HTTP server on " ++ address.text) ::
    match network address with
    | .error _ => []
    | .ok session =>
      session.failures.map (fun f =>
        (.error, "Failed to install " ++ nameOf f.1 ++ " handler: " ++ f.2.message)) ++
      [(.warn, "Shutdown triggered by " ++ nameOf session.signal), (.info, "Server shutdown complete")]

theorem label_eq_nameOf (s : Signal) : s.label = nameOf s := by cases s <;> rfl

theorem failures_tell (fs : List (Signal × IoError)) :
    Tells (fs.map fun f => .logged (.handlerUnavailable f.1 f.2))
      (fs.map fun f => (.error, "Failed to install " ++ nameOf f.1 ++ " handler: " ++ f.2.message))
      [] := by
  induction fs with
  | nil => exact tells_nil
  | cons f fs ih =>
    rw [List.map_cons, List.map_cons, ← label_eq_nameOf]
    exact ih.logged _

/-- Of all that happens to a server only its looks are logged, if its exporter can be encoded. -/
theorem steps_tells (encoded : x.encode = .ok body) (handlers : Handlers) (w : Watch)
    (hs : List Happening) :
    let looked := (w.looks handlers (hs.filterMap Happening.look?)).trace
    Tells (steps b x handlers w hs).trace (Effect.entries looked) (Effect.queries looked) := by
  induction hs generalizing w with
  | nil => exact ⟨rfl, rfl⟩
  | cons h hs ih =>
    cases h with
    | request r =>
      have first : (step b x handlers w (.request r)).trace =
          (respond b x r).trace ++ [.answered (response b x r)] := rfl
      rw [steps, Traced.trace_bind, first, trace_respond encoded]
      exact (ih w).answered _
    | look l =>
      have looked : Tells (w.look handlers l).trace _ _ := ⟨rfl, rfl⟩
      have both := looked.append (ih (w.look handlers l).value)
      rw [← Effect.entries_append, ← Effect.queries_append] at both
      exact both

/-- What a server logs does not depend on its requests, and it asks the processor nothing. -/
theorem serve_tells (b : Version) (network : Network) (address : SocketAddress)
    (encoded : x.encode = .ok body) :
    Tells (serve b network address x).run.trace (account network address) [] := by
  unfold account
  cases served : network address with
  | error cause =>
    rw [run_serve_of_error served]
    exact tells_nil.logged _
  | ok session =>
    have looked : Tells (Watch.unbegun.looks session.handlers session.looks).trace
        (session.failures.map (fun f =>
          (.error, "Failed to install " ++ nameOf f.1 ++ " handler: " ++ f.2.message)) ++
          [(.warn, "Shutdown triggered by " ++ nameOf session.signal)]) [] := by
      rw [session.trace_looks, ← label_eq_nameOf]
      exact (failures_tell session.failures).append (tells_nil.logged _)
    have stepped : Tells (steps b x session.handlers .unbegun session.happenings).trace
        (Effect.entries (Watch.unbegun.looks session.handlers session.looks).trace)
        (Effect.queries (Watch.unbegun.looks session.handlers session.looks).trace) :=
      steps_tells encoded session.handlers .unbegun session.happenings
    have closed : Tells [.logged .serverStopped] [(.info, "Server shutdown complete")] [] :=
      tells_nil.logged _
    rw [looked.entries, looked.queries] at stepped
    have told := (stepped.append closed).logged (.serverStarting address)
    rw [List.append_assoc] at told
    rw [run_serve served]
    exact told

end Server

namespace Session

/-- How a session ends: by a signal that has arrived at its handler. The failures are those of the
    handlers that were tried, each once, and a handler is left untried only if the very first look
    finds the other signal at once. -/
structure EndsBySignal (s : Session) : Prop where
  installed : s.handlers s.signal = none
  arrived : ∃ l ∈ s.looks, l.arrived s.signal = true
  failed : ∀ t fault, (t, fault) ∈ s.failures ↔
    s.watch.wait t ≠ .unbegun ∧ s.handlers t = some fault
  once : (s.failures.map Prod.fst).Nodup
  untried : ∀ t, s.watch.wait t = .unbegun → t = s.signal.other ∧
    ∃ l ls, s.looks = l :: ls ∧ l.first = s.signal ∧ l.arrived s.signal = true

theorem mem_failures {s : Session} {t : Signal} {fault : IoError} :
    (t, fault) ∈ s.failures ↔ s.watch.wait t ≠ .unbegun ∧ s.handlers t = some fault := by
  constructor
  · intro h
    obtain ⟨t', -, h⟩ := List.mem_flatMap.1 h
    split at h
    case isTrue => cases h
    case isFalse tried =>
      obtain ⟨fault', known, same⟩ := List.mem_map.1 h
      cases same
      exact ⟨tried, Option.mem_toList.1 known⟩
  · rintro ⟨tried, failed⟩
    refine List.mem_flatMap.2 ⟨t, by cases t <;> decide, ?_⟩
    rw [if_neg tried, failed]
    exact List.mem_cons_self

theorem map_fst_failures (s : Session) :
    s.failures.map Prod.fst = [Signal.interrupt, .terminate].filter fun t =>
      s.watch.wait t ≠ .unbegun ∧ (s.handlers t).isSome := by
  unfold failures
  induction [Signal.interrupt, .terminate] with
  | nil => rfl
  | cons t ts ih =>
    rw [List.flatMap_cons, List.map_append, ih]
    by_cases tried : s.watch.wait t = .unbegun
    · simp [tried]
    · cases known : s.handlers t <;> simp [tried, known]

theorem endsBySignal (s : Session) : s.EndsBySignal := by
  obtain ⟨l, member, heard⟩ := s.exists_hears_signal
  refine ⟨s.handlers_signal, ⟨l, member, (Bool.and_eq_true_iff.1 heard).1⟩,
    fun t fault => mem_failures, ?_, fun t => eq_other_of_unbegun⟩
  rw [map_fst_failures]
  exact List.Pairwise.filter _ (by decide)

/-- For all handlers of which one can be installed there is a session with any requests that its signal
    ends, and in which both handlers are tried. -/
theorem exists_session {handlers : Handlers} {signal : Signal} (h : handlers signal = none)
    (requests : List Request) :
    ∃ s : Session, s.handlers = handlers ∧ s.requests = requests ∧ s.signal = signal ∧
      ∀ t, s.watch.wait t ≠ .unbegun := by
  -- Both waits begin at a first look that hears nothing; the signal arrives after the requests.
  let quiet : Look := ⟨signal, fun _ => false⟩
  let last : Look := ⟨signal, fun t => t = signal⟩
  let happenings : List Server.Happening :=
    .look quiet :: requests.map .request ++ [.look last]
  have looks : happenings.filterMap Server.Happening.look? = [quiet, last] := by
    simp [happenings, Server.Happening.look?, Function.comp_def]
  have asked : happenings.filterMap Server.Happening.request? = requests := by
    show (requests.map Server.Happening.request ++ [Server.Happening.look last]).filterMap
      Server.Happening.request? = requests
    rw [List.filterMap_append, List.filterMap_map]
    exact (List.append_nil _).trans List.filterMap_some
  have nothing : quiet.heard? handlers = none := rfl
  have heard : last.heard? handlers = some signal := by
    simp [Look.heard?, Look.order, Look.hears, last, h]
  have watch : (Watch.unbegun.looks handlers [quiet, last]).value =
      Watch.watching handlers (some signal) := by
    have hears : ¬quiet.hears handlers quiet.first = true := Bool.false_ne_true
    rw [Watch.looks_unbegun, if_neg hears, List.findSome?_cons, nothing, List.findSome?_cons, heard]
  have found : (Watch.unbegun.looks handlers
      (happenings.filterMap Server.Happening.look?)).value.found = some signal := by
    rw [looks, watch]
    rfl
  let s : Session := ⟨handlers, happenings, by rw [found]; rfl⟩
  have begun : s.watch = Watch.watching handlers (some signal) := by
    show (Watch.unbegun.looks handlers (happenings.filterMap Server.Happening.look?)).value = _
    rw [looks, watch]
  refine ⟨s, rfl, asked, Option.some.inj ((Option.some_get s.ends).trans found), fun t => ?_⟩
  rw [begun]
  exact Wait.begun_ne_unbegun handlers t

end Session

namespace Server

/-- A server that comes to listen ends without an error, whatever was done with its exporter before.
    Each response is that of its request alone and the one that the request calls for; a response
    without a body has the status and the type of the one with it. The log is the start, each handler
    that could not be installed with its fault, the one signal that stops the server, which has
    arrived at its handler, and the end. It is the same for all requests that come between the looks.
    With a handler for a signal, that signal ends some session with any requests. -/
theorem serve_session {c : Config} (created : (Exporter.create b c).run.value = .ok x)
    (ss : List Exporter.Step) {network : Network} {address : SocketAddress} {session : Session}
    (served : network address = .ok session) :
    (serve b network address (x.steps ss)).run.value = .ok () ∧
    Effect.responses (serve b network address (x.steps ss)).run.trace =
      session.requests.map (response b (x.steps ss)) ∧
    (∀ r, Answers r (response b (x.steps ss) r)) ∧
    (∀ target, let get := response b (x.steps ss) ⟨"GET", target⟩
      let head := response b (x.steps ss) ⟨"HEAD", target⟩
      head.status = get.status ∧ head.contentType = get.contentType ∧ head.body = []) ∧
    Effect.entries (serve b network address (x.steps ss)).run.trace =
      [(.warn, "Starting HTTP server on " ++ address.text)] ++
      session.failures.map (fun f =>
        (.error, "Failed to install " ++ nameOf f.1 ++ " handler: " ++ f.2.message)) ++
      [(.warn, "Shutdown triggered by " ++ nameOf session.signal),
        (.info, "Server shutdown complete")] ∧
    session.EndsBySignal ∧
    (∀ (network' : Network) (session' : Session) (ss' : List Exporter.Step),
      network' address = .ok session' → session'.handlers = session.handlers →
        session'.looks = session.looks →
        Effect.entries (serve b network' address (x.steps ss')).run.trace =
          Effect.entries (serve b network address (x.steps ss)).run.trace) ∧
    ∀ (handlers : Handlers) (signal : Signal) (requests : List Request), handlers signal = none →
      ∃ session' : Session, session'.handlers = handlers ∧ session'.requests = requests ∧
        session'.signal = signal ∧ ∀ t, session'.watch.wait t ≠ .unbegun := by
  have logged (network : Network) (ss : List Exporter.Step) :
      Effect.entries (serve b network address (x.steps ss)).run.trace = account network address := by
    obtain ⟨body, encoded⟩ := Exporter.encode_steps created ss
    exact (serve_tells b network address encoded).entries
  obtain ⟨body, encoded⟩ := Exporter.encode_steps created ss
  have ended : (serve b network address (x.steps ss)).run.value = .ok () := by rw [run_serve served]
  refine ⟨ended, responses_serve served b _, answers_response encoded, ?_, ?_, session.endsBySignal,
    ?_, fun handlers signal requests h => Session.exists_session h requests⟩
  · intro target
    rw [response_head_eq_get]
    exact ⟨rfl, rfl, rfl⟩
  · rw [logged, account, served]
    rfl
  · intro network' session' ss' served' handlers looks
    have watch : session'.watch = session.watch := by
      rw [Session.watch, Session.watch, handlers, looks]
    have signal : session'.signal = session.signal := by
      unfold Session.signal
      simp only [watch]
    have failures : session'.failures = session.failures := by
      rw [Session.failures, Session.failures, watch, handlers]
    rw [logged, logged]
    simp only [account, served, served', signal, failures]

/-- A page with a query, a page without its body asked for by its whole address, a method that no page
    allows, and a path that is no page's though it begins like one, at a server that only the interrupt
    can stop: the other signal has arrived before and is not heard. -/
theorem serve_session_mixed :
    let b : Version := .ofBuild "1.0" "main" "c0de"
    let x := Exporter.showing ⟨"node", none⟩ b none
    let ss : List Exporter.Step := [.recordBuild "2.0" "main" "a1b2", .encode]
    let handlers : Handlers := fun
      | .interrupt => none
      | .terminate => some (.os ⟨24, "EMFILE", "Too many open files", "Uncategorized"⟩)
    let session : Session :=
      ⟨handlers, [.request ⟨"GET", "/metrics?q=/version"⟩, .look ⟨.terminate, fun _ => false⟩,
        .request ⟨"HEAD", "http://node:9100/version#top"⟩,
        .look ⟨.interrupt, fun s => s = .terminate⟩, .request ⟨"get", "/metrics"⟩,
        .look ⟨.terminate, fun _ => true⟩, .request ⟨"GET", "/metrics/"⟩], rfl⟩
    let network : Network := fun _ => .ok session
    let address : SocketAddress := .v4 ⟨127, 0, 0, 1⟩ 9100
    (Exporter.create b ⟨"node", none⟩).run.value = .ok x ∧ network address = .ok session ∧
      (Effect.responses (serve b network address (x.steps ss)).run.trace).map Response.status =
        [200, 200, 405, 404] ∧
      Effect.entries (serve b network address (x.steps ss)).run.trace =
        ([(.warn, "Starting HTTP server on 127.0.0.1:9100"),
          (.error, "Failed to install SIGTERM handler: Too many open files (os error 24)"),
          (.warn, "Shutdown triggered by Ctrl+C"), (.info, "Server shutdown complete")] :
            List (Level × Text)) := by
  intro b x ss handlers session network address
  have created : (Exporter.create b ⟨"node", none⟩).run.value = .ok x :=
    Exporter.value_create_eq_ok_iff.2 ⟨by decide, rfl⟩
  have served : network address = .ok session := rfl
  obtain ⟨-, responses, answers, -, log, -⟩ := serve_session created ss served
  refine ⟨created, served, ?_, log.trans (by decide +kernel)⟩
  have page := (answers ⟨"GET", "/metrics?q=/version"⟩).served.2
    ⟨targetsPage_iff.2 (.inl rfl), .inl rfl⟩
  have head := (answers ⟨"HEAD", "http://node:9100/version#top"⟩).served.2
    ⟨targetsPage_iff.2 (.inr rfl), .inr rfl⟩
  have other := ((answers ⟨"get", "/metrics"⟩).refused.2
    ⟨targetsPage_iff.2 (.inl rfl), not_or.2 ⟨by decide, by decide⟩⟩).1
  have missing := (answers ⟨"GET", "/metrics/"⟩).missing.2
    (targetsPage_iff.not.2 (not_or.2 ⟨by decide, by decide⟩))
  have requests : session.requests = [⟨"GET", "/metrics?q=/version"⟩,
    ⟨"HEAD", "http://node:9100/version#top"⟩, ⟨"get", "/metrics"⟩, ⟨"GET", "/metrics/"⟩] := rfl
  rw [responses, requests]
  simp only [List.map_cons, List.map_nil, page, head, other, missing]

end Server

end CpuIdentity
