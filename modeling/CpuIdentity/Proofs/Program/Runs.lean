import CpuIdentity.Program
import CpuIdentity.Proofs.Cpu.Identification
import CpuIdentity.Proofs.Exporter.Grammar
import CpuIdentity.Proofs.Exporter.State
import CpuIdentity.Proofs.Net.Server

/-!
# What a run does

A run from its start to its end, in each of the cases it can come to: a model to classify, a listing, a
scope that is none, metrics, a server, and the summary. The last three ask the machine the same
questions first and work with the same exporter.
-/

namespace CpuIdentity

/-- The host that a machine is, if it can be identified. -/
def Machine.host (m : Machine) : Option Host := (Host.detect m).run.value.toOption

/-- What is found of the host is the host of the machine, if it has one. -/
theorem Host.value_detect? (m : Machine) : (Host.detect? m).value = m.host := by
  unfold Host.detect? Machine.host
  rw [Traced.value_bind]
  cases (Host.detect m).run.value with
  | ok h => rfl
  | error cause => rfl

/-- The host is found when it is first asked for. -/
theorem Host.run_current_none (m : Machine) :
    ((Host.current m).run none).run =
      ⟨(Host.detect? m).trace, .ok (m.host, some m.host)⟩ := by
  have asked : ((get : HostRun (Option (Option Host))).run none).run = ⟨[], .ok (none, none)⟩ := rfl
  have found : ((liftM (Host.detect? m) : HostRun (Option Host)).run none).run =
      ⟨(Host.detect? m).trace, .ok ((Host.detect? m).value, none)⟩ :=
    HostRun.run_liftM_of_ok (Run.run_liftM (Host.detect? m)) none
  rw [Host.value_detect?] at found
  unfold Host.current
  rw [HostRun.run_bind_of_ok asked]
  simp only [List.nil_append]
  rw [HostRun.run_bind_of_ok found]
  exact Traced.ext (List.append_nil _) rfl

/-- The host that was found is the same from then on, and nothing is asked of the machine again. -/
theorem Host.run_current_some (m : Machine) (h : Option Host) :
    ((Host.current m).run (some h)).run = ⟨[], .ok (h, some h)⟩ := rfl

/-- A host has a name if the system told bytes that make a text up to the first zero byte. -/
theorem Machine.value_hostname (m : Machine) (name : Text) :
    m.hostname.value = some name ↔
      ∃ bytes, m.nodeName = .ok bytes ∧ name ≠ [] ∧ Utf8.encode name = bytes.takeWhile (· ≠ 0) := by
  unfold Machine.hostname
  rw [Traced.value_bind]
  cases m.nodeName with
  | error fault =>
    refine iff_of_false (by rintro ⟨⟩) ?_
    rintro ⟨bytes, known, -⟩
    cases known
  | ok bytes =>
    simp only [Traced.value_pure, Option.filter_eq_some_iff, Utf8.decode?_eq_some_iff]
    constructor
    · rintro ⟨same, present⟩
      refine ⟨bytes, rfl, ?_, same⟩
      rintro rfl
      cases present
    · rintro ⟨bytes', known, present, same⟩
      cases known
      refine ⟨same, ?_⟩
      cases name with
      | nil => exact absurd rfl present
      | cons c cs => rfl

namespace Config

/-- What the search for a configuration does, whatever comes of it. -/
def searching (m : Machine) : List Effect :=
  m.hostname.trace ++ [.logged (.exportingFor m.hostname.value)]

/-- Finding the settings leaves the trace of searching for a name, and then checks the scope. -/
theorem run_detect (m : Machine) (scope : Text) :
    (detect m scope).run = ⟨searching m, create scope m.hostname.value⟩ := by
  have named : (liftM m.hostname : Run (Option Text)).run =
      ⟨m.hostname.trace, .ok m.hostname.value⟩ := Run.run_liftM _
  unfold detect
  rw [Run.run_bind_of_ok named]
  cases create scope m.hostname.value with
  | ok c => rfl
  | error cause => rfl

theorem create_of_isScope {scope : Text} (h : isScope scope = true) (hostname : Option Text) :
    create scope hostname = .ok ⟨scope, hostname⟩ := if_pos h

theorem create_of_not_isScope {scope : Text} (h : isScope scope = false) (hostname : Option Text) :
    create scope hostname =
      .error (.configuration ("Invalid metric namespace: " ++ Text.quote scope)) :=
  if_neg (by simp [h])

end Config

namespace Program

open Exporter

variable {b : Version} {m : Machine} {network : Network} {a : Arguments}

/-- The exporter that a run works with. -/
def prepared (b : Version) (m : Machine) (scope : Text) : Exporter :=
  showing ⟨scope, m.hostname.value⟩ b m.host

/-- What a run does until it has its exporter. -/
def preparing (m : Machine) (scope : Text) : List Effect :=
  Config.searching m ++ .logged (.exporterRegistered scope) :: (Host.detect? m).trace

/-- A scope that is one gives an exporter that has observed the host, which is remembered. -/
theorem run_prepare {scope : Text} (h : Config.isScope scope = true) :
    ((prepare b m scope).run none).run =
      ⟨preparing m scope, .ok (prepared b m scope, some m.host)⟩ := by
  have fits : fitsNames scope = true := Grammar.fitsNames_of_isScope h
  have config := Config.run_detect m scope
  rw [Config.create_of_isScope h] at config
  have exporter := run_create_of_fitsNames (c := ⟨scope, m.hostname.value⟩) fits b
  have host := Host.run_current_none m
  -- Configuration, exporter and host: each leaves its trace and hands on its result.
  unfold prepare
  rw [HostRun.run_bind_of_ok (HostRun.run_liftM_of_ok config none),
    HostRun.run_bind_of_ok (HostRun.run_liftM_of_ok exporter none), HostRun.run_bind_of_ok host]
  unfold prepared preparing
  cases m.host with
  | none => exact Traced.ext (by simp) rfl
  | some h => exact Traced.ext (by simp) rfl

/-- A scope that is none ends the preparations before the host is looked at. -/
theorem run_prepare_of_not_isScope {scope : Text} (h : Config.isScope scope = false) :
    ((prepare b m scope).run none).run =
      ⟨Config.searching m,
        .error (.configuration ("Invalid metric namespace: " ++ Text.quote scope))⟩ := by
  have config := Config.run_detect m scope
  rw [Config.create_of_not_isScope h] at config
  exact HostRun.run_bind_of_error (HostRun.run_liftM_of_error config none) _

/-- All that the exporter of a run publishes. -/
def published (b : Version) (m : Machine) (scope : Text) : Text :=
  (shownFamilies ⟨scope, m.hostname.value⟩ b m.host).flatMap Exposition.Family.text

/-- A prepared exporter is encoded as what the machine publishes. -/
theorem encode_prepared (b : Version) (m : Machine) (scope : Text) :
    (prepared b m scope).encode = .ok (published b m scope) :=
  encode_showing _ _ _

/-- A summary is written without looking at the host again. -/
theorem run_summarise (b : Version) (m : Machine) (h : Option Host) :
    ((summarise b m).run (some h)).run =
      ⟨[.written (Text.line b.full), .written (Text.line (hostLine h))],
        .ok ((), some h)⟩ := by
  have first : ((liftM (write (Text.line b.full)) : HostRun Unit).run (some h)).run =
      ⟨[.written (Text.line b.full)], .ok ((), some h)⟩ := rfl
  unfold summarise
  rw [HostRun.run_bind_of_ok first, HostRun.run_bind_of_ok (Host.run_current_some m h)]
  rfl

/-- A run for the metrics writes what the machine publishes. -/
theorem run_publish_metrics (h : Config.isScope a.scope = true) (metrics : a.metrics = true) :
    ((publish b m a).run none).run =
      ⟨preparing m a.scope ++ [.written (published b m a.scope)], .ok (none, some m.host)⟩ := by
  unfold publish
  rw [HostRun.run_bind_of_ok (run_prepare h), if_pos metrics, encode_prepared]
  rfl

theorem run_publish_listen {address : SocketAddress} (h : Config.isScope a.scope = true)
    (metrics : a.metrics = false) (listen : a.listen = some address) :
    ((publish b m a).run none).run =
      ⟨preparing m a.scope, .ok (some (address, prepared b m a.scope), some m.host)⟩ := by
  unfold publish
  rw [HostRun.run_bind_of_ok (run_prepare h), if_neg (by simp [metrics]), listen]
  exact Traced.ext (List.append_nil _) rfl

/-- A run without any request writes the build and the host. -/
theorem run_publish_summary (h : Config.isScope a.scope = true) (metrics : a.metrics = false)
    (listen : a.listen = none) :
    ((publish b m a).run none).run =
      ⟨preparing m a.scope ++
          [.written (Text.line b.full), .written (Text.line (hostLine m.host))],
        .ok (none, some m.host)⟩ := by
  unfold publish
  rw [HostRun.run_bind_of_ok (run_prepare h), if_neg (by simp [metrics]), listen]
  simp only
  rw [HostRun.run_bind_of_ok (run_summarise b m m.host)]
  rfl

/-- Nothing is published under a scope that is none. -/
theorem run_publish_of_not_isScope (h : Config.isScope a.scope = false) :
    ((publish b m a).run none).run =
      ⟨Config.searching m,
        .error (.configuration ("Invalid metric namespace: " ++ Text.quote a.scope))⟩ :=
  HostRun.run_bind_of_error (run_prepare_of_not_isScope h) _

theorem silent_searching (m : Machine) : Effect.Silent (Config.searching m) := by
  unfold Config.searching Machine.hostname
  rw [Traced.trace_bind]
  refine Effect.Silent.append (Effect.Silent.hostname ?_) (Effect.silent_nil.logged _)
  cases m.nodeName with
  | ok name => exact Effect.silent_nil
  | error fault => exact Effect.silent_nil.logged _

theorem silent_preparing (m : Machine) (scope : Text) : Effect.Silent (preparing m scope) :=
  (silent_searching m).append ((Host.silent_detect? m).logged _)

/-! ## Whole runs -/

/-- What every run logs first. -/
def opening (b : Version) : List Effect := [.logged (.started b), .logged .catalogueInUse]

theorem silent_opening (b : Version) : Effect.Silent (opening b) :=
  (Effect.silent_nil.logged _).logged _

/-- A run that needs the host opens and then publishes. -/
theorem run_start {trace : List Effect}
    {r : Except Error (Option (SocketAddress × Exporter) × Option (Option Host))}
    (model : a.model = none) (list : a.list = false)
    (h : ((publish b m a).run none).run = ⟨trace, r⟩) :
    (start b m a).run = ⟨opening b ++ trace, r.map Prod.fst⟩ := by
  unfold start
  rw [Run.run_bind_of_ok (Run.run_liftM _), Run.run_bind_of_ok (Run.run_liftM _), model]
  simp only [list]
  rw [if_neg Bool.false_ne_true, HostRun.run_run' h]
  rfl

theorem run_of_start {x : Run Unit}
    (h : (start b m a).run = ⟨opening b ++ x.run.trace, x.run.value.map fun _ => none⟩) :
    (run b m network a).run = ⟨opening b ++ x.run.trace, x.run.value⟩ := by
  unfold run
  cases hx : x.run.value with
  | ok u =>
    rw [hx] at h
    rw [Run.run_bind_of_ok h]
    exact Traced.ext (List.append_nil _) rfl
  | error e =>
    rw [hx] at h
    rw [Run.run_bind_of_error h]

/-- A run with a model classifies it, whatever else is asked for. -/
theorem run_classify {t : Text} (model : a.model = some t) :
    (run b m network a).run = ⟨opening b ++ (classify t).run.trace, (classify t).run.value⟩ := by
  apply run_of_start
  unfold start
  rw [Run.run_bind_of_ok (Run.run_liftM _), Run.run_bind_of_ok (Run.run_liftM _), model]
  simp only [Run.run_bind_pure]
  rfl

/-- A run without a model lists the catalogue if that is asked for, whatever else is. -/
theorem run_list (model : a.model = none) (listing : a.list = true) :
    (run b m network a).run = ⟨opening b ++ (list a.lineage).run.trace, (list a.lineage).run.value⟩ := by
  apply run_of_start
  unfold start
  rw [Run.run_bind_of_ok (Run.run_liftM _), Run.run_bind_of_ok (Run.run_liftM _), model]
  simp only [if_pos listing, Run.run_bind_pure]
  rfl

/-- A text that gives a number has the line for the number written. -/
theorem classify_of_ok {t : Text} {n : UInt8} (h : Model.readNumber t = .ok n) :
    (classify t).run = ⟨[.written (Text.line (classification n))], .ok ()⟩ := by
  unfold classify
  rw [h]
  rfl

/-- A text that gives no number has nothing written. -/
theorem classify_of_error {t : Text} {cause : NumberError} (h : Model.readNumber t = .error cause) :
    (classify t).run = ⟨[], .error (.ofNumberError cause)⟩ := by
  unfold classify
  rw [h]
  rfl

/-- A lineage text that names a lineage, or none, has the listing written. -/
theorem list_of_ok {lineage : Option Text} {l : Option Lineage} (h : restriction lineage = .ok l) :
    (list lineage).run = ⟨[.written (listing l)], .ok ()⟩ := by
  unfold list
  rw [h]
  rfl

/-- A lineage text that names no lineage has nothing written. -/
theorem list_of_error {lineage : Option Text} {e : Error} (h : restriction lineage = .error e) :
    (list lineage).run = ⟨[], .error e⟩ := by
  unfold list
  rw [h]
  rfl

theorem responses_classify (t : Text) : Effect.responses (classify t).run.trace = [] := by
  unfold classify
  cases (Model.readNumber t).mapError Error.ofNumberError with
  | ok n => rfl
  | error cause => rfl

theorem responses_list (lineage : Option Text) :
    Effect.responses (list lineage).run.trace = [] := by
  unfold list
  cases restriction lineage with
  | ok l => rfl
  | error cause => rfl

/-- What an argument record asks for when it asks for something to be published. -/
structure Publishes (a : Arguments) : Prop where
  model : a.model = none
  list : a.list = false
  scope : Config.isScope a.scope = true

/-- A run for metrics. -/
theorem run_metrics (p : Publishes a) (metrics : a.metrics = true) :
    (run b m network a).run =
      ⟨opening b ++ (preparing m a.scope ++ [.written (published b m a.scope)]), .ok ()⟩ := by
  have started := run_start (b := b) (m := m) p.model p.list (run_publish_metrics p.scope metrics)
  unfold run
  rw [Run.run_bind_of_ok started]
  exact Traced.ext (List.append_nil _) rfl

/-- A run for the summary. -/
theorem run_summary (p : Publishes a) (metrics : a.metrics = false) (listen : a.listen = none) :
    (run b m network a).run =
      ⟨opening b ++ (preparing m a.scope ++
          [.written (Text.line b.full), .written (Text.line (hostLine m.host))]),
        .ok ()⟩ := by
  have started := run_start (b := b) (m := m) p.model p.list (run_publish_summary p.scope metrics listen)
  unfold run
  rw [Run.run_bind_of_ok started]
  exact Traced.ext (List.append_nil _) rfl

/-- A run for a server is the server's, with the exporter that was prepared for it. -/
theorem run_listen {address : SocketAddress} (p : Publishes a) (metrics : a.metrics = false)
    (listen : a.listen = some address) :
    (run b m network a).run =
      ⟨opening b ++ preparing m a.scope ++
          (Server.serve b network address (prepared b m a.scope)).run.trace,
        (Server.serve b network address (prepared b m a.scope)).run.value⟩ := by
  have started := run_start (b := b) (m := m) p.model p.list (run_publish_listen p.scope metrics listen)
  unfold run
  rw [Run.run_bind_of_ok started]

/-- What a run does once it has its exporter. -/
def publishing (b : Version) (m : Machine) (network : Network) (a : Arguments) : Run Unit :=
  if a.metrics then write (published b m a.scope)
  else
    match a.listen with
    | some address => Server.serve b network address (prepared b m a.scope)
    | none => do
      write (Text.line b.full)
      write (Text.line (hostLine m.host))

/-- A run that publishes prepares its exporter, whatever it does with it. -/
theorem run_publishes (p : Publishes a) :
    (run b m network a).run =
      ⟨opening b ++ preparing m a.scope ++ (publishing b m network a).run.trace,
        (publishing b m network a).run.value⟩ := by
  unfold publishing
  cases metrics : a.metrics with
  | true =>
    rw [run_metrics p metrics, List.append_assoc]
    rfl
  | false =>
    cases listen : a.listen with
    | none =>
      rw [run_summary p metrics listen, List.append_assoc]
      rfl
    | some address => exact run_listen p metrics listen

/-- A run that should publish under a scope that is none. -/
theorem run_of_not_isScope (model : a.model = none) (list : a.list = false)
    (h : Config.isScope a.scope = false) :
    (run b m network a).run =
      ⟨opening b ++ Config.searching m,
        .error (.configuration ("Invalid metric namespace: " ++ Text.quote a.scope))⟩ := by
  have started := run_start (b := b) (m := m) model list (run_publish_of_not_isScope h)
  exact Run.run_bind_of_error started _

/-- The four things that a run can do: classify a model, list the catalogue, end for want of a scope, or
    publish. -/
theorem run_cases (b : Version) (m : Machine) (network : Network) (a : Arguments) :
    (∃ t, a.model = some t ∧ (run b m network a).run =
      ⟨opening b ++ (classify t).run.trace, (classify t).run.value⟩) ∨
    (a.model = none ∧ a.list = true ∧ (run b m network a).run =
      ⟨opening b ++ (list a.lineage).run.trace, (list a.lineage).run.value⟩) ∨
    (a.model = none ∧ a.list = false ∧ Config.isScope a.scope = false ∧ (run b m network a).run =
      ⟨opening b ++ Config.searching m,
        .error (.configuration ("Invalid metric namespace: " ++ Text.quote a.scope))⟩) ∨
    (Publishes a ∧ (run b m network a).run =
      ⟨opening b ++ preparing m a.scope ++ (publishing b m network a).run.trace,
        (publishing b m network a).run.value⟩) := by
  cases model : a.model with
  | some t => exact .inl ⟨t, rfl, run_classify model⟩
  | none =>
    cases list : a.list with
    | true => exact .inr (.inl ⟨rfl, rfl, run_list model list⟩)
    | false =>
      cases scope : Config.isScope a.scope with
      | false => exact .inr (.inr (.inl ⟨rfl, rfl, rfl, run_of_not_isScope model list scope⟩))
      | true => exact .inr (.inr (.inr ⟨⟨model, list, scope⟩, run_publishes ⟨model, list, scope⟩⟩))

/-! ## Reports -/

/-- A command line that can be read is run, and the run is reported. -/
theorem execute_of_parse {args : List Text} (parsed : Arguments.parse args = .ok a) :
    execute b m network args = report a.verbose (run b m network a).run := by
  unfold execute
  rw [parsed]

/-- A command line that cannot be read is rejected before anything is done. -/
theorem execute_of_rejection {args : List Text} {r : Rejection}
    (rejected : Arguments.parse args = .error r) : execute b m network args = reject r := by
  unfold execute
  rw [rejected]

/-- A verbose run logs all of its events. -/
theorem logged_true (events : List Event) : logged true events = events :=
  List.filter_eq_self.2 fun _ _ => rfl

/-- The report of a run that is not verbose is that of the verbose run, but for the events of the
    lowest level. -/
theorem report_false (r : Traced Effect (Except Error Unit)) :
    report false r =
      { report true r with log := (report true r).log.filter fun e => e.level ≠ .debug } := by
  have log : logged false (Effect.events r.trace) =
      (logged true (Effect.events r.trace)).filter fun e => e.level ≠ .debug := by
    rw [logged_true]
    exact List.filter_congr fun e _ => Bool.false_or _
  unfold report
  rw [log]

/-- A run that serves answers each request of its session in turn. -/
theorem responses_run_listen {address : SocketAddress} {session : Session} (p : Publishes a)
    (metrics : a.metrics = false) (listen : a.listen = some address)
    (served : network address = .ok session) :
    Effect.responses (run b m network a).run.trace =
      session.requests.map (Server.response b (prepared b m a.scope)) := by
  rw [run_listen p metrics listen]
  dsimp only
  rw [((silent_opening b).append (silent_preparing m a.scope)).responses_append,
    Server.responses_serve served]

/-- Every response of a run is what its exporter answers to some request. -/
theorem eq_response_of_mem_publishing {r : Response}
    (h : r ∈ Effect.responses (publishing b m network a).run.trace) :
    ∃ q, r = Server.response b (prepared b m a.scope) q := by
  unfold publishing at h
  split at h
  · cases h
  · split at h
    · exact Server.eq_response_of_mem_serve h
    · cases h

/-- Whatever a run answers, it answers from the exporter that it prepared. -/
theorem eq_response_of_mem_run {r : Response}
    (h : r ∈ Effect.responses (run b m network a).run.trace) :
    ∃ q, r = Server.response b (prepared b m a.scope) q := by
  -- Only a run that comes to serve answers anybody.
  rcases run_cases b m network a with ⟨t, -, same⟩ | ⟨-, -, same⟩ | ⟨-, -, -, same⟩ | ⟨p, same⟩
  · rw [same, (silent_opening b).responses_append, responses_classify] at h
    cases h
  · rw [same, (silent_opening b).responses_append, responses_list] at h
    cases h
  · rw [same, ((silent_opening b).append (silent_searching m)).responses_eq] at h
    cases h
  · rw [same, ((silent_opening b).append (silent_preparing m a.scope)).responses_append] at h
    exact eq_response_of_mem_publishing h

end Program

end CpuIdentity
