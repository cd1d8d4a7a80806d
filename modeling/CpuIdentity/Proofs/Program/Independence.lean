import CpuIdentity.Proofs.CommandLine.Verbose
import CpuIdentity.Proofs.Program.Runs

/-!
# What a run does not depend on

Classifying a model and listing the catalogue ask the machine for nothing and start no server. What such
a run does and comes to is settled by the one text that it was given, so it is the same on every machine
and whatever else its arguments hold.

The verbose switch says which events reach the log and has no part in the run itself. So it can be put
before any command line, and all that it changes is that events of the lowest level are logged too.
-/

namespace CpuIdentity

/-- A trace that asks the machine for nothing, starts no server and answers nobody. -/
structure Effect.Offline (t : List Effect) : Prop where
  queries : queries t = []
  hostname : .hostname ∉ t
  starting (address : SocketAddress) : .logged (.serverStarting address) ∉ t
  responses : responses t = []

namespace Program

variable {b : Version} {m m' : Machine} {network network' : Network} {a a' : Arguments}

/-- Two argument records that ask for one action which needs no machine: the classification of one
    text, or the listing under one lineage text. All else that they hold may differ. -/
inductive SameOffline (a a' : Arguments) : Prop where
  | classify {t : Text} (model : a.model = some t) (model' : a'.model = some t)
  | list (model : a.model = none) (model' : a'.model = none) (list : a.list = true)
      (list' : a'.list = true) (lineage : a.lineage = a'.lineage)

theorem run_of_sameOffline (b : Version) (m m' : Machine) (network network' : Network)
    (same : SameOffline a a') : (run b m network a).run = (run b m' network' a').run := by
  cases same with
  | classify model model' => rw [run_classify model, run_classify model']
  | list model model' list list' lineage =>
    rw [run_list model list, run_list model' list', lineage]

/-- What an offline run does: what every run logs first, and then nothing but writing. -/
def writing (b : Version) (ts : List Text) : List Effect := opening b ++ ts.map .written

theorem trace_of_sameOffline (b : Version) (m : Machine) (network : Network)
    (same : SameOffline a a') : ∃ ts, (run b m network a).run.trace = writing b ts := by
  cases same with
  | @classify t model =>
    rw [run_classify model]
    cases read : Model.readNumber t with
    | ok n =>
      rw [classify_of_ok read]
      exact ⟨[_], rfl⟩
    | error cause =>
      rw [classify_of_error read]
      exact ⟨[], rfl⟩
  | list model _ listing =>
    rw [run_list model listing]
    cases restricted : restriction a.lineage with
    | ok l =>
      rw [list_of_ok restricted]
      exact ⟨[_], rfl⟩
    | error cause =>
      rw [list_of_error restricted]
      exact ⟨[], rfl⟩

/-- Texts that are written are no questions, no events and no responses. -/
theorem filterMap_written {β : Type} {f : Effect → Option β} (h : ∀ t, f (.written t) = none)
    (ts : List Text) : (ts.map Effect.written).filterMap f = [] := by
  rw [List.filterMap_map]
  exact List.filterMap_eq_nil_iff.2 fun t _ => h t

theorem mem_writing {ts : List Text} {e : Effect} (h : e ∈ writing b ts) :
    e ∈ opening b ∨ ∃ t, e = .written t := by
  refine (List.mem_append.1 h).imp_right fun written => ?_
  obtain ⟨t, -, rfl⟩ := List.mem_map.1 written
  exact ⟨t, rfl⟩

theorem offline_writing (b : Version) (ts : List Text) : Effect.Offline (writing b ts) where
  queries := by
    rw [writing, Effect.queries_append]
    exact filterMap_written (fun _ => rfl) ts
  hostname := by
    intro asked
    rcases mem_writing asked with first | ⟨t, ⟨⟩⟩
    simp [opening] at first
  starting := by
    intro address started
    rcases mem_writing started with first | ⟨t, ⟨⟩⟩
    simp [opening] at first
  responses := by
    rw [writing, (silent_opening b).responses_append]
    exact filterMap_written (fun _ => rfl) ts

theorem events_writing (b : Version) (ts : List Text) :
    Effect.events (writing b ts) = [.started b, .catalogueInUse] := by
  have quiet : Effect.events (ts.map .written) = [] := filterMap_written (fun _ => rfl) ts
  rw [writing, Effect.events_append, quiet]
  rfl

theorem log_writing {r : Traced Effect (Except Error Unit)} {ts : List Text}
    (h : r.trace = writing b ts) (verbose : Bool) :
    (report verbose r).log =
      if verbose then [.started b, .catalogueInUse] else [] := by
  show logged verbose (Effect.events r.trace) = _
  rw [h, events_writing]
  cases verbose <;> rfl

/-- Two runs for one offline action are the same run, on whatever machines and networks and whatever
    else their arguments hold: they report the same status, output and fault. They ask the machine for
    nothing and start no server, and their logs hold what every run logs first, if that much is
    logged. -/
theorem offline_runs_agree (b : Version) (m m' : Machine) (network network' : Network)
    {a a' : Arguments} (same : SameOffline a a') :
    (run b m network a).run = (run b m' network' a').run ∧
    Effect.Offline (run b m network a).run.trace ∧
    ∀ args args', Arguments.parse args = .ok a → Arguments.parse args' = .ok a' →
      (execute b m network args).status = (execute b m' network' args').status ∧
      (execute b m network args).output = (execute b m' network' args').output ∧
      (execute b m network args).fault = (execute b m' network' args').fault ∧
      (execute b m network args).log =
        (if a.verbose then [.started b, .catalogueInUse] else []) ∧
      (execute b m' network' args').log =
        (if a'.verbose then [.started b, .catalogueInUse] else []) := by
  have agree := run_of_sameOffline b m m' network network' same
  obtain ⟨ts, trace⟩ := trace_of_sameOffline b m network same
  refine ⟨agree, trace ▸ offline_writing b ts, fun args args' parsed parsed' => ?_⟩
  rw [execute_of_parse parsed, execute_of_parse parsed', ← agree]
  exact ⟨rfl, rfl, rfl, log_writing trace a.verbose, log_writing trace a'.verbose⟩

/-- The same model is classified on a machine that answers and on one that does not, whatever stands
    beside it on the command line. -/
theorem offline_runs_agree_classify :
    let b : Version := .ofBuild "1.0" "main" ""
    let m : Machine :=
      ⟨Machine.registersOf
        [((0, 0), ⟨0x16, 0x756E6547, 0x6C65746E, 0x49656E69⟩), ((1, 0), ⟨0x50657, 0, 0, 0⟩)],
        .ok [0x6E, 0x31]⟩
    let m' : Machine := ⟨fun _ _ => ⟨0, 0, 0, 0⟩, .error .notPermitted⟩
    let network : Network := fun _ => .error (.os .addressInUse)
    let args : List Text := ["-v", "--model", " 0x8f", "--namespace=2 bad"]
    let args' : List Text :=
      ["--list", "--lineage", "none", "--listen=[::1]:80", "--model", " 0x8f"]
    (∃ a a', Arguments.parse args = .ok a ∧ Arguments.parse args' = .ok a' ∧ SameOffline a a') ∧
      (execute b m' network args').output =
        ("0x8F  INTEL_FAM6_SAPPHIRERAPIDS_X  (Big Core)\n" : Text) ∧
      (execute b m network args).output = (execute b m' network args').output ∧
      (execute b m' network args').log = [] := by
  intro b m m' network args args'
  let a : Arguments := ⟨false, none, some " 0x8f", false, none, "2 bad", true⟩
  let a' : Arguments :=
    ⟨true, some "none", some " 0x8f", false, some (.v6 [0, 0, 0, 0, 0, 0, 0, 1] 0 80),
      Config.defaultScope, false⟩
  have parsed : Arguments.parse args = .ok a := by decide +kernel
  have parsed' : Arguments.parse args' = .ok a' := by decide +kernel
  have same : SameOffline a a' := .classify rfl rfl
  obtain ⟨-, -, views⟩ := offline_runs_agree b m m' network network same
  obtain ⟨-, output, -, -, log⟩ := views args args' parsed parsed'
  exact ⟨⟨a, a', parsed, parsed', same⟩, by decide +kernel, output, log⟩

/-- Two command lines that mean the same but for the verbose switch do the same, on every machine and
    every network: the same effects in the same order, and the same status, output, fault and
    responses. The log of the one that is not verbose is that of the other without the events of the
    lowest level. Every command line that is not verbose has such a partner, which the switch in front
    makes of it. -/
theorem verbosity_only_logs (b : Version) (m : Machine) (network : Network) {args : List Text}
    {a : Arguments} (parsed : Arguments.parse args = .ok a) (quiet : a.verbose = false) :
    Arguments.parse ("-v" :: args) = .ok { a with verbose := true } ∧
    (run b m network { a with verbose := true }).run = (run b m network a).run ∧
    ∀ args', Arguments.parse args' = .ok { a with verbose := true } →
      (execute b m network args).status = (execute b m network args').status ∧
      (execute b m network args).output = (execute b m network args').output ∧
      (execute b m network args).fault = (execute b m network args').fault ∧
      (execute b m network args).responses = (execute b m network args').responses ∧
      (execute b m network args).log =
        (execute b m network args').log.filter fun e => e.level ≠ .debug := by
  have same : (run b m network { a with verbose := true }).run = (run b m network a).run := rfl
  refine ⟨Arguments.parse_verbose parsed quiet, same, fun args' parsed' => ?_⟩
  rw [execute_of_parse parsed, execute_of_parse parsed', same, quiet, report_false]
  exact ⟨rfl, rfl, rfl, rfl, rfl⟩

/-- A server that is asked to be verbose by the switch at the end of its command line answers and stops
    as the other does, and logs four events more. -/
theorem verbosity_only_logs_server :
    let b : Version := .ofBuild "1.0" "main" ""
    let m : Machine :=
      ⟨Machine.registersOf
        [((0, 0), ⟨0x16, 0x756E6547, 0x6C65746E, 0x49656E69⟩), ((1, 0), ⟨0x50659, 0, 0, 0⟩)],
        .error .notPermitted⟩
    let network : Network := fun _ => .ok ⟨fun _ => none, [.look ⟨.interrupt, fun _ => false⟩,
      .request ⟨"GET", "/version"⟩, .look ⟨.interrupt, fun s => s = .terminate⟩], rfl⟩
    let args : List Text := ["--listen", "127.0.0.1:9100"]
    let args' : List Text := ["--listen=127.0.0.1:9100", "--verbose"]
    (∃ a, Arguments.parse args = .ok a ∧ a.verbose = false ∧
      Arguments.parse args' = .ok { a with verbose := true }) ∧
      (execute b m network args).responses = (execute b m network args').responses ∧
      (execute b m network args).log =
        (execute b m network args').log.filter (fun e => e.level ≠ .debug) ∧
      (execute b m network args').log.length = (execute b m network args).log.length + 4 := by
  intro b m network args args'
  let a : Arguments :=
    ⟨false, none, none, false, some (.v4 ⟨127, 0, 0, 1⟩ 9100), Config.defaultScope, false⟩
  have parsed : Arguments.parse args = .ok a := by decide +kernel
  have parsed' : Arguments.parse args' = .ok { a with verbose := true } := by decide +kernel
  obtain ⟨-, -, views⟩ := verbosity_only_logs b m network parsed rfl
  obtain ⟨-, -, -, responses, log⟩ := views args' parsed'
  exact ⟨⟨a, parsed, rfl, parsed'⟩, responses, log, by decide +kernel⟩

end Program

end CpuIdentity
