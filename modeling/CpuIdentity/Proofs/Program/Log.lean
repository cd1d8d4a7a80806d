import CpuIdentity.Proofs.Cpu.Outcome
import CpuIdentity.Proofs.Net.Session
import CpuIdentity.Proofs.Program.Runs

/-!
# What a run logs and asks

A run that needs the host tells a fixed story: how it starts, for which host it exports, and, if its
scope is one, what the processor told and what that makes of it, and then what its server tells. The
processor is asked in one place of that story and nowhere else, although the summary looks at the host
again. The story is told in the words of the log, with the level of each line.
-/

namespace CpuIdentity

open Effect (Tells tells_nil)

namespace Variant

/-- What is logged of a stepping of the shared model that no variant covers. -/
def warning (model stepping : UInt8) : List (Level × Text) :=
  if model = 0x55 ∧ ofStepping? stepping = none then
    [(.warn, "Unexpected stepping " ++ Text.hexUpper stepping.toNat ++
      " for model 0x55, keeping Skylake-X")]
  else []

theorem refine_tells (model stepping : UInt8) :
    Tells (refine model stepping).trace (warning model stepping) [] := by
  unfold warning
  by_cases shared : model = 0x55
  · subst shared
    by_cases unlisted : Unlisted stepping
    · rw [refine_of_unlisted unlisted, if_pos ⟨rfl, ofStepping?_eq_none_iff.2 unlisted⟩]
      exact tells_nil.logged _
    · rw [refine_of_listed unlisted, if_neg fun h => unlisted (ofStepping?_eq_none_iff.1 h.2)]
      exact tells_nil
  · rw [refine_of_ne shared, if_neg fun h => shared h.1]
    exact tells_nil

end Variant

namespace Host

/-- What is logged of how a model number is classified. -/
def classificationEntry (number : UInt8) : Level × Text :=
  match Model.ofNumber? number with
  | some model => (.info, "Classified CPU model " ++ numberLabel number ++ " as " ++ model.name)
  | none => (.warn, "Intel family 6 model " ++ numberLabel number ++ " is not in the catalogue")

theorem classificationEntry_eq (number : UInt8) :
    classificationEntry number =
      ((classificationEvent number (Model.ofNumber? number)).level,
        (classificationEvent number (Model.ofNumber? number)).message) := by
  unfold classificationEntry
  cases Model.ofNumber? number <;> rfl

/-- What is logged of a signature: why it identifies no host, or how its model is classified, after a
    warning of its stepping if there is cause for one. -/
def verdict (s : Signature) : List (Level × Text) :=
  match (identify s).run.value with
  | .error cause => [(.warn, "Host CPU not identified: " ++ cause.message)]
  | .ok _ => Variant.warning s.model s.stepping ++ [classificationEntry s.model]

/-- What is logged of the processor before anything is made of it: the version word and the signature.
    -/
def probeEntries (m : Machine) : List (Level × Text) :=
  [(.debug, "CPUID leaf 1 EAX = 0x" ++ Text.hexPadded 8 (m.registers 1 0).eax.toNat ++ ": " ++
      m.told.text),
    (.info, "CPU: " ++ m.told.text)]

/-- The processor is asked for two leaves, and what it told is logged with what that makes of it. -/
theorem detect?_tells (m : Machine) :
    Tells (detect? m).trace (probeEntries m ++ verdict m.told) [(0, 0), (1, 0)] := by
  have probed {t : List Effect} {es : List (Level × Text)} (h : Tells t es []) :
      Tells (_ :: _ :: _ :: _ :: t) (probeEntries m ++ es) [(0, 0), (1, 0)] :=
    (((h.logged (.processorFound m.told)).logged
      (.versionWordRead (m.registers 1 0).eax m.told)).cpuid 1 0).cpuid 0 0
  unfold detect? verdict
  rw [Traced.trace_bind, run_detect, List.append_assoc]
  apply probed
  rcases identify_cases m.told with ⟨-, run⟩ | ⟨-, -, run⟩ | ⟨-, -, h, run⟩
  · rw [run]
    exact tells_nil.logged _
  · rw [run]
    exact tells_nil.logged _
  · rw [run, classificationEntry_eq]
    simp only [Traced.trace_pure, List.append_nil]
    exact (Variant.refine_tells _ _).append (tells_nil.logged _)

end Host

/-- What is logged of a name that the system does not tell. -/
def Machine.nameFault (m : Machine) : List (Level × Text) :=
  match m.nodeName with
  | .ok _ => []
  | .error fault => [(.warn, "Failed to detect hostname: " ++ fault.bySymbol)]

theorem Machine.hostname_tells (m : Machine) : Tells m.hostname.trace m.nameFault [] := by
  unfold hostname nameFault
  rw [Traced.trace_bind]
  cases m.nodeName with
  | ok name => exact tells_nil.hostname
  | error fault => exact (tells_nil.logged _).hostname

/-- What is logged of the name of the host: why the system did not tell it, and for which host a run
    exports. -/
def Machine.nameEntries (m : Machine) : List (Level × Text) :=
  m.nameFault ++
    [(.info, "Exporting identity for host " ++ m.hostname.value.getD ("<unknown>" : Text))]

theorem Config.searching_tells (m : Machine) : Tells (searching m) m.nameEntries [] :=
  m.hostname_tells.append (tells_nil.logged _)

namespace Program

variable {b : Version} {m : Machine} {network : Network} {a : Arguments}

theorem preparing_tells (m : Machine) (scope : Text) :
    Tells (preparing m scope)
      (m.nameEntries ++ (.debug, "Identity exporter registered under " ++ scope) ::
        (Host.probeEntries m ++ Host.verdict m.told))
      [(0, 0), (1, 0)] :=
  (Config.searching_tells m).append ((Host.detect?_tells m).logged _)

/-- What a run logs once it has its exporter: the account of its server, if it serves. -/
def publishingEntries (network : Network) (a : Arguments) : List (Level × Text) :=
  if a.metrics then []
  else
    match a.listen with
    | none => []
    | some address => Server.account network address

theorem publishing_tells (b : Version) (m : Machine) (network : Network) (a : Arguments) :
    Tells (publishing b m network a).run.trace (publishingEntries network a) [] := by
  unfold publishing publishingEntries
  cases a.metrics with
  | true => exact tells_nil.written _
  | false =>
    cases a.listen with
    | none => exact (tells_nil.written _).written _
    | some address => exact Server.serve_tells b network address (encode_prepared b m a.scope)

/-- What a run logs before anything else: its build and its catalogue. -/
def openingEntries (b : Version) : List (Level × Text) :=
  [(.debug, b.full), (.debug, "Model catalogue: " ++ provenance)]

/-- What a run that needs the host logs from its start to its end. -/
def story (b : Version) (m : Machine) (network : Network) (a : Arguments) : List (Level × Text) :=
  openingEntries b ++ m.nameEntries ++
    if Config.isScope a.scope then
      [(.debug, "Identity exporter registered under " ++ a.scope)] ++ Host.probeEntries m ++
        Host.verdict m.told ++ publishingEntries network a
    else []

/-- A run that needs the host logs its story. -/
theorem run_tells (b : Version) (m : Machine) (network : Network) (model : a.model = none)
    (list : a.list = false) :
    Tells (run b m network a).run.trace (story b m network a)
      (if Config.isScope a.scope then [(0, 0), (1, 0)] else []) := by
  have opened : Tells (opening b) (openingEntries b) [] := (tells_nil.logged _).logged _
  unfold story
  cases scope : Config.isScope a.scope with
  | false =>
    rw [run_of_not_isScope model list scope]
    simpa using opened.append (Config.searching_tells m)
  | true =>
    rw [run_publishes ⟨model, list, scope⟩]
    simpa using (opened.append (preparing_tells m a.scope)).append (publishing_tells b m network a)

/-- A run that needs the host asks the processor for two leaves if its scope is one and for nothing
    otherwise, and the levels and the words of its log are the story of its build, its machine and its
    network. In that story a signature is rejected unless it has the catalogued vendor and family. A
    verbose run logs the whole story; the report of a run that is not verbose lacks the events of the
    lowest level, and nothing else. -/
theorem host_probed_once (b : Version) (m : Machine) (network : Network) {a : Arguments}
    (model : a.model = none) (list : a.list = false) :
    Effect.queries (run b m network a).run.trace =
      (if Config.isScope a.scope then [(0, 0), (1, 0)] else []) ∧
    ((∃ h, (Host.identify m.told).run.value = .ok h) ↔
      m.told.vendor = intelVendor ∧ m.told.family = 6) ∧
    (report true (run b m network a).run).log.map (fun e => (e.level, e.message)) =
      story b m network a ∧
    (report false (run b m network a).run).log.map (fun e => (e.level, e.message)) =
      (story b m network a).filter (fun entry => entry.1 ≠ .debug) ∧
    report false (run b m network a).run =
      { report true (run b m network a).run with
        log := (report true (run b m network a).run).log.filter fun e => e.level ≠ .debug } := by
  obtain ⟨told, asked⟩ := run_tells b m network model list
  have loud : (report true (run b m network a).run).log =
      Effect.events (run b m network a).run.trace := logged_true _
  have quiet := report_false (run b m network a).run
  refine ⟨asked, Host.identify_ok_iff m.told, ?_, ?_, ?_⟩
  · rw [loud]
    exact told
  · rw [quiet, ← told, Effect.entries, List.filter_map, ← loud]
    rfl
  · exact quiet

/-- A shared model with a stepping that no part has, on a machine that does not tell its name, served
    although one signal cannot be handled: the log that is not verbose, line by line. -/
theorem host_probed_once_warned :
    let b : Version := .ofBuild "1.0" "main" ""
    let m : Machine :=
      ⟨Machine.registersOf
        [((0, 0), ⟨0x16, 0x756E6547, 0x6C65746E, 0x49656E69⟩), ((1, 0), ⟨0x50659, 0, 0, 0⟩)],
        .error .notPermitted⟩
    let handlers : Handlers := fun
      | .interrupt => some (.other "Failed to register signal handler")
      | .terminate => none
    let session : Session :=
      ⟨handlers, [.look ⟨.terminate, fun _ => false⟩, .request ⟨"GET", "/metrics"⟩,
        .look ⟨.interrupt, fun _ => true⟩], rfl⟩
    let a : Arguments :=
      ⟨false, none, none, false, some (.v4 ⟨127, 0, 0, 1⟩ 9100), "node", false⟩
    a.model = none ∧ a.list = false ∧
      Effect.queries (run b m (fun _ => .ok session) a).run.trace = [(0, 0), (1, 0)] ∧
      (report false (run b m (fun _ => .ok session) a).run).log.map
          (fun e => (e.level, e.message)) =
        ([(.warn, "Failed to detect hostname: EPERM: Operation not permitted"),
          (.info, "Exporting identity for host <unknown>"),
          (.info, "CPU: GenuineIntel Family 6, Model 55, Stepping 9"),
          (.warn, "Unexpected stepping 9 for model 0x55, keeping Skylake-X"),
          (.info, "Classified CPU model 0x55 as INTEL_FAM6_SKYLAKE_X"),
          (.warn, "Starting HTTP server on 127.0.0.1:9100"),
          (.error, "Failed to install Ctrl+C handler: Failed to register signal handler"),
          (.warn, "Shutdown triggered by SIGTERM"),
          (.info, "Server shutdown complete")] : List (Level × Text)) := by
  intro b m handlers session a
  obtain ⟨asked, -, -, quiet, -⟩ := host_probed_once b m (fun _ => .ok session) (a := a) rfl rfl
  have valid : Config.isScope a.scope = true := by decide
  have told : m.told = ⟨intelVendor, 6, 0x55, 9⟩ := by decide +kernel
  have known : Model.ofNumber? 0x55 = some .skylakeX := Model.ofNumber?_number .skylakeX
  have verdict : Host.verdict m.told = Variant.warning 0x55 9 ++
      [(.info, "Classified CPU model " ++ numberLabel 0x55 ++ " as " ++ Model.skylakeX.name)] := by
    rw [told, Host.verdict, Host.run_identify rfl rfl, Host.classificationEntry, known]
  refine ⟨rfl, rfl, asked.trans (if_pos valid), ?_⟩
  rw [quiet, story, verdict, Host.probeEntries, told, if_pos valid]
  decide +kernel

end Program

end CpuIdentity
