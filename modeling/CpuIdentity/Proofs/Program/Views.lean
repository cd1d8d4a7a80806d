import CpuIdentity.Proofs.Exporter.RoundTrip
import CpuIdentity.Proofs.Program.Runs

/-!
# The views of a machine

A machine shows in the metrics that are printed, in those that are served, and in the summary. The
three come from one exporter and one host, so they agree, and what they tell is read off the answers of
the CPUID instruction and of the system.
-/

namespace CpuIdentity.Program

open Exporter Exposition

variable {b : Version} {m : Machine} {scope : Text}

theorem output_metrics {network : Network} {a : Arguments} (p : Publishes a)
    (metrics : a.metrics = true) :
    Effect.output (run b m network a).run.trace = published b m a.scope := by
  rw [run_metrics p metrics]
  dsimp only
  rw [(silent_opening b).output_append, (silent_preparing m a.scope).output_append]
  exact List.append_nil _

theorem output_summary {network : Network} {a : Arguments} (p : Publishes a)
    (metrics : a.metrics = false) (listen : a.listen = none) :
    Effect.output (run b m network a).run.trace =
      Text.line b.full ++ Text.line (hostLine m.host) := by
  rw [run_summary p metrics listen]
  dsimp only
  rw [(silent_opening b).output_append, (silent_preparing m a.scope).output_append]
  exact congrArg _ (List.append_nil _)

/-- The families of a machine. -/
def families (b : Version) (m : Machine) (scope : Text) : List Family :=
  shownFamilies ⟨scope, m.hostname.value⟩ b m.host

theorem read_published (valid : Config.isScope scope = true) :
    Reader.read (published b m scope) = some (families b m scope) :=
  Reader.read_text
    (readable_shownFamilies (c := ⟨scope, m.hostname.value⟩) (Grammar.fitsNames_of_isScope valid) _ _)
    (nodup_names_shownFamilies _ _ _)

theorem host_ok_iff (m : Machine) (h : Host) :
    m.host = some h ↔ (Host.detect m).run.value = .ok h := by
  unfold Machine.host
  cases (Host.detect m).run.value with
  | ok h' => exact ⟨fun same => congrArg _ (Option.some.inj same), fun same => by cases same; rfl⟩
  | error cause => exact iff_of_false (by rintro ⟨⟩) (by rintro ⟨⟩)

/-- Whether families tell the model of a host. -/
def TellsHost (scope : Text) (fs : List Family) : Prop :=
  ∃ f ∈ fs, f.name = scope ++ "_cpu_model_info" ∧ f.series ≠ []

theorem tellsHost_iff (b : Version) (m : Machine) (valid : Config.isScope scope = true) :
    TellsHost scope (families b m scope) ↔ ∃ h, (Host.detect m).run.value = .ok h := by
  have present : scope ≠ [] := by
    rintro rfl
    cases valid
  have name : scope ++ "_cpu_model_info" = metricName scope hostMetric := by
    rw [metricName, if_neg present, List.append_assoc]
    rfl
  rw [TellsHost, name]
  constructor
  · rintro ⟨f, hf, named, -⟩
    rcases mem_shownFamilies.1 hf with rfl | ⟨h, found, -⟩
    · exact absurd named.symm (hostMetric_ne_buildMetric scope)
    · exact ⟨h, (host_ok_iff m h).1 found⟩
  · rintro ⟨h, detected⟩
    have found := (host_ok_iff m h).2 detected
    exact ⟨_, mem_shownFamilies.2 (Or.inr ⟨h, found, rfl⟩), rfl, List.cons_ne_nil _ _⟩

/-- Every series tells the name of the host exactly if the system told it as a text. -/
theorem host_mem_labels_iff {f : Family} (hf : f ∈ families b m scope) {s : Series}
    (hs : s ∈ f.series) (name : Text) :
    (⟨"host", name⟩ : Label) ∈ s.labels ↔
      ∃ bytes, m.nodeName = .ok bytes ∧ name ≠ [] ∧
        Utf8.encode name = bytes.takeWhile (· ≠ 0) := by
  rw [(series_of_mem_shownFamilies hf hs).2.2 name]
  exact Machine.value_hostname m name

/-- A request that gets the page under a path. -/
def Gets (path : Text) (q : Request) : Prop := q.method = Server.getMethod ∧ q.path = path

/-- What the summary says in its second line. -/
theorem hostLine_eq (b : Version) (m : Machine) (valid : Config.isScope scope = true) :
    (TellsHost scope (families b m scope) →
      ∃ h, (Host.detect m).run.value = .ok h ∧ hostLine m.host = h.text) ∧
    (¬TellsHost scope (families b m scope) →
      hostLine m.host = ("Host CPU is not an Intel Family-6 part" : Text)) := by
  rw [tellsHost_iff b m valid]
  cases found : m.host with
  | some h =>
    have detected := (host_ok_iff m h).1 found
    exact ⟨fun _ => ⟨h, detected, rfl⟩, fun other => absurd ⟨h, detected⟩ other⟩
  | none =>
    refine ⟨?_, fun _ => rfl⟩
    rintro ⟨h, detected⟩
    rw [(host_ok_iff m h).2 detected] at found
    cases found

theorem form_of_isScope (valid : Config.isScope scope = true) :
    Arguments.Form.of scope = .plain := by
  cases scope with
  | nil => cases valid
  | cons c cs =>
    have first : Config.startsScope c = true := (Bool.and_eq_true_iff.1 valid).1
    have dash : c ≠ '-' := Reader.ne_of_class first (by decide)
    unfold Arguments.Form.of
    split <;> simp_all

/-- The command line for the metrics under a scope. -/
theorem parse_metrics (valid : Config.isScope scope = true) :
    Arguments.parse ["--metrics", "--namespace", scope] =
      .ok ⟨false, none, none, true, none, scope, false⟩ := by
  let entered : Arguments.Draft := { metrics := true }
  have switch : Arguments.Form.of "--metrics" = .long "metrics" none := rfl
  have setting : Arguments.Form.of "--namespace" = .long "namespace" none := rfl
  have metrics : Arguments.readLong {} none "metrics" none = .ok (entered, none) := rfl
  have pending : Arguments.readLong entered none "namespace" none =
      .ok (entered, some ⟨.scope, none⟩) := rfl
  unfold Arguments.parse
  simp only [Arguments.read, switch, metrics, setting, pending, form_of_isScope valid]
  rfl

/-- The metrics that a machine prints are those that it serves to everyone who gets them, whatever came
    before, and those of an exporter that observed the host if it could be identified. Their series
    name the host exactly if the system told its name as a text, and a model is among them exactly if
    the processor told the vendor and the family. The summary agrees: the version that is served, and
    then the host exactly if the metrics tell it. -/
theorem views_agree (b : Version) (m : Machine) {scope : Text} (valid : Config.isScope scope = true) :
    ∃ (x : Exporter) (T : Text) (fs : List Family),
      (Exporter.create b ⟨scope, m.hostname.value⟩).run.value = .ok x ∧
      (match (Host.detect m).run.value with
        | .ok h => x.observe h
        | .error _ => x).encode = .ok T ∧
      Reader.read T = some fs ∧
      (∀ f ∈ fs, ∀ s ∈ f.series, ∀ name, (⟨"host", name⟩ : Label) ∈ s.labels ↔
        ∃ bytes, m.nodeName = .ok bytes ∧ name ≠ [] ∧
          Utf8.encode name = bytes.takeWhile (· ≠ 0)) ∧
      (TellsHost scope fs ↔
        wordBytes (m.registers 0 0).ebx ++ wordBytes (m.registers 0 0).edx ++
            wordBytes (m.registers 0 0).ecx = Utf8.encode "GenuineIntel" ∧
          bitField (m.registers 1 0).eax 8 4 = 6) ∧
      (∀ network, (execute b m network ["--metrics", "--namespace", scope]).output = T) ∧
      ∀ network args a, Arguments.parse args = .ok a → a.model = none → a.list = false →
        a.scope = scope →
        (a.metrics = true → (execute b m network args).output = T) ∧
        (∀ address session, a.metrics = false → a.listen = some address →
          network address = .ok session →
          (execute b m network args).responses.length = session.requests.length ∧
          ∀ (i : Nat) (q : Request) (r : Response), session.requests[i]? = some q →
            (execute b m network args).responses[i]? = some r →
            (Gets "/metrics" q → r.status = 200 ∧ r.body = T) ∧
            (Gets "/version" q → r.status = 200 ∧ r.body = b.full)) ∧
        (a.metrics = false → a.listen = none → ∃ shown,
          (execute b m network args).output =
            Text.line b.full ++ Text.line shown ∧
          (TellsHost scope fs → ∃ h, (Host.detect m).run.value = .ok h ∧ shown = h.text) ∧
          (¬TellsHost scope fs → shown = ("Host CPU is not an Intel Family-6 part" : Text))) := by
  have printed (network : Network) (args : List Text) (a : Arguments)
      (parsed : Arguments.parse args = .ok a) (p : Publishes a) (metrics : a.metrics = true) :
      (execute b m network args).output = published b m a.scope := by
    rw [execute_of_parse parsed]
    exact output_metrics p metrics
  refine ⟨showing ⟨scope, m.hostname.value⟩ b none, published b m scope,
    families b m scope, value_create_eq_ok_iff.2 ⟨Grammar.fitsNames_of_isScope valid, rfl⟩, ?_,
    read_published valid, fun f hf s hs name => host_mem_labels_iff hf hs name,
    (tellsHost_iff b m valid).trans (Host.detect_ok_iff m), ?_, ?_⟩
  -- What was prepared is the created exporter after the observation.
  · have observed := encode_prepared b m scope
    unfold prepared Machine.host at observed
    cases detected : (Host.detect m).run.value with
    | ok h =>
      rw [detected] at observed
      exact observed
    | error cause =>
      rw [detected] at observed
      exact observed
  · intro network
    have asked : Publishes ⟨false, none, none, true, none, scope, false⟩ := ⟨rfl, rfl, valid⟩
    have output := printed network _ _ (parse_metrics valid) asked rfl
    exact output
  · rintro network args a parsed model list rfl
    have p : Publishes a := ⟨model, list, valid⟩
    refine ⟨printed network args a parsed p, ?_, ?_⟩
    · intro address session metrics listen served
      have answered : (execute b m network args).responses =
          session.requests.map (Server.response b (prepared b m a.scope)) := by
        rw [execute_of_parse parsed]
        exact responses_run_listen p metrics listen served
      rw [answered]
      refine ⟨List.length_map _, fun i q r asked got => ?_⟩
      rw [List.getElem?_map, asked] at got
      cases got
      refine ⟨fun gets => ?_, fun gets => ?_⟩
      · rw [Server.response_get_metrics (encode_prepared b m a.scope) gets.2 gets.1]
        exact ⟨rfl, rfl⟩
      · rw [Server.response_get_version b _ gets.2 gets.1]
        exact ⟨rfl, rfl⟩
    · intro metrics listen
      refine ⟨hostLine m.host, ?_, hostLine_eq b m valid⟩
      rw [execute_of_parse parsed]
      exact output_summary p metrics listen

/-- A machine with a family-6 processor whose name ends at a zero byte: its metrics tell both, and a
    server tells the same to the second of two clients. -/
theorem views_agree_family6 :
    let b : Version := .ofBuild "1.0" "main" ""
    let m : Machine :=
      ⟨Machine.registersOf
        [((0, 0), ⟨0x16, 0x756E6547, 0x6C65746E, 0x49656E69⟩), ((1, 0), ⟨0x50657, 0, 0, 0⟩)],
        .ok [0x6E, 0x31, 0, 0xFF]⟩
    let session : Session :=
      ⟨fun _ => none, [.request ⟨"PUT", "/"⟩, .request ⟨"GET", "/metrics?all"⟩,
        .look ⟨.terminate, fun _ => true⟩], rfl⟩
    Config.isScope "node" = true ∧
      ∃ T fs, Reader.read T = some fs ∧ TellsHost "node" fs ∧
        (∀ f ∈ fs, ∀ s ∈ f.series, (⟨"host", "n1"⟩ : Label) ∈ s.labels) ∧
        (execute b m (fun _ => .ok session) ["--metrics", "--namespace", "node"]).output = T ∧
        ((execute b m (fun _ => .ok session)
          ["--namespace=node", "--listen", "127.0.0.1:9100"]).responses[1]?.map Response.body) =
            some T := by
  intro b m session
  have valid : Config.isScope "node" = true := by decide
  let a : Arguments :=
    ⟨false, none, none, false, some (.v4 ⟨127, 0, 0, 1⟩ 9100), "node", false⟩
  have parsed : Arguments.parse ["--namespace=node", "--listen", "127.0.0.1:9100"] = .ok a := by
    decide +kernel
  obtain ⟨x, T, fs, -, -, read, labels, tells, output, views⟩ := views_agree b m valid
  obtain ⟨-, served, -⟩ := views (fun _ => .ok session) _ a parsed rfl rfl rfl
  obtain ⟨length, answers⟩ := served _ session rfl rfl rfl
  refine ⟨valid, T, fs, read, tells.2 (by decide +kernel), ?_, output _, ?_⟩
  · intro f hf s hs
    exact (labels f hf s hs _).2 ⟨_, rfl, by decide, by decide +kernel⟩
  · have second : 1 < (execute b m (fun _ => .ok session)
        ["--namespace=node", "--listen", "127.0.0.1:9100"]).responses.length := by
      rw [length]
      decide
    have got := List.getElem?_eq_getElem second
    have told := (answers 1 ⟨"GET", "/metrics?all"⟩ _ rfl got).1 ⟨rfl, by decide⟩
    rw [got, Option.map_some, told.2]

end CpuIdentity.Program
