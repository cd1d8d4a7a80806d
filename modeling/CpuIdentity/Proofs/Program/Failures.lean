import CpuIdentity.Proofs.Program.Runs

/-!
# How a run fails

A run fails for one of four causes: a text that gives no model number, a text that names no lineage, a
scope that is none, and an address that cannot be served. Its arguments and the network settle which;
the processor has no part in it. A run that fails has written nothing before.
-/

namespace CpuIdentity.Program

variable {b : Version} {m : Machine} {network : Network} {a : Arguments} {e : Error}

/-- The errors that end a run, in the order in which a run comes to them: what an action asks for is
    looked at only if no action before it is taken. -/
inductive Fails (network : Network) (a : Arguments) : Error → Prop where
  | number {t : Text} {cause : NumberError} (model : a.model = some t)
      (rejected : Model.readNumber t = .error cause) : Fails network a (.ofNumberError cause)
  | lineage {t : Text} (model : a.model = none) (list : a.list = true) (given : a.lineage = some t)
      (unknown : ∀ l, Lineage.ofName t ≠ .ok l) : Fails network a (.catalogue (.unknownLineage t))
  | scope (model : a.model = none) (list : a.list = false)
      (invalid : Config.isScope a.scope = false) :
      Fails network a (.configuration ("Invalid metric namespace: " ++ Text.quote a.scope))
  | network {address : SocketAddress} {cause : IoError} (published : Publishes a)
      (metrics : a.metrics = false) (listen : a.listen = some address)
      (unserved : network address = .error cause) : Fails network a (.io cause)

theorem ofName_eq_error {t : Text} (unknown : ∀ l, Lineage.ofName t ≠ .ok l) :
    Lineage.ofName t = .error (.unknownLineage t) := by
  unfold Lineage.ofName at unknown ⊢
  split
  case h_1 l found => exact absurd (by rw [found]) (unknown l)
  case h_2 => rfl

theorem restriction_eq_error_iff {lineage : Option Text} :
    restriction lineage = .error e ↔
      ∃ t, lineage = some t ∧ (∀ l, Lineage.ofName t ≠ .ok l) ∧
        e = .catalogue (.unknownLineage t) := by
  constructor
  · intro h
    cases lineage with
    | none => cases h
    | some t =>
      have unknown : ∀ l, Lineage.ofName t ≠ .ok l := by
        intro l known
        rw [restriction, known] at h
        cases h
      rw [restriction, ofName_eq_error unknown] at h
      cases h
      exact ⟨t, rfl, unknown, rfl⟩
  · rintro ⟨t, rfl, unknown, rfl⟩
    rw [restriction, ofName_eq_error unknown]
    rfl

/-- Once a run has its exporter, only a server that cannot be started fails. -/
theorem publishing_eq_error (h : (publishing b m network a).run.value = .error e) :
    ∃ address cause, a.metrics = false ∧ a.listen = some address ∧
      network address = .error cause ∧ e = .io cause := by
  unfold publishing at h
  cases metrics : a.metrics with
  | true =>
    rw [if_pos metrics] at h
    cases h
  | false =>
    rw [if_neg (by simp [metrics])] at h
    cases listen : a.listen with
    | none =>
      rw [listen] at h
      cases h
    | some address =>
      simp only [listen] at h
      cases served : network address with
      | ok session =>
        rw [Server.run_serve served] at h
        cases h
      | error cause =>
        rw [Server.run_serve_of_error served] at h
        cases h
        exact ⟨address, cause, rfl, rfl, served, rfl⟩

/-- No run ends with another error. -/
theorem fails_of_run (h : (run b m network a).run.value = .error e) : Fails network a e := by
  rcases run_cases b m network a with
    ⟨t, model, same⟩ | ⟨model, listing, same⟩ | ⟨model, listing, scope, same⟩ | ⟨p, same⟩
  · rw [same] at h
    cases read : Model.readNumber t with
    | ok n =>
      rw [classify_of_ok read] at h
      cases h
    | error cause =>
      rw [classify_of_error read] at h
      cases h
      exact .number model read
  · rw [same] at h
    cases restricted : restriction a.lineage with
    | ok l =>
      rw [list_of_ok restricted] at h
      cases h
    | error cause =>
      rw [list_of_error restricted] at h
      cases h
      obtain ⟨t, given, unknown, rfl⟩ := restriction_eq_error_iff.1 restricted
      exact .lineage model listing given unknown
  · rw [same] at h
    cases h
    exact .scope model listing scope
  · rw [same] at h
    obtain ⟨address, cause, metrics, listen, unserved, rfl⟩ := publishing_eq_error h
    exact .network p metrics listen unserved

/-- A run ends with each of these errors, and up to there it has written nothing and answered
    nobody. -/
theorem run_of_fails (h : Fails network a e) :
    ∃ trace, (run b m network a).run = ⟨trace, .error e⟩ ∧ Effect.Silent trace := by
  cases h with
  | number model rejected =>
    refine ⟨opening b, ?_, silent_opening b⟩
    rw [run_classify model, classify_of_error rejected]
    rfl
  | lineage model list given unknown =>
    refine ⟨opening b, ?_, silent_opening b⟩
    have restricted := restriction_eq_error_iff.2 ⟨_, given, unknown, rfl⟩
    rw [run_list model list, list_of_error restricted]
    rfl
  | scope model list invalid =>
    exact ⟨_, run_of_not_isScope model list invalid, (silent_opening b).append (silent_searching m)⟩
  | @network address cause published metrics listen unserved =>
    have quiet := (silent_opening b).append (silent_preparing m a.scope)
    have ended : (run b m network a).run =
        ⟨opening b ++ preparing m a.scope ++ [.logged (.serverStarting address)],
          .error (.io cause)⟩ := by
      rw [run_listen published metrics listen, Server.run_serve_of_error unserved]
    exact ⟨_, ended, quiet.append (Effect.silent_nil.logged _)⟩

/-- The processor is no cause of failure, and neither are the metrics. -/
theorem Fails.cause (h : Fails network a e) :
    (∀ vendor, e ≠ .unsupportedVendor vendor) ∧ (∀ family, e ≠ .unsupportedFamily family) ∧
      ∀ cause, e ≠ .metric cause := by
  cases h with
  | @number _ cause =>
    cases cause <;> exact ⟨nofun, nofun, nofun⟩
  | lineage => exact ⟨nofun, nofun, nofun⟩
  | scope => exact ⟨nofun, nofun, nofun⟩
  | network => exact ⟨nofun, nofun, nofun⟩

theorem report_of_ok {verbose : Bool} {r : Traced Effect (Except Error Unit)}
    (h : r.value = .ok ()) : (report verbose r).status = 0 ∧ (report verbose r).fault = none := by
  unfold report
  rw [h]
  exact ⟨rfl, rfl⟩

/-- A run ends with an error exactly in the four cases of `Fails`, none of which depends on the machine.
    Such a run reports its error in its status and its fault, and has written nothing; every other run
    ends well. A command line that is rejected for any reason but help has a status of its own, and
    nothing is written for it either. -/
theorem run_fails_iff (b : Version) (m : Machine) (network : Network) :
    (∀ a e, (run b m network a).run.value = .error e ↔ Fails network a e) ∧
    (∀ a e, Fails network a e →
      (∀ vendor, e ≠ .unsupportedVendor vendor) ∧ (∀ family, e ≠ .unsupportedFamily family) ∧
        ∀ cause, e ≠ .metric cause) ∧
    (∀ args a, Arguments.parse args = .ok a →
      (∀ e, Fails network a e →
        (execute b m network args).status = 1 ∧
        (execute b m network args).fault = some ("Error: " ++ e.report) ∧
        (execute b m network args).output = []) ∧
      ((∀ e, ¬Fails network a e) →
        (execute b m network args).status = 0 ∧ (execute b m network args).fault = none)) ∧
    ∀ args r, Arguments.parse args = .error r → r ≠ .help →
      (execute b m network args).status = 2 ∧ (execute b m network args).output = [] := by
  have ends (a : Arguments) (e : Error) :
      (run b m network a).run.value = .error e ↔ Fails network a e := by
    refine ⟨fails_of_run, fun h => ?_⟩
    obtain ⟨trace, failed, -⟩ := run_of_fails (b := b) (m := m) h
    rw [failed]
  refine ⟨ends, fun a e h => h.cause, fun args a parsed => ⟨fun e h => ?_, fun well => ?_⟩, ?_⟩
  · obtain ⟨trace, failed, silent⟩ := run_of_fails (b := b) (m := m) h
    rw [execute_of_parse parsed, failed]
    exact ⟨rfl, rfl, silent.output_eq⟩
  · rw [execute_of_parse parsed]
    apply report_of_ok
    cases value : (run b m network a).run.value with
    | ok u => rfl
    | error e => exact absurd ((ends a e).1 value) (well e)
  · intro args r rejected fault
    rw [execute_of_rejection rejected]
    refine ⟨?_, if_neg fault⟩
    cases r with
    | help => exact absurd rfl fault
    | _ => rfl

/-- On a machine whose processor is not supported, a run fails for the address that it cannot serve and
    for no other cause. A command line without that address is rejected. -/
theorem run_fails_iff_network :
    let b : Version := .ofBuild "1.0" "main" ""
    let m : Machine := ⟨fun _ _ => ⟨0, 0, 0, 0⟩, .error .notPermitted⟩
    let network : Network := fun _ => .error (.os .addressInUse)
    let args : List Text := ["--listen", "127.0.0.1:9100"]
    (∃ a, Arguments.parse args = .ok a ∧ Fails network a (.io (.os .addressInUse))) ∧
      (execute b m network args).status = 1 ∧
      (execute b m network args).fault =
        some ("Error: " ++ (Error.io (.os .addressInUse)).report) ∧
      (execute b m network args).output = [] ∧
      (execute b m network ["--listen"]).status = 2 := by
  intro b m network args
  let a : Arguments :=
    ⟨false, none, none, false, some (.v4 ⟨127, 0, 0, 1⟩ 9100), Config.defaultScope, false⟩
  have parsed : Arguments.parse args = .ok a := by decide +kernel
  have published : Publishes a := ⟨rfl, rfl, by decide⟩
  have failed : Fails network a (.io (.os .addressInUse)) := .network published rfl rfl rfl
  obtain ⟨-, -, views, rejections⟩ := run_fails_iff b m network
  obtain ⟨status, fault, output⟩ := (views args a parsed).1 _ failed
  have rejected : Arguments.parse ["--listen"] = .error (.missingValue .listen) := by decide +kernel
  have turned := rejections _ _ rejected nofun
  exact ⟨⟨a, parsed, failed⟩, status, fault, output, turned.1⟩

end CpuIdentity.Program
