import CpuIdentity.Proofs.Error
import CpuIdentity.Proofs.Program.Runs

/-!
# What the fault of a run tells

A run that fails leaves the report of its error as its fault. From the fault the error can be told, and
from the error the text that was refused: no two scopes that are refused leave the same fault.
-/

namespace CpuIdentity.Program

variable {b b' : Version} {m m' : Machine} {network network' : Network} {args args' : List Text}
  {a : Arguments} {e e' : Error}

/-- A command line is accepted, and its run ends with an error. -/
def EndsWith (b : Version) (m : Machine) (network : Network) (args : List Text) (e : Error) : Prop :=
  ∃ a, Arguments.parse args = .ok a ∧ (run b m network a).run.value = .error e

theorem EndsWith.fault_eq (h : EndsWith b m network args e) :
    (execute b m network args).fault = some ("Error: " ++ e.report) := by
  obtain ⟨a, parsed, failed⟩ := h
  rw [execute_of_parse parsed, report, failed]

theorem EndsWith.report_eq_of_fault (h : EndsWith b m network args e)
    (h' : EndsWith b' m' network' args' e')
    (same : (execute b m network args).fault = (execute b' m' network' args').fault) :
    e.report = e'.report := by
  rw [h.fault_eq, h'.fault_eq] at same
  exact List.append_cancel_left (Option.some.inj same)

/-- What an argument record asks for when it would publish under a scope that is none. -/
structure Unscoped (a : Arguments) : Prop where
  model : a.model = none
  list : a.list = false
  scope : Config.isScope a.scope = false

/-- Such a run ends with the error of its scope. -/
theorem Unscoped.endsWith (h : Unscoped a) (parsed : Arguments.parse args = .ok a) (b : Version)
    (m : Machine) (network : Network) :
    ∃ e, EndsWith b m network args e ∧ Config.create a.scope m.hostname.value = .error e := by
  refine ⟨_, ⟨a, parsed, ?_⟩, Config.create_of_not_isScope h.scope _⟩
  rw [run_of_not_isScope h.model h.list h.scope]

/-- The fault of a run that fails is one line and tells its cause. But for faults of the system
    outside and metrics that are registered twice, the report of an error has neither a line feed nor
    a carriage return in it, whatever text the error carries; and two errors that differ, in kind or
    in value, have different reports and different messages. So two runs that end with different
    errors leave different faults, and so do two runs whose scopes are refused and differ, though a
    scope is quoted in the error and the error is quoted again. -/
theorem faults_identify :
    (∀ e : Error, e.Told → '\n' ∉ e.report ∧ '\r' ∉ e.report) ∧
    (∀ e e' : Error, e.Told → e'.Told → e ≠ e' → e.report ≠ e'.report ∧ e.message ≠ e'.message) ∧
    (∀ scope scope' hostname hostname' e e', Config.create scope hostname = .error e →
      Config.create scope' hostname' = .error e' → scope ≠ scope' → e.report ≠ e'.report) ∧
    (∀ b m network args e, EndsWith b m network args e →
      (execute b m network args).fault = some ("Error: " ++ e.report) ∧
      ∀ b' m' network' args' e', EndsWith b' m' network' args' e' → e.Told → e'.Told → e ≠ e' →
        (execute b m network args).fault ≠ (execute b' m' network' args').fault) ∧
    ∀ b m network args a, Arguments.parse args = .ok a → Unscoped a →
      ∀ b' m' network' args' a', Arguments.parse args' = .ok a' → Unscoped a' →
        a.scope ≠ a'.scope →
        (execute b m network args).fault ≠ (execute b' m' network' args').fault := by
  refine ⟨fun e told => told.printable_report.one_line, ?_, ?_, ?_, ?_⟩
  · intro e e' told told' apart
    exact ⟨mt (told.eq_of_report told') apart, mt (told.eq_of_message told') apart⟩
  · intro scope scope' hostname hostname' e e' refused refused' apart
    exact mt (Config.scope_eq_of_report refused refused') apart
  · intro b m network args e ends
    refine ⟨ends.fault_eq, fun b' m' network' args' e' ends' told told' apart same => apart ?_⟩
    exact told.eq_of_report told' (ends.report_eq_of_fault ends' same)
  · intro b m network args a parsed unscoped b' m' network' args' a' parsed' unscoped' apart same
    obtain ⟨e, ends, refused⟩ := unscoped.endsWith parsed b m network
    obtain ⟨e', ends', refused'⟩ := unscoped'.endsWith parsed' b' m' network'
    exact apart (Config.scope_eq_of_report refused refused' (ends.report_eq_of_fault ends' same))

/-- A scope that ends in a line feed and one that ends in its escape are both refused. Each fault is one
    line, and they differ. -/
theorem faults_identify_escapes :
    let b : Version := .ofBuild "1.0" "main" ""
    let m : Machine := ⟨fun _ _ => ⟨0, 0, 0, 0⟩, .error .notPermitted⟩
    let network : Network := fun _ => .error (.os .addressInUse)
    let args : List Text := ["--namespace=2\n"]
    let args' : List Text := ["--namespace=2\\n"]
    let e : Error := .configuration "Invalid metric namespace: \"2\\n\""
    let e' : Error := .configuration "Invalid metric namespace: \"2\\\\n\""
    (execute b m network args).fault = some ("Error: " ++ e.report) ∧
    (execute b m network args').fault = some ("Error: " ++ e'.report) ∧
    '\n' ∉ e.report ∧ '\n' ∉ e'.report ∧
    (execute b m network args).fault ≠ (execute b m network args').fault := by
  intro b m network args args' e e'
  let a (scope : Text) : Arguments := ⟨false, none, none, false, none, scope, false⟩
  have parsed : Arguments.parse args = .ok (a "2\n") := by decide +kernel
  have parsed' : Arguments.parse args' = .ok (a "2\\n") := by decide +kernel
  have ends : EndsWith b m network args e := ⟨_, parsed, by decide +kernel⟩
  have ends' : EndsWith b m network args' e' := ⟨_, parsed', by decide +kernel⟩
  obtain ⟨plain, -, -, runs, scopes⟩ := faults_identify
  have apart := scopes b m network args _ parsed ⟨rfl, rfl, by decide⟩
    b m network args' _ parsed' ⟨rfl, rfl, by decide⟩ (by decide)
  exact ⟨(runs _ _ _ _ _ ends).1, (runs _ _ _ _ _ ends').1,
    (plain _ (Error.told_configuration _)).1, (plain _ (Error.told_configuration _)).1, apart⟩

end CpuIdentity.Program
