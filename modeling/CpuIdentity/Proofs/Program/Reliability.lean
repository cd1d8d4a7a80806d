import CpuIdentity.Proofs.Net.Session
import CpuIdentity.Proofs.Program.Runs

/-!
# Metrics that cannot fail

A configuration that passed the check of its scope gives an exporter, and an exporter is encoded
whatever was done with it before. So the branches for faults of the metrics are never taken, and no
client is told of a fault of the server.
-/

namespace CpuIdentity

open Exporter

theorem Config.create_eq_ok_iff {scope : Text} {hostname : Option Text} {c : Config} :
    create scope hostname = .ok c ↔ isScope scope = true ∧ c = ⟨scope, hostname⟩ := by
  cases h : isScope scope with
  | true => simp [create_of_isScope h, eq_comm]
  | false => simp [create_of_not_isScope h]

theorem Program.status_of_mem_execute {b : Version} {m : Machine} {network : Network} {args : List Text}
    {r : Response} (h : r ∈ (Program.execute b m network args).responses) :
    r.status ∈ [200, 404, 405] := by
  unfold Program.execute at h
  cases parsed : Arguments.parse args with
  | error rejection =>
    rw [parsed] at h
    cases h
  | ok a =>
    rw [parsed] at h
    obtain ⟨q, rfl⟩ := Program.eq_response_of_mem_run h
    exact Server.status_response (Program.encode_prepared b m a.scope) q

/-- The check accepts the scopes of its grammar and no other text. An exporter is created for every
    configuration that passed it, and for an unchecked one if the scope is empty or begins a metric
    name. Whatever is done with an exporter, it is encoded, its page is served with success and none of
    its requests makes a server error, nor does any in a run of the program. -/
theorem metrics_never_fail (b : Version) (scope : Text) (hostname : Option Text) :
    (∀ c, Config.create scope hostname = .ok c ↔
      scope ∈ Grammar.scope.matches' ∧ c = ⟨scope, hostname⟩) ∧
    (∀ c, Config.create scope hostname = .ok c → ∃ x, (Exporter.create b c).run.value = .ok x ∧
      ∀ ss, (∃ t, (x.steps ss).encode = .ok t) ∧
        (metricsPage (x.steps ss).encode).value.status = 200 ∧
        ∀ q, (Server.response b (x.steps ss) q).status ∈ [200, 404, 405]) ∧
    ((∃ x, (Exporter.create b ⟨scope, hostname⟩).run.value = .ok x) ↔
      scope = [] ∨ scope ∈ Grammar.metricName.matches') ∧
    (¬(scope = [] ∨ scope ∈ Grammar.metricName.matches') →
      ∃ cause, (Exporter.create b ⟨scope, hostname⟩).run.value = .error (.metric cause)) ∧
    (∀ x, (Exporter.create b ⟨scope, hostname⟩).run.value = .ok x →
      ∀ ss, ∃ t, (x.steps ss).encode = .ok t) ∧
    ∀ m network args, ∀ r ∈ (Program.execute b m network args).responses, r.status ≠ 500 := by
  have created (fits : fitsNames scope = true) :
      (Exporter.create b ⟨scope, hostname⟩).run.value =
        .ok (showing ⟨scope, hostname⟩ b none) :=
    value_create_eq_ok_iff.2 ⟨fits, rfl⟩
  refine ⟨fun c => ?_, fun c checked => ?_, ?_, fun other => ?_, fun x created ss => ?_, ?_⟩
  · rw [Config.create_eq_ok_iff, Grammar.isScope_iff]
  · obtain ⟨isScope, rfl⟩ := Config.create_eq_ok_iff.1 checked
    have created := created (Grammar.fitsNames_of_isScope isScope)
    refine ⟨_, created, fun ss => ?_⟩
    obtain ⟨t, encoded⟩ := encode_steps created ss
    refine ⟨⟨t, encoded⟩, ?_, Server.status_response encoded⟩
    rw [encoded]
    rfl
  · rw [← Grammar.fitsNames_iff]
    constructor
    · rintro ⟨x, hx⟩
      exact (value_create_eq_ok_iff.1 hx).1
    · intro fits
      exact ⟨_, created fits⟩
  · rw [← Grammar.fitsNames_iff, Bool.not_eq_true] at other
    rw [run_create_of_not_fitsNames other]
    exact ⟨_, rfl⟩
  · exact encode_steps created ss
  · intro m network args r answered failed
    have status := Program.status_of_mem_execute answered
    rw [failed] at status
    exact absurd status (by decide)

end CpuIdentity
