import CpuIdentity.Cpu.Host

/-!
# Computing runs

Equations that take a run apart: what each part leaves in the trace and what the rest goes on with. A
part that fails ends the run, and what it did stays in the trace. Most parts are silent: they ask and
log, but they write nothing and answer nobody.
-/

namespace CpuIdentity

variable {α β : Type}

namespace Run

theorem liftM_ok (a : α) : (liftM (Except.ok a : Except Error α) : Run α) = pure a := rfl

theorem liftM_error (e : Error) :
    (liftM (Except.error e : Except Error α) : Run α) = throw e := rfl

theorem throw_bind (e : Error) (f : α → Run β) : (throw e >>= f : Run β) = throw e := rfl

/-- A computation that cannot fail leaves its trace and its value in a run. -/
theorem run_liftM (x : Act α) : (liftM x : Run α).run = ⟨x.trace, .ok x.value⟩ :=
  Traced.ext (List.append_nil _) rfl

/-- After a part that succeeds the rest goes on with its value, and its trace follows. -/
theorem run_bind_of_ok {x : Run α} {trace : List Effect} {a : α} (h : x.run = ⟨trace, .ok a⟩)
    (f : α → Run β) : (x >>= f).run = ⟨trace ++ (f a).run.trace, (f a).run.value⟩ := by
  have same : x = ExceptT.mk ⟨trace, .ok a⟩ := h
  rw [same]
  rfl

/-- A part that fails ends the run, and its trace is all that is left. -/
theorem run_bind_of_error {x : Run α} {trace : List Effect} {e : Error}
    (h : x.run = ⟨trace, .error e⟩) (f : α → Run β) : (x >>= f).run = ⟨trace, .error e⟩ := by
  have same : x = ExceptT.mk ⟨trace, .error e⟩ := h
  rw [same]
  exact Traced.ext (List.append_nil _) rfl

/-- What is only made of the value of a run leaves its trace as it is. -/
theorem run_bind_pure (x : Run α) (f : α → β) :
    (x >>= fun a => pure (f a)).run = ⟨x.run.trace, x.run.value.map f⟩ := by
  cases h : x.run with
  | mk trace r =>
    cases r with
    | ok a =>
      rw [run_bind_of_ok h]
      exact Traced.ext (List.append_nil _) rfl
    | error e =>
      rw [run_bind_of_error h]
      rfl

end Run

namespace HostRun

variable {s s' : Option (Option Host)}

theorem run_liftM (x : Run α) (s : Option (Option Host)) :
    (liftM x : HostRun α).run s = x >>= fun a => pure (a, s) := rfl

/-- A part that does not look at the host leaves what is remembered of it. -/
theorem run_liftM_of_ok {x : Run α} {trace : List Effect} {a : α} (h : x.run = ⟨trace, .ok a⟩)
    (s : Option (Option Host)) :
    ((liftM x : HostRun α).run s).run = ⟨trace, .ok (a, s)⟩ := by
  rw [run_liftM, Run.run_bind_of_ok h]
  exact Traced.ext (List.append_nil _) rfl

theorem run_liftM_of_error {x : Run α} {trace : List Effect} {e : Error}
    (h : x.run = ⟨trace, .error e⟩) (s : Option (Option Host)) :
    ((liftM x : HostRun α).run s).run = ⟨trace, .error e⟩ := by
  rw [run_liftM, Run.run_bind_of_error h]

/-- The rest goes on with the value of a part, and with what that part remembers of the host. -/
theorem run_bind_of_ok {x : HostRun α} {trace : List Effect} {a : α}
    (h : (x.run s).run = ⟨trace, .ok (a, s')⟩) (f : α → HostRun β) :
    ((x >>= f).run s).run =
      ⟨trace ++ ((f a).run s').run.trace, ((f a).run s').run.value⟩ := by
  rw [StateT.run_bind, Run.run_bind_of_ok h]

/-- A part that fails ends the run, whatever it remembers of the host. -/
theorem run_bind_of_error {x : HostRun α} {trace : List Effect} {e : Error}
    (h : (x.run s).run = ⟨trace, .error e⟩) (f : α → HostRun β) :
    ((x >>= f).run s).run = ⟨trace, .error e⟩ := by
  rw [StateT.run_bind, Run.run_bind_of_error h]

/-- What a run remembers of the host is given up at its end. -/
theorem run_run' {x : HostRun α} {trace : List Effect}
    {r : Except Error (α × Option (Option Host))} (h : (x.run s).run = ⟨trace, r⟩) :
    (x.run' s).run = ⟨trace, r.map Prod.fst⟩ := by
  have same : x.run s = ExceptT.mk ⟨trace, r⟩ := h
  rw [StateT.run'_eq, same]
  cases r with
  | ok r => exact Traced.ext (List.append_nil _) rfl
  | error e => exact Traced.ext (List.append_nil _) rfl

end HostRun

namespace Effect

variable {t t' : List Effect}

theorem output_append (t t' : List Effect) : output (t ++ t') = output t ++ output t' := by
  rw [output, List.filterMap_append, List.flatten_append]
  rfl

theorem responses_append (t t' : List Effect) :
    responses (t ++ t') = responses t ++ responses t' := List.filterMap_append

theorem events_append (t t' : List Effect) : events (t ++ t') = events t ++ events t' :=
  List.filterMap_append

theorem queries_append (t t' : List Effect) : queries (t ++ t') = queries t ++ queries t' :=
  List.filterMap_append

/-- What the log says of the events of a trace: the level and the wording of each. -/
def entries (t : List Effect) : List (Level × Text) := (events t).map fun e => (e.level, e.message)

/-- The log of two traces in sequence is the first log followed by the second. -/
theorem entries_append (t t' : List Effect) : entries (t ++ t') = entries t ++ entries t' := by
  rw [entries, events_append, List.map_append]
  rfl

/-- A trace without output and without responses. -/
def Silent (t : List Effect) : Prop := ∀ e ∈ t, e.text? = none ∧ e.response? = none

theorem silent_nil : Silent [] := fun _ he => absurd he List.not_mem_nil

theorem Silent.logged (h : Silent t) (event : Event) : Silent (.logged event :: t) :=
  List.forall_mem_cons.2 ⟨⟨rfl, rfl⟩, h⟩

theorem Silent.cpuid (h : Silent t) (leaf subleaf : UInt32) : Silent (.cpuid leaf subleaf :: t) :=
  List.forall_mem_cons.2 ⟨⟨rfl, rfl⟩, h⟩

theorem Silent.hostname (h : Silent t) : Silent (.hostname :: t) :=
  List.forall_mem_cons.2 ⟨⟨rfl, rfl⟩, h⟩

/-- Traces in sequence are silent if each of them is. -/
theorem Silent.append (h : Silent t) (h' : Silent t') : Silent (t ++ t') :=
  List.forall_mem_append.2 ⟨h, h'⟩

theorem Silent.output_eq (h : Silent t) : output t = [] := by
  rw [output, List.filterMap_eq_nil_iff.2 fun e he => (h e he).1]
  rfl

theorem Silent.responses_eq (h : Silent t) : responses t = [] :=
  List.filterMap_eq_nil_iff.2 fun e he => (h e he).2

/-- A silent start adds nothing to the output. -/
theorem Silent.output_append (h : Silent t) (t' : List Effect) : output (t ++ t') = output t' := by
  rw [Effect.output_append, h.output_eq, List.nil_append]

/-- A silent start adds nothing to the responses. -/
theorem Silent.responses_append (h : Silent t) (t' : List Effect) :
    responses (t ++ t') = responses t' := by
  rw [Effect.responses_append, h.responses_eq, List.nil_append]

/-- A trace told by what it logs and by what it asks the processor. -/
structure Tells (t : List Effect) (es : List (Level × Text)) (qs : List (UInt32 × UInt32)) :
    Prop where
  entries : entries t = es
  queries : queries t = qs

variable {es es' : List (Level × Text)} {qs qs' : List (UInt32 × UInt32)}

theorem tells_nil : Tells [] [] [] := ⟨rfl, rfl⟩

/-- An event comes first in the log, by its level and its wording. -/
theorem Tells.logged (h : Tells t es qs) (event : Event) :
    Tells (.logged event :: t) ((event.level, event.message) :: es) qs :=
  ⟨congrArg _ h.entries, h.queries⟩

/-- A question to the processor comes first among the questions, and the log stays as it is. -/
theorem Tells.cpuid (h : Tells t es qs) (leaf subleaf : UInt32) :
    Tells (.cpuid leaf subleaf :: t) es ((leaf, subleaf) :: qs) :=
  ⟨h.entries, congrArg _ h.queries⟩

theorem Tells.hostname (h : Tells t es qs) : Tells (.hostname :: t) es qs :=
  ⟨h.entries, h.queries⟩

theorem Tells.written (h : Tells t es qs) (text : Text) : Tells (.written text :: t) es qs :=
  ⟨h.entries, h.queries⟩

theorem Tells.answered (h : Tells t es qs) (r : Response) : Tells (.answered r :: t) es qs :=
  ⟨h.entries, h.queries⟩

/-- Of two traces in sequence the logs are told in sequence, and so are the questions. -/
theorem Tells.append (h : Tells t es qs) (h' : Tells t' es' qs') :
    Tells (t ++ t') (es ++ es') (qs ++ qs') where
  entries := by rw [entries_append, h.entries, h'.entries]
  queries := by rw [queries_append, h.queries, h'.queries]

end Effect

end CpuIdentity
