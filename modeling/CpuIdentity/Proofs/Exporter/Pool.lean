import CpuIdentity.Proofs.Exporter.Steps

/-!
# Exporters side by side

A command to one exporter of a pool changes no other exporter and learns nothing of it. So an exporter
answers in a pool as it would alone, whatever happens to the others between two of its commands. Whether
an exporter can be created depends on its settings alone, and a creation that fails changes nothing.
-/

namespace CpuIdentity.Pool

open Exposition (isMetricName)

/-- Taking an exporter out of a pool does not change what other identifiers have. -/
theorem get?_filter_of_ne {id id' : Text} (h : id' ≠ id) (p : Pool) :
    get? (p.filter fun e => e.1 ≠ id) id' = p.get? id' := by
  unfold get?
  induction p with
  | nil => rfl
  | cons e p ih =>
    obtain ⟨key, x⟩ := e
    by_cases hk : key = id
    · have other : (id' == key) = false := by
        rw [hk]
        exact beq_false_of_ne h
      rw [List.filter_cons_of_neg (by simpa using hk), ih, List.lookup_cons, other]
    · rw [List.filter_cons_of_pos (by simpa using hk), List.lookup_cons, List.lookup_cons, ih]

theorem get?_put (p : Pool) (id id' : Text) (x : Exporter) :
    (p.put id x).get? id' = if id' = id then some x else p.get? id' := by
  by_cases h : id' = id
  · rw [if_pos h, h]
    exact List.lookup_cons_self
  · have rest := get?_filter_of_ne h p
    rw [if_neg h, ← rest]
    unfold put get?
    rw [List.lookup_cons, beq_false_of_ne h]

variable (b : Version)

/-- What a command leaves to the exporter that it is addressed to. -/
def next (x : Option Exporter) (c : Command) : Option Exporter :=
  (act b x c).value.1.or x

/-- What is done for a command and the answer to it. -/
def told (x : Option Exporter) (c : Command) : Traced Effect Answer :=
  ⟨(act b x c).trace, (act b x c).value.2⟩

/-- The answers to commands where there is no more than one exporter. -/
def alone : Option Exporter → List Command → List (Traced Effect Answer)
  | _, [] => []
  | x, c :: cs => told b x c :: alone (next b x c) cs

theorem trace_step (p : Pool) (id : Text) (c : Command) :
    (p.step b id c).trace = (act b (p.get? id) c).trace := List.append_nil _

/-- A command leaves its own exporter what it would leave it alone, and others what they had. -/
theorem get?_step (p : Pool) (id id' : Text) (c : Command) :
    (p.step b id c).value.1.get? id' = if id' = id then next b (p.get? id) c else p.get? id' := by
  have pool : (p.step b id c).value.1 = ((act b (p.get? id) c).value.1.map (p.put id)).getD p := rfl
  rw [pool, next]
  cases (act b (p.get? id) c).value.1 with
  | none =>
    by_cases h : id' = id
    · rw [if_pos h, h]
      rfl
    · rw [if_neg h]
      rfl
  | some x => exact get?_put p id id' x

/-- The commands that are addressed to an exporter. -/
def commandsTo (id : Text) (cs : List (Text × Command)) : List Command :=
  (cs.filter fun c => c.1 = id).map Prod.snd

/-- Of the answers to commands, those that an exporter gives. -/
def answersTo (id : Text) (cs : List (Text × Command)) (as : List (Traced Effect Answer)) :
    List (Traced Effect Answer) :=
  ((cs.zip as).filter fun a => a.1.1 = id).map Prod.snd

/-- The pool after commands, taken first to last. -/
def after (p : Pool) (cs : List (Text × Command)) : Pool :=
  cs.foldl (fun q c => (q.step b c.1 c.2).value.1) p

theorem run_cons (p : Pool) (id : Text) (c : Command) (cs : List (Text × Command)) :
    p.run b ((id, c) :: cs) = told b (p.get? id) c :: (p.step b id c).value.1.run b cs := by
  have first : told b (p.get? id) c = ⟨(p.step b id c).trace, (p.step b id c).value.2⟩ := by
    rw [trace_step]
    rfl
  rw [first]
  rfl

theorem length_run (p : Pool) (cs : List (Text × Command)) : (p.run b cs).length = cs.length := by
  induction cs generalizing p with
  | nil => rfl
  | cons c cs ih => exact congrArg (· + 1) (ih _)

/-- In a pool an exporter answers as it would alone. -/
theorem answersTo_run (p : Pool) (cs : List (Text × Command)) (id : Text) :
    answersTo id cs (p.run b cs) = alone b (p.get? id) (commandsTo id cs) := by
  -- The pool changes with every command, the part that the exporter sees of it only with its own.
  induction cs generalizing p with
  | nil => rfl
  | cons c cs ih =>
    obtain ⟨id', c⟩ := c
    have rest := ih (p.step b id' c).value.1
    rw [get?_step] at rest
    unfold answersTo commandsTo at rest ⊢
    rw [run_cons, List.zip_cons_cons]
    by_cases h : id' = id
    · rw [if_pos h.symm] at rest
      rw [List.filter_cons_of_pos (by simpa using h), List.filter_cons_of_pos (by simpa using h)]
      rw [List.map_cons, List.map_cons, alone, rest, h]
    · rw [if_neg (Ne.symm h)] at rest
      rw [List.filter_cons_of_neg (by simpa using h), List.filter_cons_of_neg (by simpa using h)]
      exact rest

/-- Where all commands go to one exporter, all answers are its. -/
theorem answersTo_eq_self {id : Text} {cs : List (Text × Command)} (own : ∀ c ∈ cs, c.1 = id)
    {as : List (Traced Effect Answer)} (h : as.length = cs.length) : answersTo id cs as = as := by
  have all : ∀ a ∈ cs.zip as, decide (a.1.1 = id) = true := by
    intro a ha
    exact decide_eq_true (own a.1 (List.of_mem_zip ha).1)
  unfold answersTo
  rw [List.filter_eq_self.2 all, List.map_snd_zip (Nat.le_of_eq h)]

/-- What comes of creating an exporter from settings. -/
def creation (settings : Config.Settings) : Traced Effect (Except Error Exporter) :=
  (do Exporter.create b (← Config.ofSettings settings) : Run Exporter).run

/-- The answer to a creation, by what came of it. -/
def answerOf : Except Error Exporter → Answer
  | .ok x => shown x
  | .error cause => .failed cause

/-- The pool after a creation under an identifier: with what was made, or else as it was. -/
def keep (p : Pool) (id : Text) : Except Error Exporter → Pool
  | .ok x => p.put id x
  | .error _ => p

theorem act_create (x : Option Exporter) (settings : Config.Settings) :
    act b x (.create settings) =
      ⟨(creation b settings).trace, (creation b settings).value.toOption,
        answerOf (creation b settings).value⟩ := by
  unfold act
  show (creation b settings >>= _) = _
  cases creation b settings with
  | mk trace r => cases r <;> exact Traced.ext (List.append_nil _) rfl

theorem step_create (p : Pool) (id : Text) (settings : Config.Settings) :
    p.step b id (.create settings) =
      ⟨(creation b settings).trace, p.keep id (creation b settings).value,
        answerOf (creation b settings).value⟩ := by
  have result : (p.step b id (.create settings)).value =
      (((act b (p.get? id) (.create settings)).value.1.map (p.put id)).getD p,
        (act b (p.get? id) (.create settings)).value.2) := rfl
  apply Traced.ext
  · rw [trace_step, act_create]
  · rw [result, act_create]
    cases (creation b settings).value <;> rfl

/-- Creation goes on with the configuration that the settings give. -/
theorem creation_of_ok {settings : Config.Settings} {c : Config}
    (h : Config.ofSettings settings = .ok c) : creation b settings = (Exporter.create b c).run := by
  unfold creation
  rw [h, Run.liftM_ok, pure_bind]

theorem creation_of_error {settings : Config.Settings} {cause : Error}
    (h : Config.ofSettings settings = .error cause) : creation b settings = ⟨[], .error cause⟩ := by
  unfold creation
  rw [h, Run.liftM_error, Run.throw_bind]
  rfl

theorem creation_eq_ok_iff {settings : Config.Settings} {x : Exporter} :
    (creation b settings).value = .ok x ↔ ∃ c, Config.ofSettings settings = .ok c ∧
      (c.scope = [] ∨ isMetricName c.scope = true) ∧ x = .showing c b none := by
  cases h : Config.ofSettings settings with
  | error cause => simp [creation_of_error b h]
  | ok c =>
    rw [creation_of_ok b h, Exporter.value_create_eq_ok_iff]
    simp [Exporter.fitsNames]

/-- No registry that a creation uses has a metric before. -/
theorem creation_ne_registered (settings : Config.Settings) :
    (creation b settings).value ≠ .error (.metric .registered) := by
  cases h : Config.ofSettings settings with
  | error cause =>
    rw [creation_of_error b h]
    rintro ⟨⟩
    cases settings with
    | standard hostname => cases h
    | unchecked scope hostname => cases h
    | checked scope hostname =>
      rw [Config.ofSettings, Config.create] at h
      by_cases valid : Config.isScope scope = true
      · rw [if_pos valid] at h
        cases h
      · rw [if_neg valid] at h
        cases h
  | ok c =>
    rw [creation_of_ok b h]
    cases fits : Exporter.fitsNames c.scope with
    | true => simp [Exporter.run_create_of_fitsNames fits b]
    | false => simp [Exporter.run_create_of_not_fitsNames fits]

/-- The commands that create an exporter from the same settings under each of some identifiers. -/
def creations (settings : Config.Settings) (ids : List Text) : List (Text × Command) :=
  ids.map fun id => (id, .create settings)

/-- Creations from the same settings all come to the same. -/
theorem run_creations (p : Pool) (settings : Config.Settings) (ids : List Text) :
    p.run b (creations settings ids) =
      ids.map fun _ => ⟨(creation b settings).trace, answerOf (creation b settings).value⟩ := by
  induction ids generalizing p with
  | nil => rfl
  | cons id ids ih =>
    have rest := ih (p.step b id (.create settings)).value.1
    unfold creations at rest ⊢
    rw [List.map_cons, run_cons, rest, told, act_create, List.map_cons]

/-- The exporters that creations make are all there in the end. -/
theorem get?_after_creations {settings : Config.Settings} {x : Exporter}
    (made : (creation b settings).value = .ok x) (p : Pool) (ids : List Text) (id : Text) :
    (p.after b (creations settings ids)).get? id = if id ∈ ids then some x else p.get? id := by
  induction ids generalizing p with
  | nil => simp [after, creations]
  | cons id' ids ih =>
    have rest := ih (p.step b id' (.create settings)).value.1
    unfold after creations at rest ⊢
    rw [List.map_cons, List.foldl_cons, rest]
    by_cases later : id ∈ ids
    · rw [if_pos later, if_pos (List.mem_cons_of_mem id' later)]
    · rw [if_neg later, step_create, made]
      simp [keep, get?_put, later]

/-- An exporter answers as it does without the commands to the others, and a command leaves the others
    as they were. What comes of a creation is settled by its settings alone, and it is never that a
    metric is registered already: one that fails leaves the pool as it was, and one that succeeds
    succeeds under any number of identifiers. -/
theorem run_isolated (p : Pool) (cs : List (Text × Command)) :
    (p.run b cs).length = cs.length ∧
    (∀ id, answersTo id cs (p.run b cs) = p.run b (cs.filter fun c => c.1 = id)) ∧
    (∀ (q : Pool) id c id', id' ≠ id → (q.step b id c).value.1.get? id' = q.get? id') ∧
    ∀ settings,
      (∀ (q : Pool) id, q.step b id (.create settings) = ⟨(creation b settings).trace,
        q.keep id (creation b settings).value, answerOf (creation b settings).value⟩) ∧
      (creation b settings).value ≠ .error (.metric .registered) ∧
      (∀ x, (creation b settings).value = .ok x ↔ ∃ c, Config.ofSettings settings = .ok c ∧
        (c.scope = [] ∨ isMetricName c.scope = true) ∧ x = .showing c b none) ∧
      ∀ x, (creation b settings).value = .ok x → ∀ (q : Pool) ids,
        (∀ a ∈ q.run b (creations settings ids), a.value = shown x) ∧
        ∀ id ∈ ids, (q.after b (creations settings ids)).get? id = some x := by
  refine ⟨length_run b p cs, ?_, ?_, ?_⟩
  · intro id
    have own : ∀ c ∈ cs.filter (fun c => c.1 = id), c.1 = id := by
      intro c hc
      simpa using (List.mem_filter.1 hc).2
    have same : commandsTo id (cs.filter fun c => c.1 = id) = commandsTo id cs := by
      unfold commandsTo
      rw [List.filter_filter]
      simp only [Bool.and_self]
    rw [answersTo_run, ← same, ← answersTo_run]
    exact answersTo_eq_self own (length_run b p _)
  · intro q id c id' other
    rw [get?_step, if_neg other]
  · intro settings
    refine ⟨fun q id => step_create b q id settings, creation_ne_registered b settings,
      fun x => creation_eq_ok_iff b, ?_⟩
    intro x made q ids
    constructor
    · intro a ha
      rw [run_creations, made] at ha
      obtain ⟨id, -, rfl⟩ := List.mem_map.1 ha
      rfl
    · intro id member
      rw [get?_after_creations b made, if_pos member]

end CpuIdentity.Pool
