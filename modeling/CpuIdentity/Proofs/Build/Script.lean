import CpuIdentity.Build.Script
import CpuIdentity.Proofs.Utf8

/-!
# What the build script prints

The script prints three groups of lines: which variables it depends on, which files move with the head,
and the three values that are built in. Each value comes from the first of its sources that has one.
Where the environment has the branch and the commit, the version control program has no say in them.
-/

namespace CpuIdentity

namespace BuildScript

variable {s : Surroundings}

/-- A variable is set to a text, the empty one included: it holds the bytes of the text. -/
def IsSet (s : Surroundings) (v : Variable) (t : Text) : Prop :=
  s.environment v = some (Utf8.encode t)

/-- The version control program succeeds and says a text, with or without blanks around it. -/
def Says (s : Surroundings) (args : List Text) (t : Text) : Prop :=
  ∃ said, s.call args = some ⟨true, Utf8.encode said⟩ ∧ Text.trim said = t

/-- The text that comes from the first of some sources that has one; empty if none has. -/
def FirstOf : List (Text → Prop) → Text → Prop
  | [], t => t = []
  | source :: sources, t => source t ∨ (∀ u, ¬source u) ∧ FirstOf sources t

/-- A variable has a value exactly if it is set to a text. -/
theorem value?_eq_some_iff {v : Variable} {t : Text} : value? s v = some t ↔ IsSet s v t := by
  unfold value? IsSet
  cases s.environment v with
  | none => simp
  | some bytes =>
    rw [Option.bind_some, Utf8.decode?_eq_some_iff, Option.some.injEq]
    exact eq_comm

/-- The version control program has an output exactly if it says a text. -/
theorem outputOf?_eq_some_iff {args : List Text} {t : Text} :
    outputOf? s args = some t ↔ Says s args t := by
  unfold outputOf? Says
  cases s.call args with
  | none => simp
  | some result =>
    obtain ⟨succeeded, output⟩ := result
    cases succeeded with
    | false => simp
    | true =>
      simp only [if_true, Option.map_eq_some_iff, Utf8.decode?_eq_some_iff, Option.some.injEq,
        CallResult.mk.injEq, true_and]
      constructor
      · rintro ⟨said, rfl, trimmed⟩
        exact ⟨said, rfl, trimmed⟩
      · rintro ⟨said, rfl, trimmed⟩
        exact ⟨said, rfl, trimmed⟩

/-- A source that gives something comes first; one that gives nothing is passed over. -/
theorem firstOf_getD {source : Text → Prop} {sources : List (Text → Prop)} {o : Option Text}
    {rest : Text} (gives : ∀ t, o = some t ↔ source t) (h : FirstOf sources rest) :
    FirstOf (source :: sources) (o.getD rest) := by
  cases o with
  | none =>
    refine .inr ⟨fun t has => ?_, h⟩
    cases (gives t).2 has
  | some t => exact .inl ((gives t).1 rfl)

/-- The version is the one that was set, or else that of the package. -/
theorem firstOf_version (s : Surroundings) :
    FirstOf [IsSet s .version, IsSet s .packageVersion] (version s) := by
  have both : version s = (value? s .version).getD ((value? s .packageVersion).getD []) := by
    unfold version
    cases value? s .version <;> rfl
  rw [both]
  exact firstOf_getD (fun _ => value?_eq_some_iff) (firstOf_getD (fun _ => value?_eq_some_iff) rfl)

-- A variable that is set to nothing is set, and the next source is not looked at.
example : version ⟨fun | .version => some [] | _ => some [0x31], fun _ => none, fun _ => false⟩ = [] :=
  by decide +kernel

theorem valueOrAsk_value (s : Surroundings) (v : Variable) (query : List Text) :
    (valueOrAsk s v query).value = (value? s v).getD ((outputOf? s query).getD []) := by
  unfold valueOrAsk
  cases value? s v <;> rfl

/-- A value is the one that was set, or else what the version control program says. -/
theorem firstOf_valueOrAsk (s : Surroundings) (v : Variable) (query : List Text) :
    FirstOf [IsSet s v, Says s query] (valueOrAsk s v query).value := by
  rw [valueOrAsk_value]
  exact firstOf_getD (fun _ => value?_eq_some_iff)
    (firstOf_getD (fun _ => outputOf?_eq_some_iff) rfl)

/-- A value that is set is the value, and nobody is asked for it. -/
theorem valueOrAsk_of_isSet {v : Variable} {t : Text} (h : IsSet s v t) (query : List Text) :
    valueOrAsk s v query = pure t := by
  rw [valueOrAsk, value?_eq_some_iff.2 h]

/-- The version depends on the environment alone. -/
theorem version_congr {s' : Surroundings} (same : s'.environment = s.environment) :
    version s' = version s := by
  rw [version, version, value?, value?, value?, value?, same]

theorem lines_append (t t' : List Action) : lines (t ++ t') = lines t ++ lines t' :=
  List.filterMap_append

theorem calls_append (t t' : List Action) : calls (t ++ t') = calls t ++ calls t' :=
  List.filterMap_append

theorem lines_printAll (ls : List Text) : lines (printAll ls).trace = ls := by
  induction ls with
  | nil => rfl
  | cons l ls ih => exact congrArg (l :: ·) ih

theorem calls_printAll (ls : List Text) : calls (printAll ls).trace = [] := by
  induction ls with
  | nil => rfl
  | cons l ls ih => exact ih

theorem lines_valueOrAsk (s : Surroundings) (v : Variable) (query : List Text) :
    lines (valueOrAsk s v query).trace = [] := by
  unfold valueOrAsk
  cases value? s v <;> rfl

/-- The path of the file behind the reference that the head points to, as far as it is told. -/
def referencePath? (s : Surroundings) : Option Text :=
  (headReference? ((outputOf? s headQuery).getD [])).bind fun reference =>
    outputOf? s (pathQuery reference)

/-- The paths of the files that move with the head, as far as they are told. -/
def movingPaths (s : Surroundings) : List Text :=
  match outputOf? s (pathQuery "HEAD") with
  | none => []
  | some head => head :: (referencePath? s).toList ++ (outputOf? s (pathQuery "packed-refs")).toList

/-- The lines that have the script run again when the head moves. -/
def watchLines (s : Surroundings) : List Text := pathDirectives s.present (movingPaths s)

theorem referencePath_value (s : Surroundings) : (referencePath s).value = referencePath? s := by
  unfold referencePath referencePath?
  simp only [Traced.value_bind, ask, Traced.value_pure]
  cases headReference? ((outputOf? s headQuery).getD []) <;> rfl

theorem lines_referencePath (s : Surroundings) : lines (referencePath s).trace = [] := by
  unfold referencePath
  rw [Traced.trace_bind, lines_append]
  cases headReference? ((ask s headQuery).value.getD []) <;> rfl

/-- What is printed for the head are the lines of the paths that move with it. -/
theorem lines_watchHead (s : Surroundings) : lines (watchHead s).trace = watchLines s := by
  unfold watchHead watchLines movingPaths
  rw [Traced.trace_bind, lines_append]
  have asked (args : List Text) : lines (ask s args).trace = [] := rfl
  have told (args : List Text) : (ask s args).value = outputOf? s args := rfl
  rw [asked, told]
  cases outputOf? s (pathQuery "HEAD") with
  | none => rfl
  | some head =>
    simp only [Traced.trace_bind, lines_append, lines_referencePath, asked, told,
      referencePath_value, lines_printAll, List.nil_append]

/-- The lines that have the script run again when one of its variables changes. -/
def variableLines : List Text :=
  (["POWERTELEMETRY_VERSION", "POWERTELEMETRY_GIT_BRANCH", "POWERTELEMETRY_GIT_COMMIT"] :
    List Text).map fun name => "cargo:rerun-if-env-changed=" ++ name

/-- The lines that build in a version, a branch and a commit. -/
def valueLines (version branch commit : Text) : List Text :=
  ([("POWERTELEMETRY_VERSION", version), ("POWERTELEMETRY_GIT_BRANCH", branch),
    ("POWERTELEMETRY_GIT_COMMIT", commit)] : List (Text × Text)).map fun value =>
      "cargo:rustc-env=" ++ value.1 ++ "=" ++ value.2

/-- All lines of the script: the variables, the paths that move with the head, and the values. -/
theorem lines_run (s : Surroundings) :
    lines (run s).trace = variableLines ++ watchLines s ++
      valueLines (version s) (branchName (valueOrAsk s .branch branchQuery).value)
        (valueOrAsk s .commit commitQuery).value := by
  unfold run
  simp only [Traced.trace_bind, lines_append, lines_printAll, lines_watchHead, lines_valueOrAsk,
    List.nil_append, List.append_assoc]
  rfl

/-- Where the environment has the branch and the commit, the version control program is asked for
    nothing but the files that move with the head. -/
theorem calls_run_of_isSet {branch commit : Text} (hb : IsSet s .branch branch)
    (hc : IsSet s .commit commit) : calls (run s).trace = calls (watchHead s).trace := by
  unfold run
  rw [valueOrAsk_of_isSet hb, valueOrAsk_of_isSet hc]
  simp only [Traced.trace_bind, calls_append, calls_printAll]
  exact List.append_nil _

/-- The script ends without a fault. It prints the lines for its variables, the lines for the files that
    move with the head, and the three values. Each value is that of the first of its sources that has
    one, and empty without one: two variables for the version, a variable or else the version control
    program for the branch and for the commit, and of the branch only the name. A branch and a commit
    that are set are built in whatever the version control program says, which is not asked for them. -/
theorem report_eq (s : Surroundings) :
    ∃ version branch commit : Text,
      FirstOf [IsSet s .version, IsSet s .packageVersion] version ∧
      FirstOf [IsSet s .branch, Says s ["rev-parse", "--abbrev-ref", "HEAD"]] branch ∧
      FirstOf [IsSet s .commit, Says s ["rev-parse", "--short", "HEAD"]] commit ∧
      report s = ⟨0, (variableLines ++ watchLines s ++
        valueLines version (branchName branch) commit).flatMap Text.line⟩ ∧
      ∀ b c, IsSet s .branch b → IsSet s .commit c → ∀ s', s'.environment = s.environment →
        report s' = ⟨0, (variableLines ++ watchLines s' ++
          valueLines version (branchName b) c).flatMap Text.line⟩ ∧
        calls (run s').trace = calls (watchHead s').trace := by
  refine ⟨version s, (valueOrAsk s .branch branchQuery).value,
    (valueOrAsk s .commit commitQuery).value, firstOf_version s, firstOf_valueOrAsk s _ _,
    firstOf_valueOrAsk s _ _, ?_, ?_⟩
  · rw [report, output, lines_run]
  · intro b c hb hc s' same
    have hb' : IsSet s' .branch b := by rw [IsSet, same]; exact hb
    have hc' : IsSet s' .commit c := by rw [IsSet, same]; exact hc
    refine ⟨?_, calls_run_of_isSet hb' hc'⟩
    rw [report, output, lines_run, version_congr same, valueOrAsk_of_isSet hb',
      valueOrAsk_of_isSet hc']
    rfl

end BuildScript

end CpuIdentity
