import CpuIdentity.Proofs.Build.Script

/-!
# The script as its reader sees it

The builder reads what the script prints line by line: each line is one directive, and a value is all
that follows its name on the line. The script prints its values as they are. So they arrive exactly if
none of them has a line feed in it; a line feed cuts its value short, and what follows it is read as a
directive of its own.
-/

namespace CpuIdentity

namespace BuildScript

/-- The lines of a text, without the line feeds that end them. The last one may lack its line feed. -/
def readLines (t : Text) : List Text :=
  if (t.splitOn '\n').getLast? = some [] then (t.splitOn '\n').dropLast else t.splitOn '\n'

/-- What a line tells the builder. -/
inductive Directive where
  | value (name value : Text)
  | rerunForVariable (name : Text)
  | rerunForPath (path : Text)
  deriving DecidableEq, Repr

/-- What stands before the first equals sign and what follows it, if there is one. -/
def assignment? (t : Text) : Option (Text × Text) :=
  match t.dropWhile (· ≠ '=') with
  | [] => none
  | _ :: rest => some (t.takeWhile (· ≠ '='), rest)

/-- The directive on a line, if the line is one. -/
def readDirective? (l : Text) : Option Directive :=
  ((Text.dropLead? "cargo:rustc-env=" l).bind assignment?).map (fun a => .value a.1 a.2) <|>
  (Text.dropLead? "cargo:rerun-if-env-changed=" l).map .rerunForVariable <|>
  (Text.dropLead? "cargo:rerun-if-changed=" l).map .rerunForPath

/-- The value that a directive builds in, after its name. -/
def Directive.value? : Directive → Option (Text × Text)
  | .value name given => some (name, given)
  | _ => none

/-- The value that a line builds in, after its name. -/
def lineValue? (l : Text) : Option (Text × Text) := (readDirective? l).bind Directive.value?

/-- A line that only says when to run the script again. -/
def IsRerun (l : Text) : Prop :=
  (∃ name, readDirective? l = some (.rerunForVariable name)) ∨
  ∃ path, readDirective? l = some (.rerunForPath path)

/-- A text delivers values under names: each of them is the value of a line of its own, no other line
    has a value, and all other lines only say when to run the script again. -/
structure Delivers (t : Text) (values : List (Text × Text)) : Prop where
  values : ((readLines t).filterMap lineValue?).Perm values
  others : ∀ l ∈ readLines t, lineValue? l = none → IsRerun l

theorem splitOn_flatMap_line (ls : List Text) :
    (ls.flatMap Text.line).splitOn '\n' = ls.flatMap (List.splitOn '\n') ++ [[]] := by
  induction ls with
  | nil => rfl
  | cons l ls ih =>
    have first : (l :: ls).flatMap Text.line = l ++ '\n' :: ls.flatMap Text.line := by
      simp [Text.line]
    rw [first, List.splitOn_append_cons_self, ih, List.flatMap_cons, List.append_assoc]

/-- A line that has line feeds in it is read as so many lines more. -/
theorem readLines_flatMap_line (ls : List Text) :
    readLines (ls.flatMap Text.line) = ls.flatMap (List.splitOn '\n') := by
  unfold readLines
  rw [splitOn_flatMap_line, if_pos List.getLast?_concat, List.dropLast_concat]

/-- No line has the line feed in it that ends it. -/
theorem newline_not_mem_of_mem_splitOn {t l : Text} (h : l ∈ t.splitOn '\n') : '\n' ∉ l := by
  induction t generalizing l with
  | nil =>
    rw [List.splitOn_nil, List.mem_singleton] at h
    rw [h]
    exact List.not_mem_nil
  | cons c t ih =>
    rw [List.splitOn_cons_eq_if_modifyHead] at h
    by_cases hc : c = '\n'
    · rw [if_pos (by simpa using hc)] at h
      rcases List.mem_cons.1 h with rfl | h
      · exact List.not_mem_nil
      · exact ih h
    · rw [if_neg (by simpa using hc)] at h
      cases parts : t.splitOn '\n' with
      | nil => exact absurd parts (List.splitOn_ne_nil '\n' t)
      | cons first rest =>
        rw [parts, List.modifyHead_cons] at h
        rcases List.mem_cons.1 h with rfl | h
        · have tail := ih (parts ▸ List.mem_cons_self)
          intro member
          rcases List.mem_cons.1 member with same | member
          · exact hc same.symm
          · exact tail member
        · exact ih (parts ▸ List.mem_cons_of_mem first h)

/-- What has no line feed goes to the front of the first line. -/
theorem splitOn_append_of_not_mem {front : Text} (h : '\n' ∉ front) {t first : Text}
    {rest : List Text} (parts : t.splitOn '\n' = first :: rest) :
    (front ++ t).splitOn '\n' = (front ++ first) :: rest := by
  induction front with
  | nil => exact parts
  | cons c front ih =>
    have hc : ¬(c == '\n') = true := by
      intro same
      exact h (List.mem_cons.2 (.inl (eq_of_beq same).symm))
    have tail := ih fun member => h (List.mem_cons_of_mem c member)
    rw [List.cons_append, List.splitOn_cons_eq_if_modifyHead, if_neg hc, tail, List.modifyHead_cons]
    rfl

theorem readDirective?_variable (v : Variable) :
    readDirective? (variableDirective v) = some (.rerunForVariable v.name) := by
  cases v <;> rfl

theorem readDirective?_path (path : Text) :
    readDirective? (pathDirective path) = some (.rerunForPath path) := by
  unfold readDirective? pathDirective
  rw [Text.dropLead?_append]
  rfl

/-- A name without an equals sign is read back from before its value. -/
theorem assignment?_append {name : Text} (h : '=' ∉ name) (value : Text) :
    assignment? (name ++ "=" ++ value) = some (name, value) := by
  have before := Text.all_ne_of_not_mem h
  unfold assignment?
  rw [List.append_assoc, List.dropWhile_append_of_pos before, List.takeWhile_append_of_pos before]
  show some (name ++ [], value) = _
  rw [List.append_nil]

theorem eq_append_of_assignment? {t name value : Text} (h : assignment? t = some (name, value)) :
    t = name ++ "=" ++ value := by
  have parts := List.takeWhile_append_dropWhile (p := fun c => decide (c ≠ '=')) (l := t)
  unfold assignment? at h
  split at h
  case h_1 => cases h
  case h_2 c rest found =>
    have first := List.head?_dropWhile_not (fun c => decide (c ≠ '=')) t
    rw [found] at first parts
    cases h
    have equals : c = '=' := by simpa using first
    rw [equals] at parts
    rw [List.append_assoc]
    exact parts.symm

/-- A line that hands a value over tells its name and the value. -/
theorem lineValue?_value (v : Variable) (value : Text) :
    lineValue? (valueDirective v value) = some (v.name, value) := by
  have plain : '=' ∉ v.name := by
    cases v <;> decide
  -- The lead is named, since matching one literal text against another would spell them out.
  have grouped (lead : Text) : lead ++ v.name ++ "=" ++ value = lead ++ (v.name ++ "=" ++ value) := by
    simp
  have shape : valueDirective v value = _ := grouped "cargo:rustc-env="
  have given : (Text.dropLead? "cargo:rustc-env=" (valueDirective v value)).bind assignment? =
      some (v.name, value) := by
    rw [shape, Text.dropLead?_append]
    exact assignment?_append plain value
  unfold lineValue? readDirective?
  rw [given]
  rfl

/-- Nothing of a value is lost or added by its line. -/
theorem eq_append_of_lineValue? {l name value : Text} (h : lineValue? l = some (name, value)) :
    l = "cargo:rustc-env=" ++ (name ++ "=" ++ value) := by
  unfold lineValue? readDirective? at h
  cases given : (Text.dropLead? "cargo:rustc-env=" l).bind assignment? with
  | none =>
    rw [given] at h
    cases first : Text.dropLead? "cargo:rerun-if-env-changed=" l with
    | none =>
      cases second : Text.dropLead? "cargo:rerun-if-changed=" l with
      | none =>
        rw [first, second] at h
        cases h
      | some path =>
        rw [first, second] at h
        cases h
    | some name =>
      rw [first] at h
      cases h
  | some a =>
    rw [given] at h
    obtain ⟨rest, lead, assigned⟩ := Option.bind_eq_some_iff.1 given
    have same : a = (name, value) := Option.some.inj h
    rw [same] at assigned
    rw [Text.eq_append_of_dropLead? lead, eq_append_of_assignment? assigned]

theorem IsRerun.lineValue?_eq_none {l : Text} (h : IsRerun l) : lineValue? l = none := by
  rcases h with ⟨name, h⟩ | ⟨path, h⟩
  · rw [lineValue?, h]
    rfl
  · rw [lineValue?, h]
    rfl

/-! ## What arrives -/

/-- The values that the builder reads off lines, each after its name. -/
def arriving (ls : List Text) : List (Text × Text) :=
  (ls.flatMap (List.splitOn '\n')).filterMap lineValue?

theorem arriving_append (ls ls' : List Text) :
    arriving (ls ++ ls') = arriving ls ++ arriving ls' := by
  simp only [arriving, List.flatMap_append, List.filterMap_append]

/-- A value that arrives has no line feed in it. -/
theorem newline_not_mem_of_mem_arriving {ls : List Text} {name value : Text}
    (h : (name, value) ∈ arriving ls) : '\n' ∉ value := by
  obtain ⟨l, member, given⟩ := List.mem_filterMap.1 h
  obtain ⟨whole, -, part⟩ := List.mem_flatMap.1 member
  have single := newline_not_mem_of_mem_splitOn part
  rw [eq_append_of_lineValue? given] at single
  intro inside
  exact single (List.mem_append_right _ (List.mem_append_right _ inside))

theorem splitOn_variableDirective (v : Variable) :
    (variableDirective v).splitOn '\n' = [variableDirective v] := by
  apply List.splitOn_eq_singleton
  cases v <;> decide

/-- Of what follows a text on its line, only the first line stays there. -/
theorem exists_splitOn_append {front : Text} (h : '\n' ∉ front) (t : Text) :
    ∃ first, (front ++ t).splitOn '\n' = (front ++ first) :: (t.splitOn '\n').tail := by
  cases parts : t.splitOn '\n' with
  | nil => exact absurd parts (List.splitOn_ne_nil '\n' t)
  | cons first rest => exact ⟨first, splitOn_append_of_not_mem h parts⟩

/-- Of a value with line feeds in it the directive takes the first line only. -/
theorem splitOn_valueDirective (v : Variable) (value : Text) :
    ∃ first, (valueDirective v value).splitOn '\n' =
      valueDirective v first :: (value.splitOn '\n').tail := by
  have front : '\n' ∉ ("cargo:rustc-env=" ++ v.name ++ "=" : Text) := by
    cases v <;> decide
  exact exists_splitOn_append front value

theorem splitOn_valueDirective_of_not_mem (v : Variable) {value : Text} (h : '\n' ∉ value) :
    (valueDirective v value).splitOn '\n' = [valueDirective v value] := by
  have front : '\n' ∉ ("cargo:rustc-env=" ++ v.name ++ "=" : Text) := by
    cases v <;> decide
  exact splitOn_append_of_not_mem front (List.splitOn_eq_singleton h)

/-- Of a path with line feeds in it the directive takes the first line only. -/
theorem splitOn_pathDirective (path : Text) :
    ∃ first, (pathDirective path).splitOn '\n' =
      pathDirective first :: (path.splitOn '\n').tail := by
  have front : '\n' ∉ ("cargo:rerun-if-changed=" : Text) := by decide
  exact exists_splitOn_append front path

theorem splitOn_pathDirective_of_not_mem {path : Text} (h : '\n' ∉ path) :
    (pathDirective path).splitOn '\n' = [pathDirective path] := by
  have front : '\n' ∉ ("cargo:rerun-if-changed=" : Text) := by decide
  exact splitOn_append_of_not_mem front (List.splitOn_eq_singleton h)

theorem arriving_variables (vs : List Variable) : arriving (vs.map variableDirective) = [] := by
  refine List.filterMap_eq_nil_iff.2 fun l hl => ?_
  obtain ⟨whole, hw, part⟩ := List.mem_flatMap.1 hl
  obtain ⟨v, -, rfl⟩ := List.mem_map.1 hw
  rw [splitOn_variableDirective, List.mem_singleton] at part
  rw [part]
  exact IsRerun.lineValue?_eq_none (.inl ⟨_, readDirective?_variable v⟩)

/-- Values without line feeds arrive as they are. -/
theorem arriving_values {vs : List (Variable × Text)} (h : ∀ v ∈ vs, '\n' ∉ v.2) :
    arriving (vs.map fun v => valueDirective v.1 v.2) = vs.map fun v => (v.1.name, v.2) := by
  induction vs with
  | nil => rfl
  | cons v vs ih =>
    have rest := ih fun v' hv' => h v' (List.mem_cons_of_mem v hv')
    have first := splitOn_valueDirective_of_not_mem v.1 (h v List.mem_cons_self)
    unfold arriving at rest ⊢
    rw [List.map_cons, List.flatMap_cons, first, List.singleton_append,
      List.filterMap_cons_some (lineValue?_value v.1 v.2), rest, List.map_cons]

/-- The first line of a path only says when to run the script again. -/
theorem isRerun_of_mem_splitOn_path {path l : Text} (later : ∀ l ∈ (path.splitOn '\n').tail, IsRerun l)
    (h : l ∈ (pathDirective path).splitOn '\n') : IsRerun l := by
  obtain ⟨first, parts⟩ := splitOn_pathDirective path
  rw [parts] at h
  rcases List.mem_cons.1 h with rfl | h
  · exact .inr ⟨first, readDirective?_path first⟩
  · exact later l h

/-- The paths of the files that move with the head, as far as they are told and something is there. -/
def watchedPaths (s : Surroundings) : List Text := (movingPaths s).filter s.present

section Delivery

variable {vars : List Variable} {paths : List Text} {vs : List (Variable × Text)}

/-- The lines for variables, for paths and for values, in this order. -/
def directiveLines (vars : List Variable) (paths : List Text) (vs : List (Variable × Text)) :
    List Text :=
  vars.map variableDirective ++ paths.map pathDirective ++ vs.map fun v => valueDirective v.1 v.2

/-- The values as they are given, each after its name. -/
def givenValues (vs : List (Variable × Text)) : List (Text × Text) :=
  vs.map fun v => (v.1.name, v.2)

/-- Values without line feeds arrive after whatever the paths bring. -/
theorem arriving_directiveLines (single : ∀ v ∈ vs, '\n' ∉ v.2) :
    arriving (directiveLines vars paths vs) =
      arriving (paths.map pathDirective) ++ givenValues vs := by
  unfold directiveLines
  rw [arriving_append, arriving_append, arriving_variables, arriving_values single]
  rfl

/-- A value that is delivered has no line feed, since no line that is read has one. -/
theorem Delivers.single
    (h : Delivers ((directiveLines vars paths vs).flatMap Text.line) (givenValues vs)) :
    ∀ v ∈ vs, '\n' ∉ v.2 := by
  intro v hv
  have arrives : (v.1.name, v.2) ∈ givenValues vs := List.mem_map_of_mem hv
  have read := h.values.mem_iff.2 arrives
  rw [readLines_flatMap_line] at read
  exact newline_not_mem_of_mem_arriving read

/-- The values arrive by lines of their own, so that nothing is left for the paths to bring. -/
theorem Delivers.later
    (h : Delivers ((directiveLines vars paths vs).flatMap Text.line) (givenValues vs)) :
    ∀ path ∈ paths, ∀ l ∈ (path.splitOn '\n').tail, IsRerun l := by
  intro path member l later
  have none : arriving (paths.map pathDirective) = [] := by
    have same := h.values.length_eq
    have parts : arriving (directiveLines vars paths vs) = _ := arriving_directiveLines h.single
    rw [readLines_flatMap_line] at same
    have count := (congrArg List.length parts).symm.trans same
    rw [List.length_append] at count
    exact List.eq_nil_of_length_eq_zero (by omega)
  obtain ⟨first, parts⟩ := splitOn_pathDirective path
  have part : l ∈ (paths.map pathDirective).flatMap (List.splitOn '\n') := by
    refine List.mem_flatMap.2 ⟨_, List.mem_map_of_mem member, ?_⟩
    rw [parts]
    exact List.mem_cons_of_mem _ later
  apply h.others l
  · rw [readLines_flatMap_line]
    unfold directiveLines
    rw [List.flatMap_append, List.flatMap_append]
    exact List.mem_append_left _ (List.mem_append_right _ part)
  · exact List.filterMap_eq_nil_iff.1 none l part

/-- Values without line feeds are delivered if the paths bring none. -/
theorem delivers_of_single (single : ∀ v ∈ vs, '\n' ∉ v.2)
    (later : ∀ path ∈ paths, ∀ l ∈ (path.splitOn '\n').tail, IsRerun l) :
    Delivers ((directiveLines vars paths vs).flatMap Text.line) (givenValues vs) := by
  have rerun : ∀ l ∈ (paths.map pathDirective).flatMap (List.splitOn '\n'), IsRerun l := by
    intro l hl
    obtain ⟨whole, member, part⟩ := List.mem_flatMap.1 hl
    obtain ⟨path, hp, rfl⟩ := List.mem_map.1 member
    exact isRerun_of_mem_splitOn_path (later path hp) part
  have none : arriving (paths.map pathDirective) = [] :=
    List.filterMap_eq_nil_iff.2 fun l hl => (rerun l hl).lineValue?_eq_none
  constructor
  · have all : arriving (directiveLines vars paths vs) = _ := arriving_directiveLines single
    rw [none, List.nil_append] at all
    rw [readLines_flatMap_line]
    exact List.Perm.of_eq all
  · intro l hl nothing
    rw [readLines_flatMap_line] at hl
    unfold directiveLines at hl
    rw [List.flatMap_append, List.flatMap_append] at hl
    rcases List.mem_append.1 hl with hl | hl
    · rcases List.mem_append.1 hl with hl | hl
      · obtain ⟨whole, member, part⟩ := List.mem_flatMap.1 hl
        obtain ⟨v, -, rfl⟩ := List.mem_map.1 member
        rw [splitOn_variableDirective, List.mem_singleton] at part
        rw [part]
        exact .inl ⟨_, readDirective?_variable v⟩
      · exact rerun l hl
    · obtain ⟨whole, member, part⟩ := List.mem_flatMap.1 hl
      obtain ⟨v, hv, rfl⟩ := List.mem_map.1 member
      rw [splitOn_valueDirective_of_not_mem v.1 (single v hv), List.mem_singleton] at part
      rw [part, lineValue?_value] at nothing
      cases nothing

end Delivery

/-- The builder reads the version, the branch and the commit that the script took from their sources,
    one line each and nothing else but what to watch, exactly if none of the three has a line feed in
    it and the further lines of a watched path, if it has any, only say what to watch as well. -/
theorem output_delivers_iff (s : Surroundings) :
    ∃ version branch commit : Text,
      FirstOf [IsSet s .version, IsSet s .packageVersion] version ∧
      FirstOf [IsSet s .branch, Says s ["rev-parse", "--abbrev-ref", "HEAD"]] branch ∧
      FirstOf [IsSet s .commit, Says s ["rev-parse", "--short", "HEAD"]] commit ∧
      (Delivers (output s) [("POWERTELEMETRY_VERSION", version),
          ("POWERTELEMETRY_GIT_BRANCH", branchName branch), ("POWERTELEMETRY_GIT_COMMIT", commit)] ↔
        '\n' ∉ version ∧ '\n' ∉ branchName branch ∧ '\n' ∉ commit ∧
          ∀ path ∈ watchedPaths s, ∀ l ∈ (path.splitOn '\n').tail, IsRerun l) := by
  refine ⟨version s, (valueOrAsk s .branch branchQuery).value,
    (valueOrAsk s .commit commitQuery).value, firstOf_version s, firstOf_valueOrAsk s _ _,
    firstOf_valueOrAsk s _ _, ?_⟩
  let vs : List (Variable × Text) := [(.version, version s),
    (.branch, branchName (valueOrAsk s .branch branchQuery).value),
    (.commit, (valueOrAsk s .commit commitQuery).value)]
  have lines : lines (run s).trace =
      directiveLines [.version, .branch, .commit] (watchedPaths s) vs := lines_run s
  rw [output, lines]
  constructor
  · intro h
    have single := h.single
    simp only [vs, List.forall_mem_cons] at single
    exact ⟨single.1, single.2.1, single.2.2.1, h.later⟩
  · rintro ⟨hv, hb, hc, later⟩
    refine delivers_of_single ?_ later
    simp [vs, hv, hb, hc]

/-- A commit with a line feed in it is cut short, and what follows replaces the version that was set. -/
theorem not_delivers_forged :
    let commit : Text := "a1b2c3d\ncargo:rustc-env=POWERTELEMETRY_VERSION=2.0"
    let s : Surroundings := {
      environment := fun
        | .version => some (Utf8.encode "1.0")
        | .branch => some (Utf8.encode "main")
        | .commit => some (Utf8.encode commit)
        | .packageVersion => none
      call := fun _ => none
      present := fun _ => false }
    IsSet s .version "1.0" ∧ IsSet s .branch "main" ∧ IsSet s .commit commit ∧
      (readLines (output s)).filterMap lineValue? =
        ([("POWERTELEMETRY_VERSION", "1.0"), ("POWERTELEMETRY_GIT_BRANCH", "main"),
          ("POWERTELEMETRY_GIT_COMMIT", "a1b2c3d"), ("POWERTELEMETRY_VERSION", "2.0")] :
          List (Text × Text)) ∧
      ¬Delivers (output s) [("POWERTELEMETRY_VERSION", "1.0"), ("POWERTELEMETRY_GIT_BRANCH", "main"),
        ("POWERTELEMETRY_GIT_COMMIT", commit)] := by
  intro commit s
  have read : (readLines (output s)).filterMap lineValue? =
      ([("POWERTELEMETRY_VERSION", "1.0"), ("POWERTELEMETRY_GIT_BRANCH", "main"),
        ("POWERTELEMETRY_GIT_COMMIT", "a1b2c3d"), ("POWERTELEMETRY_VERSION", "2.0")] :
        List (Text × Text)) := by
    decide +kernel
  refine ⟨rfl, rfl, rfl, read, ?_⟩
  intro delivers
  have count := delivers.values.length_eq
  rw [read] at count
  cases count

end BuildScript

end CpuIdentity
