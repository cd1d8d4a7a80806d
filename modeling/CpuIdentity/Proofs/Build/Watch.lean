import CpuIdentity.Proofs.Build.Directives
import CpuIdentity.Proofs.Text.Trim
import Mathlib.Data.List.Basic

/-!
# The files that move with the head

The script asks for the path of the head, for the reference that the head points to, for the path of
that reference and for the path of the packed references. It watches those of the paths that it is
told and that exist. Only the first question decides about the others: the answers after it are taken
as far as they come, and the path of a reference is asked for only where there is one. A reader of
what is printed sees these paths watched and no others unless a line feed comes in between: one in a
path cuts it short, and a value that has one can go on with a line that watches some other file.
-/

namespace CpuIdentity

namespace BuildScript

variable {s : Surroundings}

/-- What the version control program says, `none` if it says nothing that can be read. -/
def Tells (s : Surroundings) (args : List Text) (told : Option Text) : Prop :=
  ∀ t, told = some t ↔ Says s args t

/-- What is found out about the files that move with the head: the path of the head, the reference
    that it points to, the path of that reference and the path of the packed references. -/
structure Trail (s : Surroundings) (head reference path packed : Option Text) : Prop where
  tells_head : Tells s ["rev-parse", "--git-path", "HEAD"] head
  /-- What the head points to is a reference if it begins as one. -/
  points : ∀ r, reference = some r ↔
    Says s ["rev-parse", "--symbolic-full-name", "HEAD"] r ∧ "refs/" <+: r
  tells_path : ∀ p, path = some p ↔
    ∃ r, reference = some r ∧ Says s ["rev-parse", "--git-path", r] p
  tells_packed : Tells s ["rev-parse", "--git-path", "packed-refs"] packed

/-- A question has one answer. -/
theorem Says.unique {args : List Text} {t t' : Text} (h : Says s args t) (h' : Says s args t') :
    t = t' := by
  have told := outputOf?_eq_some_iff.2 h
  rw [outputOf?_eq_some_iff.2 h'] at told
  exact (Option.some.inj told).symm

/-- Answers are trimmed. -/
theorem Says.trimmed {args : List Text} {t : Text} (h : Says s args t) : Text.trim t = t := by
  obtain ⟨said, -, rfl⟩ := h
  exact Text.trim_trim said

/-- The head points to a reference exactly if the trimmed answer begins as one. -/
theorem headReference?_eq_some_iff {printed r : Text} :
    headReference? printed = some r ↔ Text.trim printed = r ∧ "refs/" <+: r := by
  unfold headReference?
  by_cases h : List.isPrefixOf "refs/" (Text.trim printed) = true
  · rw [if_pos h, Option.some.injEq]
    constructor
    · rintro rfl
      exact ⟨rfl, List.isPrefixOf_iff_prefix.1 h⟩
    · exact fun same => same.1
  · rw [if_neg h]
    constructor
    · nofun
    · rintro ⟨rfl, lead⟩
      exact absurd (List.isPrefixOf_iff_prefix.2 lead) h

/-- The reference that the head points to, as far as it is told. -/
def reference? (s : Surroundings) : Option Text :=
  headReference? ((outputOf? s headQuery).getD [])

theorem reference?_eq_some_iff {r : Text} :
    reference? s = some r ↔ Says s headQuery r ∧ "refs/" <+: r := by
  unfold reference?
  rw [headReference?_eq_some_iff]
  cases told : outputOf? s headQuery with
  | none =>
    constructor
    · -- Nothing said is the empty text, which no reference is.
      rintro ⟨rfl, lead⟩
      cases List.prefix_nil.1 lead
    · rintro ⟨said, -⟩
      rw [outputOf?_eq_some_iff.2 said] at told
      cases told
  | some t =>
    have said := outputOf?_eq_some_iff.1 told
    rw [Option.getD_some, said.trimmed]
    constructor
    · rintro ⟨rfl, lead⟩
      exact ⟨said, lead⟩
    · rintro ⟨said', lead⟩
      exact ⟨said.unique said', lead⟩

/-- What the script finds out is a trail. -/
theorem trail (s : Surroundings) :
    Trail s (outputOf? s (pathQuery "HEAD")) (reference? s) (referencePath? s)
      (outputOf? s (pathQuery "packed-refs")) where
  tells_head _ := outputOf?_eq_some_iff
  points _ := reference?_eq_some_iff
  tells_path p := by
    unfold referencePath?
    rw [Option.bind_eq_some_iff]
    exact exists_congr fun r => and_congr_right fun _ => outputOf?_eq_some_iff
  tells_packed _ := outputOf?_eq_some_iff

/-- The file whose path a question asks for. -/
def askedPath? : List Text → Option Text
  | [command, option, file] =>
    if command = "rev-parse" ∧ option = "--git-path" then some file else none
  | _ => none

theorem askedPath?_pathQuery (file : Text) : askedPath? (pathQuery file) = some file := rfl

/-- For a value the version control program is asked once at most. -/
theorem calls_valueOrAsk (s : Surroundings) (v : Variable) (query : List Text) :
    calls (valueOrAsk s v query).trace = [] ∨ calls (valueOrAsk s v query).trace = [query] := by
  unfold valueOrAsk
  cases value? s v with
  | none => exact .inr rfl
  | some t => exact .inl rfl

theorem askedPaths_valueOrAsk {query : List Text} (other : askedPath? query = none)
    (s : Surroundings) (v : Variable) :
    (calls (valueOrAsk s v query).trace).filterMap askedPath? = [] := by
  rcases calls_valueOrAsk s v query with none | one
  · rw [none]
    rfl
  · rw [one, List.filterMap_cons_none other]
    rfl

/-- The path of a reference is asked for after the reference itself, if there is one. -/
theorem calls_referencePath (s : Surroundings) :
    calls (referencePath s).trace = headQuery :: (reference? s).toList.map pathQuery := by
  unfold referencePath
  rw [Traced.trace_bind, calls_append]
  have told : (ask s headQuery).value = outputOf? s headQuery := rfl
  rw [told]
  unfold reference?
  cases headReference? ((outputOf? s headQuery).getD []) <;> rfl

/-- Without a path of the head nothing more is asked about it. -/
theorem calls_watchHead (s : Surroundings) :
    calls (watchHead s).trace = pathQuery "HEAD" ::
      if (outputOf? s (pathQuery "HEAD")).isSome then
        headQuery :: (reference? s).toList.map pathQuery ++ [pathQuery "packed-refs"]
      else [] := by
  unfold watchHead
  rw [Traced.trace_bind, calls_append]
  have asked (args : List Text) : calls (ask s args).trace = [args] := rfl
  have told (args : List Text) : (ask s args).value = outputOf? s args := rfl
  rw [asked, told]
  cases outputOf? s (pathQuery "HEAD") with
  | none => rfl
  | some head =>
    simp only [Traced.trace_bind, calls_append, calls_referencePath, asked, calls_printAll,
      List.append_nil, Option.isSome_some, if_true, List.singleton_append]

theorem askedPaths_map_pathQuery (files : List Text) :
    (files.map pathQuery).filterMap askedPath? = files := by
  rw [List.filterMap_map]
  exact List.filterMap_some

/-- The paths that the script asks for: those of the head, and once it is told that one, of the
    reference that the head points to, if it points to one, and of the packed references. -/
theorem askedPaths_run (s : Surroundings) :
    (calls (run s).trace).filterMap askedPath? = ("HEAD" : Text) ::
      if (outputOf? s (pathQuery "HEAD")).isSome then (reference? s).toList ++ [("packed-refs" : Text)]
      else [] := by
  have all : calls (run s).trace = calls (watchHead s).trace ++
      (calls (valueOrAsk s .branch branchQuery).trace ++
        calls (valueOrAsk s .commit commitQuery).trace) := by
    unfold run
    simp only [Traced.trace_bind, calls_append, calls_printAll, List.nil_append]
    exact congrArg _ (congrArg _ (List.append_nil _))
  rw [all, List.filterMap_append, List.filterMap_append, askedPaths_valueOrAsk rfl,
    askedPaths_valueOrAsk rfl, calls_watchHead, List.append_nil, List.append_nil,
    List.filterMap_cons_some (askedPath?_pathQuery _)]
  by_cases told : (outputOf? s (pathQuery "HEAD")).isSome = true
  · have other : askedPath? headQuery = none := rfl
    rw [if_pos told, if_pos told, List.cons_append, List.filterMap_cons_none other,
      List.filterMap_append, askedPaths_map_pathQuery]
    rfl
  · rw [if_neg told, if_neg told]
    rfl

/-! ## Lines -/

/-- A line that has the script run again when a file changes. -/
def isWatchLine (l : Text) : Bool := List.isPrefixOf ("cargo:rerun-if-changed=" : Text) l

theorem isWatchLine_iff {l : Text} :
    isWatchLine l = true ↔ ("cargo:rerun-if-changed=" : Text) <+: l := List.isPrefixOf_iff_prefix

theorem isWatchLine_pathDirective (path : Text) : isWatchLine (pathDirective path) = true :=
  isWatchLine_iff.2 (List.prefix_append _ _)

theorem filter_isWatchLine_map (paths : List Text) :
    (paths.map pathDirective).filter isWatchLine = paths.map pathDirective := by
  refine List.filter_eq_self.2 fun l member => ?_
  obtain ⟨path, -, rfl⟩ := List.mem_map.1 member
  exact isWatchLine_pathDirective path

/-- Of all that the script prints, the directives for the head are what watches a file. -/
theorem watchLines_run (s : Surroundings) :
    (lines (run s).trace).filter isWatchLine = (watchedPaths s).map pathDirective := by
  have before : variableLines.filter isWatchLine = [] := by decide +kernel
  have after (version branch commit : Text) :
      (valueLines version branch commit).filter isWatchLine = [] := rfl
  rw [lines_run, List.filter_append, List.filter_append, before, after, List.nil_append,
    List.append_nil]
  exact filter_isWatchLine_map _

theorem watchLines_variable (v : Variable) :
    ((variableDirective v).splitOn '\n').filter isWatchLine = [] := by
  rw [splitOn_variableDirective]
  cases v <;> rfl

/-- A value watches a file only by its further lines. -/
theorem watchLines_value (v : Variable) (value : Text) :
    ((valueDirective v value).splitOn '\n').filter isWatchLine =
      (value.splitOn '\n').tail.filter isWatchLine := by
  obtain ⟨first, parts⟩ := splitOn_valueDirective v value
  have other : isWatchLine (valueDirective v first) = false := rfl
  rw [parts, List.filter_cons_of_neg (by rw [other]; exact Bool.false_ne_true)]

section Reading

variable {vars : List Variable} {paths : List Text} {vs : List (Variable × Text)}

/-- What watches a file for a reader: the lines of the paths, and what the values add to them. -/
theorem watchLines_directiveLines :
    (readLines ((directiveLines vars paths vs).flatMap Text.line)).filter isWatchLine =
      ((paths.map pathDirective).flatMap (List.splitOn '\n')).filter isWatchLine ++
        vs.flatMap fun v => (v.2.splitOn '\n').tail.filter isWatchLine := by
  have none : ((vars.map variableDirective).flatMap (List.splitOn '\n')).filter isWatchLine = [] := by
    rw [List.filter_flatMap, List.flatMap_map]
    exact List.flatMap_eq_nil_iff.2 fun v _ => watchLines_variable v
  rw [readLines_flatMap_line]
  unfold directiveLines
  rw [List.flatMap_append, List.flatMap_append, List.filter_append, List.filter_append, none,
    List.nil_append]
  refine congrArg _ ?_
  rw [List.filter_flatMap, List.flatMap_map]
  exact List.flatMap_congr fun v _ => watchLines_value v.1 v.2

/-- A reader sees the paths watched and nothing else exactly if no path is cut short and no value goes
    on with a line that watches a file. -/
theorem watchLines_eq_iff :
    (readLines ((directiveLines vars paths vs).flatMap Text.line)).filter isWatchLine =
        paths.map pathDirective ↔
      (∀ p ∈ paths, '\n' ∉ p) ∧
        ∀ value ∈ vs.map Prod.snd, ∀ l ∈ (value.splitOn '\n').tail,
          ¬("cargo:rerun-if-changed=" : Text) <+: l := by
  have whole (single : ∀ p ∈ paths, '\n' ∉ p) :
      ((paths.map pathDirective).flatMap (List.splitOn '\n')).filter isWatchLine =
        paths.map pathDirective := by
    have parts : (paths.map pathDirective).flatMap (List.splitOn '\n') = paths.map pathDirective := by
      rw [List.flatMap_map, List.map_eq_flatMap]
      exact List.flatMap_congr fun p hp => splitOn_pathDirective_of_not_mem (single p hp)
    rw [parts, filter_isWatchLine_map]
  have nothing : (vs.flatMap fun v => (v.2.splitOn '\n').tail.filter isWatchLine) = [] ↔
      ∀ value ∈ vs.map Prod.snd, ∀ l ∈ (value.splitOn '\n').tail,
        ¬("cargo:rerun-if-changed=" : Text) <+: l := by
    simp only [List.flatMap_eq_nil_iff, List.filter_eq_nil_iff, isWatchLine_iff, List.forall_mem_map]
  constructor
  · intro read
    -- No line that is read has a line feed in it, so no path that is read whole has one.
    have single : ∀ p ∈ paths, '\n' ∉ p := by
      intro p hp inside
      have member := List.mem_map_of_mem (f := pathDirective) hp
      rw [← read, readLines_flatMap_line] at member
      obtain ⟨l, -, part⟩ := List.mem_flatMap.1 (List.mem_filter.1 member).1
      exact newline_not_mem_of_mem_splitOn part (List.mem_append_right _ inside)
    rw [watchLines_directiveLines, whole single, List.append_right_eq_self] at read
    exact ⟨single, nothing.1 read⟩
  · rintro ⟨single, later⟩
    rw [watchLines_directiveLines, whole single, nothing.2 later, List.append_nil]

end Reading

/-- The paths that are kept are those that exist, each as often as it is given. -/
theorem pathDirectives_keeps (present : Text → Bool) (paths : List Text) :
    ∃ kept : List Text, kept.Sublist paths ∧
      (∀ p, kept.count p = if present p then paths.count p else 0) ∧
      pathDirectives present paths = kept.map fun p : Text => "cargo:rerun-if-changed=" ++ p := by
  refine ⟨paths.filter present, List.filter_sublist, fun p => ?_, rfl⟩
  by_cases h : present p = true
  · rw [if_pos h, List.count_filter h]
  · rw [if_neg h, List.count_eq_zero]
    intro member
    exact h (List.mem_filter.1 member).2

/-- The paths that a trail leads to, from the head on; none without a path of the head. -/
def trailPaths (head path packed : Option Text) : List Text :=
  match head with
  | none => []
  | some h => h :: path.toList ++ packed.toList

/-- A detached head points to no reference. -/
theorem Trail.detached {head reference path packed : Option Text}
    (h : Trail s head reference path packed)
    (said : Says s ["rev-parse", "--symbolic-full-name", "HEAD"] detachedHead) :
    reference = none := by
  cases given : reference with
  | none => rfl
  | some r =>
    obtain ⟨said', lead⟩ := (h.points r).1 given
    rw [said'.unique said] at lead
    exact absurd lead (by decide)

/-- The lines that are printed to watch a file are, in the order of the trail and with nothing else,
    those of the paths that are told and exist. Where the path of the head is not told, no other one
    is asked for. The path of a reference is asked for where the head points to one, which it does not
    when it is detached. Of paths in general the existing ones are kept, in order and as often as they
    are given. Who reads the lines of all that is printed sees just the lines of those paths exactly
    if no line feed is in any of them and no value has a further line that watches a file. -/
theorem watches_trail (s : Surroundings) :
    ∃ (head reference path packed : Option Text) (version branch commit : Text),
      Trail s head reference path packed ∧
      (Says s ["rev-parse", "--symbolic-full-name", "HEAD"] detachedHead → reference = none) ∧
      (calls (run s).trace).filterMap askedPath? = ("HEAD" : Text) ::
        (if head.isSome then reference.toList ++ [("packed-refs" : Text)] else []) ∧
      (lines (run s).trace).filter isWatchLine =
        ((trailPaths head path packed).filter s.present).map
          (fun p : Text => "cargo:rerun-if-changed=" ++ p) ∧
      FirstOf [IsSet s .version, IsSet s .packageVersion] version ∧
      FirstOf [IsSet s .branch, Says s ["rev-parse", "--abbrev-ref", "HEAD"]] branch ∧
      FirstOf [IsSet s .commit, Says s ["rev-parse", "--short", "HEAD"]] commit ∧
      ((readLines (output s)).filter isWatchLine =
          ((trailPaths head path packed).filter s.present).map
            (fun p : Text => "cargo:rerun-if-changed=" ++ p) ↔
        (∀ p ∈ (trailPaths head path packed).filter s.present, '\n' ∉ p) ∧
          ∀ value ∈ [version, branchName branch, commit], ∀ l ∈ (value.splitOn '\n').tail,
            ¬("cargo:rerun-if-changed=" : Text) <+: l) ∧
      ∀ (present : Text → Bool) (paths : List Text), ∃ kept : List Text,
        kept.Sublist paths ∧ (∀ p, kept.count p = if present p then paths.count p else 0) ∧
        pathDirectives present paths = kept.map fun p : Text => "cargo:rerun-if-changed=" ++ p := by
  let vs : List (Variable × Text) := [(.version, version s),
    (.branch, branchName (valueOrAsk s .branch branchQuery).value),
    (.commit, (valueOrAsk s .commit commitQuery).value)]
  have lines : lines (run s).trace =
      directiveLines [.version, .branch, .commit] (watchedPaths s) vs := lines_run s
  have trailed : watchedPaths s = (trailPaths (outputOf? s (pathQuery "HEAD")) (referencePath? s)
      (outputOf? s (pathQuery "packed-refs"))).filter s.present := rfl
  have read : (readLines (output s)).filter isWatchLine = (watchedPaths s).map pathDirective ↔ _ :=
    lines ▸ watchLines_eq_iff
  refine ⟨_, _, _, _, _, _, _, trail s, (trail s).detached, askedPaths_run s,
    (watchLines_run s).trans (trailed ▸ rfl), firstOf_version s, firstOf_valueOrAsk s _ _,
    firstOf_valueOrAsk s _ _, ?_, pathDirectives_keeps⟩
  exact read

/-- On a branch whose reference is packed away, the head and the packed references are watched, also
    where the commit has a line feed in it and goes on with other words. -/
theorem watches_trail_packed :
    let call : List Text → Option CallResult := fun args =>
      if args = pathQuery "HEAD" then some ⟨true, Utf8.encode ".git/HEAD\n"⟩
      else if args = headQuery then some ⟨true, Utf8.encode "refs/heads/main\n"⟩
      else if args = pathQuery "refs/heads/main" then
        some ⟨true, Utf8.encode ".git/refs/heads/main\n"⟩
      else if args = pathQuery "packed-refs" then some ⟨true, Utf8.encode ".git/packed-refs\n"⟩
      else none
    let s : Surroundings := {
      environment := fun
        | .commit => some (Utf8.encode "a1b2c3d\nby hand")
        | _ => none
      call := call
      present := (· ≠ (".git/refs/heads/main" : Text)) }
    (readLines (output s)).filter isWatchLine =
        (["cargo:rerun-if-changed=.git/HEAD", "cargo:rerun-if-changed=.git/packed-refs"] :
          List Text) ∧
      (calls (run s).trace).filterMap askedPath? =
        (["HEAD", "refs/heads/main", "packed-refs"] : List Text) := by
  intro call s
  obtain ⟨head, reference, path, packed, version, branch, commit, found, -, asked, -, hv, hb, hc,
    read, -⟩ := watches_trail s
  have hhead : head = some ".git/HEAD" :=
    (found.tells_head _).2 (outputOf?_eq_some_iff.1 (by decide +kernel))
  have hreference : reference = some "refs/heads/main" :=
    (found.points _).2 ⟨outputOf?_eq_some_iff.1 (by decide +kernel), by decide +kernel⟩
  have hpath : path = some ".git/refs/heads/main" :=
    (found.tells_path _).2 ⟨_, hreference, outputOf?_eq_some_iff.1 (by decide +kernel)⟩
  have hpacked : packed = some ".git/packed-refs" :=
    (found.tells_packed _).2 (outputOf?_eq_some_iff.1 (by decide +kernel))
  rw [hhead, hreference] at asked
  obtain rfl : version = [] := by
    rcases hv with h | ⟨-, h | ⟨-, rfl⟩⟩
    · cases h
    · cases h
    · rfl
  obtain rfl : branch = [] := by
    rcases hb with h | ⟨-, h | ⟨-, rfl⟩⟩
    · cases h
    · cases outputOf?_eq_some_iff.2 h
    · rfl
  obtain rfl : commit = "a1b2c3d\nby hand" := by
    rcases hc with h | ⟨unset, -⟩
    · exact Utf8.encode_injective (Option.some.inj h).symm
    · exact absurd rfl (unset _)
  rw [hhead, hpath, hpacked] at read
  exact ⟨read.2 (by decide +kernel), asked⟩

/-- A value that goes on with such a line has a file watched that no path leads to and that is not
    there. -/
theorem not_watches_forged :
    let commit : Text := "a1b2c3d\ncargo:rerun-if-changed=no-such-file"
    let s : Surroundings := {
      environment := fun
        | .version => some (Utf8.encode "1.0")
        | .branch => some (Utf8.encode "main")
        | .commit => some (Utf8.encode commit)
        | .packageVersion => none
      call := fun _ => none
      present := fun _ => false }
    IsSet s .commit commit ∧
      (readLines (output s)).filter isWatchLine =
        (["cargo:rerun-if-changed=no-such-file"] : List Text) ∧
      ¬∃ head reference path packed : Option Text, Trail s head reference path packed ∧
        (readLines (output s)).filter isWatchLine =
          ((trailPaths head path packed).filter s.present).map
            (fun p : Text => "cargo:rerun-if-changed=" ++ p) := by
  intro commit s
  have read : (readLines (output s)).filter isWatchLine =
      (["cargo:rerun-if-changed=no-such-file"] : List Text) := by decide +kernel
  refine ⟨rfl, read, ?_⟩
  rintro ⟨head, reference, path, packed, -, same⟩
  have nothing : (trailPaths head path packed).filter s.present = [] :=
    List.filter_eq_nil_iff.2 fun _ _ => Bool.false_ne_true
  rw [read, nothing] at same
  cases same

end BuildScript

end CpuIdentity
