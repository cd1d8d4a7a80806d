import CpuIdentity.Proofs.Build.Script
import CpuIdentity.Proofs.Exporter.Steps
import CpuIdentity.Proofs.Text.Trim

/-!
# Branches as they are shown

The build script brings the branch into its one form before it is built in, and the program does so
again when it starts. Once is enough: a branch name is its own branch name. So a detached head is
never shown, neither by a version nor by an exporter, whatever blanks stand around it.
-/

namespace CpuIdentity

/-- A text that names no branch: it is blank, or it says that the head is detached. -/
def NamesNone (given : Text) : Prop :=
  Text.trim given = [] ∨ Text.trim given = ("HEAD" : Text)

/-- What names no branch gives the empty name. -/
theorem branchName_of_namesNone {given : Text} (h : NamesNone given) : branchName given = [] := by
  unfold branchName
  rcases h with blank | detached
  · rw [blank]
    exact ite_self []
  · exact if_pos detached

theorem branchName_of_not_namesNone {given : Text} (h : ¬NamesNone given) :
    branchName given = Text.trim given :=
  if_neg fun detached => h (.inr detached)

/-- A detached head is never the name of a branch. -/
theorem branchName_ne_detachedHead (given : Text) : branchName given ≠ detachedHead := by
  by_cases none : NamesNone given
  · rw [branchName_of_namesNone none]
    decide
  · rw [branchName_of_not_namesNone none]
    exact fun detached => none (.inr detached)

theorem trimmed_branchName (given : Text) : Text.Trimmed (branchName given) := by
  by_cases none : NamesNone given
  · rw [branchName_of_namesNone none]
    exact Text.trimmed_trim []
  · rw [branchName_of_not_namesNone none]
    exact Text.trimmed_trim given

/-- A branch name is its own branch name. -/
@[simp] theorem branchName_branchName (given : Text) :
    branchName (branchName given) = branchName given := by
  have trimmed := Text.trim_eq_self (trimmed_branchName given)
  rw [branchName, trimmed, if_neg (branchName_ne_detachedHead given)]

namespace Version

/-- How a branch has to be shown that was given as a text. -/
structure ShowsBranch (given shown : Text) : Prop where
  present : shown ≠ []
  attached : shown ≠ ("HEAD" : Text)
  trimmed : Text.Trimmed shown
  unknown : NamesNone given → shown = ("unknown" : Text)
  known : ¬NamesNone given → shown = Text.trim given

/-- A branch is shown as its name, or as unknown if it has none. -/
theorem showsBranch_branchName (given : Text) :
    ShowsBranch given (Version.shown (branchName given)) := by
  by_cases none : NamesNone given
  · rw [branchName_of_namesNone none]
    have ends : Text.Trimmed unknown := by
      constructor
      · rintro c ⟨⟩
        decide
      · rintro c ⟨⟩
        decide
    exact ⟨by decide, by decide, ends, fun _ => rfl, fun known => absurd none known⟩
  · have present : branchName given ≠ [] := by
      rw [branchName_of_not_namesNone none]
      exact fun blank => none (.inl blank)
    rw [Version.shown, if_neg present]
    exact ⟨present, branchName_ne_detachedHead given, trimmed_branchName given,
      fun other => absurd other none, branchName_of_not_namesNone⟩

/-- A version is the same whether its branch was brought into its one form before or not. -/
theorem ofBuild_branchName_eq (number branch commit : Text) :
    ofBuild number (branchName branch) commit = ofBuild number branch commit := by
  rw [ofBuild, branchName_branchName, ofBuild]

/-- Without a branch the position is known exactly if the commit is. -/
theorem hasPosition_of_namesNone {branch : Text} (none : NamesNone branch) (number commit : Text) :
    (ofBuild number branch commit).hasPosition = true ↔ commit ≠ [] := by
  rw [hasPosition, ofBuild, branchName_of_namesNone none]
  cases commit with
  | nil => simp
  | cons c commit => simp

theorem full_of_namesNone {branch : Text} (none : NamesNone branch) (number : Text) :
    (ofBuild number branch []).full = "powertelemetry " ++ shown number := by
  have nowhere : ¬(ofBuild number branch []).hasPosition = true := by
    intro known
    exact (hasPosition_of_namesNone none number []).1 known rfl
  have program : ("powertelemetry " : Text) = programName ++ " " := rfl
  rw [full, if_neg nowhere, program]
  simp [Text.joinWith, ofBuild]

end Version

namespace Exporter

/-! ## Exporters -/

/-- The branch that a step gives. -/
def Step.branch? : Step → Option Text
  | .recordBuild _ branch _ => some branch
  | _ => none

/-- The branch given last: by a step, or before the first of them. -/
def lastBranch (given : Text) (ss : List Step) : Text :=
  (ss.filterMap Step.branch?).getLast?.getD given

/-- The branch that was recorded last is normalised, whichever build told it. -/
theorem branch_lastBuild (number given commit : Text) (ss : List Step) :
    ((ss.filterMap Step.build?).getLast?.getD (.ofBuild number given commit)).branch =
      branchName (lastBranch given ss) := by
  have step : ∀ s : Step, s.build?.map Version.branch = s.branch?.map branchName := by
    intro s
    cases s <;> rfl
  have builds : (ss.filterMap Step.build?).map Version.branch =
      (ss.filterMap Step.branch?).map branchName := by
    rw [List.map_filterMap, List.map_filterMap]
    exact congrArg (ss.filterMap ·) (funext step)
  have last := congrArg List.getLast? builds
  rw [List.getLast?_map, List.getLast?_map] at last
  unfold lastBranch
  cases hb : (ss.filterMap Step.build?).getLast? with
  | none =>
    rw [hb] at last
    rw [Option.map_eq_none_iff.1 last.symm]
    rfl
  | some v =>
    rw [hb] at last
    obtain ⟨branch, known, same⟩ := Option.map_eq_some_iff.1 last.symm
    rw [known]
    exact same.symm

/-- An exporter publishes a build, with one label for its branch, which shows the branch that was
    given. -/
structure PublishesBranch (given : Text) (x : Exporter) : Prop where
  published : ∃ f ∈ x.gather, f.name = metricName x.config.scope buildMetric
  labelled : ∀ f ∈ x.gather, f.name = metricName x.config.scope buildMetric → ∃ s value,
    f.series = [s] ∧ s.labels.filter (fun l => l.name = ("branch" : Text)) = [⟨"branch", value⟩] ∧
    Version.ShowsBranch given value

/-- A build has one label for its branch. -/
theorem filter_branch_labels (c : Config) (v : Version) :
    (buildSeriesLabels c v).filter (fun l => l.name = ("branch" : Text)) =
      [⟨"branch", Version.shown v.branch⟩] := by
  unfold buildSeriesLabels fixedLabels
  cases c.hostname <;> rfl

/-- Whatever build an exporter starts from, it publishes the branch given last. -/
theorem publishesBranch_steps (c : Config) (number given commit : Text) (h : Option Host)
    (ss : List Step) :
    PublishesBranch (lastBranch given ss)
      ((showing c (.ofBuild number given commit) h).steps ss) := by
  rw [steps_showing]
  constructor
  · rw [gather_showing]
    exact ⟨_, mem_shownFamilies.2 (.inl rfl), rfl⟩
  · rw [gather_showing]
    intro f hf name
    rcases mem_shownFamilies.1 hf with rfl | ⟨h, -, rfl⟩
    · refine ⟨_, _, rfl, filter_branch_labels c _, ?_⟩
      rw [branch_lastBuild]
      exact Version.showsBranch_branchName _
    · exact absurd name (hostMetric_ne_buildMetric c.scope)

end Exporter

namespace Version

/-- A version is the same whether its branch was brought into its one form before or not. It shows a
    branch without blanks at its ends and never a detached head; for a text that names no branch it
    shows `unknown`, and a position for the commit alone. An exporter that was created by a build
    publishes the branch of that build until it is given one. So does one that was created by the
    build that is made of the values that the build script prints: their branch is the name of the one
    that the script has found. -/
theorem ofBuild_branchName (number branch commit : Text) :
    ofBuild number (branchName branch) commit = ofBuild number branch commit ∧
    ShowsBranch branch (shown (ofBuild number branch commit).branch) ∧
    (NamesNone branch →
      ((ofBuild number branch commit).hasPosition = true ↔ commit ≠ []) ∧
      (commit = [] → (ofBuild number branch commit).full = "powertelemetry " ++ shown number)) ∧
    (∀ c x, (Exporter.create (ofBuild number branch commit) c).run.value = .ok x → ∀ ss,
      Exporter.PublishesBranch (Exporter.lastBranch branch ss) (x.steps ss)) ∧
    ∀ s : BuildScript.Surroundings, ∃ front n found c,
      BuildScript.FirstOf [BuildScript.IsSet s .branch,
        BuildScript.Says s ["rev-parse", "--abbrev-ref", "HEAD"]] found ∧
      BuildScript.lines (BuildScript.run s).trace =
        front ++ BuildScript.valueLines n (branchName found) c ∧
      BuildScript.built s = ofBuild n (branchName found) c ∧
      ∀ config x, (Exporter.create (BuildScript.built s) config).run.value = .ok x → ∀ ss,
        Exporter.PublishesBranch (Exporter.lastBranch found ss) (x.steps ss) := by
  have publishes (n given c : Text) : ∀ config x,
      (Exporter.create (ofBuild n given c) config).run.value = .ok x → ∀ ss,
        Exporter.PublishesBranch (Exporter.lastBranch given ss) (x.steps ss) := by
    intro config x created ss
    obtain ⟨-, rfl⟩ := Exporter.value_create_eq_ok_iff.1 created
    exact Exporter.publishesBranch_steps config n given c none ss
  refine ⟨ofBuild_branchName_eq number branch commit, showsBranch_branchName branch,
    fun none => ⟨?_, ?_⟩, publishes number branch commit, ?_⟩
  · exact hasPosition_of_namesNone none number commit
  · rintro rfl
    exact full_of_namesNone none number
  · intro s
    refine ⟨_, _, _, _, BuildScript.firstOf_valueOrAsk s .branch BuildScript.branchQuery,
      BuildScript.lines_run s, rfl, ?_⟩
    rw [BuildScript.built, ofBuild_branchName_eq]
    exact publishes _ _ _

/-- A build on a detached head, with blanks around it, is shown as no branch is, by its version and by
    an exporter that it has created. -/
theorem ofBuild_branchName_detached :
    let branch : Text := "\u3000HEAD\r\n"
    let x := Exporter.showing ⟨"node", some "n1"⟩ (ofBuild "2.0" branch []) none
    let ss : List Exporter.Step := [.observe ⟨intelVendor, 6, 0x55, 7⟩, .encode]
    NamesNone branch ∧
      (Exporter.create (ofBuild "2.0" branch []) ⟨"node", some "n1"⟩).run.value = .ok x ∧
      (ofBuild "2.0" (branchName branch) []).full = ("powertelemetry 2.0" : Text) ∧
      ∃ f ∈ (x.steps ss).gather, ∃ s, f.series = [s] ∧
        s.labels.filter (fun l => l.name = ("branch" : Text)) = [⟨"branch", "unknown"⟩] := by
  intro branch x ss
  have none : NamesNone branch := .inr (by decide)
  have created : (Exporter.create (ofBuild "2.0" branch []) ⟨"node", some "n1"⟩).run.value = .ok x :=
    Exporter.value_create_eq_ok_iff.2 ⟨by decide, rfl⟩
  obtain ⟨once, -, position, publishes, -⟩ := ofBuild_branchName "2.0" branch []
  obtain ⟨⟨f, hf, name⟩, labelled⟩ := publishes _ x created ss
  obtain ⟨s, value, series, label, shown⟩ := labelled f hf name
  refine ⟨none, created, ?_, f, hf, s, series, ?_⟩
  · rw [once, (position none).2 rfl]
    rfl
  · have last : Exporter.lastBranch branch ss = branch := rfl
    rw [label, shown.unknown (last ▸ none)]

end Version

end CpuIdentity
