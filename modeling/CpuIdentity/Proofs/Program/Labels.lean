import CpuIdentity.Proofs.Catalogue.Printed
import CpuIdentity.Proofs.Cpu.Outcome
import CpuIdentity.Proofs.Exporter.Steps
import CpuIdentity.Proofs.Program.Runs

/-!
# Labels and lines agree

An exporter publishes the model of a host in labels, and a run that is asked for a model prints a line.
Both tell a number and a name, which the run reads as well: what was published or printed can be given
back, and the same line comes of it.
-/

namespace CpuIdentity

namespace Exporter

variable {b : Version} {c : Config} {x : Exporter} {s : Signature} {h : Host}

/-- An exporter publishes one host, in one series, with these values in its labels. -/
structure PublishesHost (x : Exporter) (model name lineage variant : Text) : Prop where
  published : ∃ f ∈ x.gather, f.name = metricName x.config.scope hostMetric
  labelled : ∀ f ∈ x.gather, f.name = metricName x.config.scope hostMetric → ∃ labels,
    f.series = [⟨labels, 1⟩] ∧ labels.filter (fun l => l.name ≠ ("host" : Text)) =
      [⟨"lineage", lineage⟩, ⟨"model", model⟩, ⟨"name", name⟩, ⟨"variant", variant⟩]

theorem filter_host_labels (c : Config) (h : Host) :
    (hostSeriesLabels c h).filter (fun l => l.name ≠ ("host" : Text)) =
      [⟨"lineage", h.lineageName⟩, ⟨"model", numberLabel h.signature.model⟩, ⟨"name", h.name⟩,
        ⟨"variant", h.variantName⟩] := by
  unfold hostSeriesLabels fixedLabels
  cases c.hostname <;> rfl

/-- Whatever an exporter published before, it publishes the host that it observes. -/
theorem publishesHost_observe (created : (create b c).run.value = .ok x)
    (accepted : (Host.identify s).run.value = .ok h) (ss : List Step) :
    PublishesHost (x.steps (ss ++ [.observe s])) (numberLabel h.signature.model) h.name
      h.lineageName h.variantName := by
  have found : Step.host? (.observe s) = some h := congrArg Except.toOption accepted
  have last : lastHost (ss ++ [.observe s]) = some h := by
    rw [lastHost, List.filterMap_append, List.filterMap_cons_some found]
    exact List.getLast?_concat
  rw [steps_of_create created, last]
  constructor
  · rw [gather_showing]
    exact ⟨_, mem_shownFamilies.2 (.inr ⟨h, rfl, rfl⟩), rfl⟩
  · rw [gather_showing]
    intro f hf name
    rcases mem_shownFamilies.1 hf with rfl | ⟨h', same, rfl⟩
    · exact absurd name.symm (hostMetric_ne_buildMetric c.scope)
    · cases same
      exact ⟨_, rfl, filter_host_labels c h⟩

end Exporter

namespace Host

/-- The model of an identified host is the one that its number stands for. -/
theorem identified_of_value {s : Signature} {h : Host}
    (accepted : (identify s).run.value = .ok h) :
    h.signature = s ∧ h.model = Model.ofNumber? s.model ∧
      (h.variantName ≠ [] ↔ s.model = 0x55) := by
  obtain ⟨vendor, family⟩ := (identify_ok_iff s).1 ⟨h, accepted⟩
  obtain ⟨h', warnings, verdict, run, found⟩ := identify_accepted vendor family
  rw [run] at accepted
  cases accepted
  refine ⟨found.signature, ?_, ?_⟩
  · rw [found.first, Model.ofNumber?_eq_find?]
  · have named (v : Variant) : v.name ≠ [] := by cases v <;> decide
    rw [variantName, found.variant]
    by_cases shared : s.model = 0x55
    · rw [if_pos shared]
      exact iff_of_true (named _) shared
    · rw [if_neg shared]
      exact iff_of_false (not_not_intro rfl) shared

end Host

namespace Program

open Exporter

variable {b : Version} {m : Machine} {network : Network} {args : List Text} {t line : Text}
  {n : UInt8}

/-! ## The line for a text -/

/-- A command line gives a text as the model. -/
def GivesModel (args : List Text) (t : Text) : Prop :=
  ∃ a, Arguments.parse args = .ok a ∧ a.model = some t

/-- A run that is given the text as the model prints the line and no other, in any build and on any
    machine, and ends without a fault. -/
def Prints (t line : Text) : Prop :=
  ∀ (b : Version) (m : Machine) (network : Network) (args : List Text), GivesModel args t →
    (execute b m network args).status = 0 ∧ (execute b m network args).output = Text.line line

/-- Every text can be given as the model. -/
theorem givesModel_attached (t : Text) : GivesModel ["--model=" ++ t] t := by
  have form : Arguments.Form.of ("--model=" ++ t) = .long "model" (some t) := by
    simp [Arguments.Form.of]
  refine ⟨⟨false, none, some t, false, none, Config.defaultScope, false⟩, ?_, rfl⟩
  unfold Arguments.parse
  simp only [Arguments.read, form]
  rfl

theorem execute_of_number (given : GivesModel args t) (h : Model.readNumber t = .ok n) :
    (execute b m network args).status = 0 ∧
      (execute b m network args).output = Text.line (classification n) := by
  obtain ⟨a, parsed, model⟩ := given
  rw [execute_of_parse parsed, run_classify model, classify_of_ok h]
  refine ⟨rfl, ?_⟩
  show Effect.output (opening b ++ _) = _
  rw [(silent_opening b).output_append]
  exact List.append_nil _

theorem execute_of_no_number {cause : NumberError} (given : GivesModel args t)
    (h : Model.readNumber t = .error cause) : (execute b m network args).status = 1 := by
  obtain ⟨a, parsed, model⟩ := given
  rw [execute_of_parse parsed, run_classify model, classify_of_error h]
  rfl

theorem prints_of_number (h : Model.readNumber t = .ok n) : Prints t (classification n) :=
  fun _ _ _ _ given => execute_of_number given h

/-- The line for a text classifies the number that the text gives. -/
theorem prints_iff : Prints t line ↔ ∃ n, Model.readNumber t = .ok n ∧ line = classification n := by
  constructor
  · intro prints
    let m : Machine := ⟨fun _ _ => ⟨0, 0, 0, 0⟩, .ok []⟩
    let network : Network := fun _ => .error (.os .addressInUse)
    obtain ⟨well, output⟩ := prints ⟨[], [], []⟩ m network _ (givesModel_attached t)
    cases number : Model.readNumber t with
    | error cause =>
      rw [execute_of_no_number (givesModel_attached t) number] at well
      cases well
    | ok n =>
      rw [(execute_of_number (givesModel_attached t) number).2] at output
      exact ⟨n, rfl, (List.append_cancel_right output).symm⟩
  · rintro ⟨n, number, rfl⟩
    exact prints_of_number number

theorem prints_numberLabel (n : UInt8) : Prints (numberLabel n) (classification n) :=
  prints_of_number (Model.readNumber_numberLabel n)

theorem prints_name {model : Model} (known : Model.ofNumber? n = some model) :
    Prints model.name (classification n) := by
  have number := Model.readNumber_name model
  rw [Model.ofNumber?_eq_some_iff.1 known] at number
  exact prints_of_number number

/-- What stands in the columns of a line is given back: the first one and the name, if there is one. -/
structure GivenBack (line : Text) : Prop where
  first : ∃ number rest, columns line = number :: rest ∧ Prints number line
  named : ∀ number name description, columns line = [number, name, description] → Prints name line

theorem givenBack_classification (n : UInt8) : GivenBack (classification n) := by
  cases known : Model.ofNumber? n with
  | some model =>
    have parts := columns_of_some known
    refine ⟨⟨_, _, parts, prints_numberLabel n⟩, fun number name description shown => ?_⟩
    rw [parts] at shown
    obtain ⟨-, same, -⟩ : _ ∧ model.name = name ∧ _ := by simpa using shown
    exact same ▸ prints_name known
  | none =>
    have parts := columns_of_none known
    refine ⟨⟨_, _, parts, prints_numberLabel n⟩, fun number name description shown => ?_⟩
    rw [parts] at shown
    simp at shown

/-- Label values agree with a model number and with what is printed and read. -/
structure Agrees (n : UInt8) (model name lineage variant : Text) : Prop where
  number : Model.readNumber model = .ok n
  known : name ≠ ("unknown" : Text) → ∃ m line, Model.ofName name = .ok m ∧ m.number = n ∧
    Lineage.ofName lineage = .ok m.lineage ∧ Prints model line ∧ Prints name line ∧
    model <+: line ∧ name <:+: line
  unknown_lineage : name = ("unknown" : Text) ↔ lineage = ("unknown" : Text)
  unknown_line : name = ("unknown" : Text) ↔
    ∃ line, Prints model line ∧ ("not recognised" : Text) <:+: line
  variant : variant ≠ [] ↔ n = 0x55

theorem not_recognised_iff (n : UInt8) :
    (∃ line, Prints (numberLabel n) line ∧ ("not recognised" : Text) <:+: line) ↔
      Model.ofNumber? n = none := by
  rw [← not_recognised_infix_iff]
  constructor
  · rintro ⟨line, prints, told⟩
    obtain ⟨n', number, rfl⟩ := prints_iff.1 prints
    rw [Model.readNumber_numberLabel] at number
    cases number
    exact told
  · exact fun told => ⟨_, prints_numberLabel n, told⟩

theorem agrees_of_identified {s : Signature} {h : Host}
    (accepted : (Host.identify s).run.value = .ok h) :
    Agrees s.model (numberLabel h.signature.model) h.name h.lineageName h.variantName := by
  obtain ⟨signature, model, variant⟩ := Host.identified_of_value accepted
  rw [signature]
  cases known : Model.ofNumber? s.model with
  | some m =>
    rw [known] at model
    have name : h.name = m.name := by rw [Host.name, model]; rfl
    have lineage : h.lineageName = m.lineage.name := by rw [Host.lineageName, model]; rfl
    have other : m.lineage.name ≠ ("unknown" : Text) := by cases m.lineage <;> decide
    have line := classification_of_some known
    rw [name, lineage]
    refine ⟨Model.readNumber_numberLabel _, fun _ => ?_, ?_, ?_, variant⟩
    · refine ⟨m, _, Model.ofName_name m, Model.ofNumber?_eq_some_iff.1 known,
        Lineage.ofName_name _, prints_numberLabel _, prints_name known, ?_, ?_⟩
      · rw [line]
        exact ⟨"  " ++ m.name ++ "  (" ++ m.lineage.description ++ ")", by simp⟩
      · rw [line]
        exact ⟨numberLabel s.model ++ "  ", "  (" ++ m.lineage.description ++ ")", by simp⟩
    · exact iff_of_false m.name_ne_unknown other
    · refine iff_of_false m.name_ne_unknown fun told => ?_
      rw [(not_recognised_iff _).1 told] at known
      cases known
  | none =>
    rw [known] at model
    have name : h.name = ("unknown" : Text) := by rw [Host.name, model]; rfl
    have lineage : h.lineageName = ("unknown" : Text) := by rw [Host.lineageName, model]; rfl
    rw [name, lineage]
    refine ⟨Model.readNumber_numberLabel _, fun other => absurd rfl other, Iff.rfl, ?_, variant⟩
    exact iff_of_true rfl ((not_recognised_iff _).2 known)

/-- What an exporter publishes of an identified host agrees with what is printed and read: the label
    of the model is read as the number; the name and the lineage, if the model is known, are read as
    those of the model with that number, and the labels of the model and the name print the same line,
    which tells both; and the variant is told for the shared number only. Whatever text is given as
    the model, the first column of the line that is printed for it prints the same line again, and so
    does the name in it. -/
theorem labels_agree :
    (∀ (s : Signature) (h : Host), (Host.identify s).run.value = .ok h →
      ∃ model name lineage variant : Text,
        (∀ b c x, (Exporter.create b c).run.value = .ok x → ∀ ss : List Exporter.Step,
          PublishesHost (x.steps (ss ++ [.observe s])) model name lineage variant) ∧
        Agrees s.model model name lineage variant) ∧
    ∀ (b : Version) (m : Machine) (network : Network) (args : List Text) (t : Text),
      GivesModel args t → (execute b m network args).status = 0 →
        ∃ line, (execute b m network args).output = Text.line line ∧ Prints t line ∧
          GivenBack line := by
  constructor
  · intro s h accepted
    refine ⟨_, _, _, _, fun b c x created ss => publishesHost_observe created accepted ss,
      agrees_of_identified accepted⟩
  · intro b m network args t given well
    cases number : Model.readNumber t with
    | error cause =>
      rw [execute_of_no_number given number] at well
      cases well
    | ok n =>
      exact ⟨_, (execute_of_number given number).2, prints_of_number number,
        givenBack_classification n⟩

/-- A host of the shared model is published under its number, and the number in decimal prints a line
    whose name prints it again. -/
theorem labels_agree_shared :
    let s : Signature := ⟨intelVendor, 6, 0x55, 7⟩
    let h : Host := ⟨s, some .skylakeX, some .cascadeLakeX⟩
    let b : Version := .ofBuild "1.0" "main" ""
    let c : Config := ⟨"node", some "n1"⟩
    let x := showing c b none
    let line : Text := "0x55  INTEL_FAM6_SKYLAKE_X  (Big Core)"
    (Host.identify s).run.value = .ok h ∧ (Exporter.create b c).run.value = .ok x ∧
      PublishesHost (x.steps [.observe s]) "0x55" "INTEL_FAM6_SKYLAKE_X" "core" "Cascade Lake-X" ∧
      GivesModel ["--model", " 85"] " 85" ∧ Prints " 85" line ∧
      Prints "INTEL_FAM6_SKYLAKE_X" line := by
  intro s h b c x line
  have accepted : (Host.identify s).run.value = .ok h := by decide +kernel
  have created : (Exporter.create b c).run.value = .ok x :=
    value_create_eq_ok_iff.2 ⟨by decide, rfl⟩
  have given : GivesModel ["--model", " 85"] " 85" := ⟨_, rfl, rfl⟩
  obtain ⟨labels, texts⟩ := labels_agree
  refine ⟨accepted, created, ?_, given, ?_⟩
  · obtain ⟨model, name, lineage, variant, publishes, -⟩ := labels s h accepted
    have published := publishes b c x created []
    have found : Step.host? (.observe s) = some h := congrArg Except.toOption accepted
    have member : hostFamily c h ∈ (x.steps [.observe s]).gather := by
      rw [steps_of_create created, gather_showing, lastHost, List.filterMap_cons_some found]
      exact mem_shownFamilies.2 (.inr ⟨h, rfl, rfl⟩)
    obtain ⟨shown, series, values⟩ := published.labelled _ member rfl
    obtain rfl : hostSeriesLabels c h = shown := by simpa [hostFamily] using series
    rw [filter_host_labels] at values
    simp only [List.cons.injEq, Exposition.Label.mk.injEq, true_and, and_true] at values
    obtain ⟨rfl, rfl, rfl, rfl⟩ := values
    have number : numberLabel h.signature.model = ("0x55" : Text) := by decide +kernel
    rw [number] at published
    exact published
  · let m : Machine := ⟨fun _ _ => ⟨0, 0, 0, 0⟩, .ok []⟩
    let network : Network := fun _ => .error (.os .addressInUse)
    have number : Model.readNumber " 85" = .ok 0x55 := by decide +kernel
    have shown : classification 0x55 = line :=
      (classification_of_some (Model.ofNumber?_number .skylakeX)).trans (by decide +kernel)
    obtain ⟨well, output⟩ : (execute b m network ["--model", " 85"]).status = 0 ∧ _ :=
      execute_of_number given number
    rw [shown] at output
    obtain ⟨line', output', prints, back⟩ := texts b m network _ _ given well
    obtain rfl : line' = line := List.append_cancel_right (output'.symm.trans output)
    exact ⟨prints, back.named "0x55" "INTEL_FAM6_SKYLAKE_X" "(Big Core)" rfl⟩

end Program

end CpuIdentity
