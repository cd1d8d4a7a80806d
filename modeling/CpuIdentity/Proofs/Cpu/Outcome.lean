import CpuIdentity.Proofs.Catalogue.Name
import CpuIdentity.Proofs.Catalogue.Table
import CpuIdentity.Proofs.Cpu.Identification

/-!
# What comes of a signature

The vendor is looked at first and the family second, and a signature that fails there leaves nothing
in the log. Any other identifies a host: the model is the one in the catalogue with the number, the
stepping tells apart the parts that share the number 0x55, and the log ends with how the number is
classified. The text of a host shows its variant last.
-/

namespace CpuIdentity

namespace Variant

variable {model stepping : UInt8} {v : Variant}

/-- A stepping in the range of no variant. -/
def Unlisted (stepping : UInt8) : Prop :=
  ∀ v : Variant, ¬(v.steppings.1 ≤ stepping ∧ stepping ≤ v.steppings.2)

/-- The part that a stepping of the shared model tells. The first one also stands for the steppings
    that no range has. -/
def ofShared (stepping : UInt8) : Variant :=
  if 5 ≤ stepping ∧ stepping ≤ 7 then .cascadeLakeX
  else if 10 ≤ stepping ∧ stepping ≤ 11 then .cooperLakeX
  else .skylakeX

theorem mem_all (v : Variant) : v ∈ all := by
  cases v <;> decide

theorem covers_iff :
    v.covers stepping = true ↔ v.steppings.1 ≤ stepping ∧ stepping ≤ v.steppings.2 := by
  rw [covers, Bool.and_eq_true, decide_eq_true_eq, decide_eq_true_eq]

/-- A stepping in the range of a variant belongs to it. -/
theorem ofShared_of_covers (h : v.covers stepping = true) : ofShared stepping = v := by
  obtain ⟨first, last⟩ := covers_iff.1 h
  simp only [UInt8.le_iff_toNat_le] at first last
  unfold ofShared
  simp only [UInt8.le_iff_toNat_le]
  cases v with
  | skylakeX =>
    have low : stepping.toNat ≤ 4 := last
    have before : ¬5 ≤ stepping.toNat := by omega
    have far : ¬10 ≤ stepping.toNat := by omega
    exact (if_neg fun inside => before inside.1).trans (if_neg fun inside => far inside.1)
  | cascadeLakeX => exact if_pos ⟨first, last⟩
  | cooperLakeX =>
    have high : 10 ≤ stepping.toNat := first
    have beyond : ¬stepping.toNat ≤ 7 := by omega
    exact (if_neg fun inside => beyond inside.2).trans (if_pos ⟨first, last⟩)

/-- A stepping in no range is taken for the first variant. -/
theorem ofShared_of_unlisted (h : Unlisted stepping) : ofShared stepping = .skylakeX :=
  (if_neg (h .cascadeLakeX)).trans (if_neg (h .cooperLakeX))

theorem ofStepping?_eq_none_iff : ofStepping? stepping = none ↔ Unlisted stepping := by
  rw [ofStepping?, List.find?_eq_none]
  constructor
  · intro absent v inside
    exact absent v (mem_all v) (covers_iff.2 inside)
  · intro unlisted v _ covered
    exact unlisted v (covers_iff.1 covered)

theorem number_shared : Model.skylakeX.number = 0x55 := by decide

/-- Only the shared model has variants. -/
theorem refine_of_ne (h : model ≠ 0x55) : refine model stepping = ⟨[], none⟩ := by
  rw [refine, number_shared, if_pos h]
  rfl

theorem refine_of_listed (h : ¬Unlisted stepping) :
    refine 0x55 stepping = ⟨[], some (ofShared stepping)⟩ := by
  rw [refine, number_shared, if_neg (not_not.2 rfl)]
  cases known : ofStepping? stepping with
  | none => exact absurd (ofStepping?_eq_none_iff.1 known) h
  | some v =>
    have covered : v.covers stepping = true := by
      rw [ofStepping?] at known
      simpa using List.find?_some known
    rw [ofShared_of_covers covered]
    rfl

/-- A stepping in no range is warned of. -/
theorem refine_of_unlisted (h : Unlisted stepping) :
    refine 0x55 stepping = ⟨[.logged (.steppingUnexpected stepping)], some (ofShared stepping)⟩ := by
  rw [refine, number_shared, if_neg (not_not.2 rfl), ofStepping?_eq_none_iff.2 h,
    ofShared_of_unlisted h]
  rfl

end Variant

namespace Host

/-- The variant in brackets, as the text of a host shows it. -/
def bracketed (v : Variant) : Text := " (" ++ v.name ++ ")"

/-- Variants are told apart by the brackets at the end of a text. -/
theorem bracketed_injective {v v' : Variant} (h : bracketed v <:+ bracketed v') : v = v' := by
  revert h
  cases v <;> cases v' <;> decide

/-- Nothing stands in the name of a host but what names are made of or what stands for an unknown one.
    -/
theorem not_mem_name {c : Char} (other : Text.inRanges Text.nameRanges c = false) (known : c ∉ unknown)
    (h : Host) : c ∉ h.name := by
  cases model : h.model with
  | none =>
    rw [name, model]
    exact known
  | some m =>
    rw [name, model]
    intro inside
    have stands := m.nameRanges_of_mem_name c inside
    rw [other] at stands
    cases stands

theorem name_ne_nil (h : Host) : h.name ≠ [] := by
  cases known : h.model with
  | none =>
    rw [name, known]
    decide
  | some m =>
    rw [name, known]
    exact List.append_ne_nil_of_left_ne_nil (by decide) m.symbol

/-- The text of a host ends in the brackets of its variant and of no other. -/
theorem variant_eq_some_iff_text (h : Host) (v : Variant) :
    h.variant = some v ↔ bracketed v <:+ h.text := by
  constructor
  · intro known
    rw [text, known]
    exact List.suffix_append ..
  · intro shown
    cases known : h.variant with
    | some v' =>
      have last : bracketed v' <:+ h.text := by
        rw [text, known]
        exact List.suffix_append ..
      rcases List.suffix_or_suffix_of_suffix shown last with inside | inside
      · rw [bracketed_injective inside]
      · rw [bracketed_injective inside]
    | none =>
      -- Without a variant the name is last, and no name has a bracket.
      rw [text, known, variantText, List.append_nil] at shown
      obtain ⟨front, parts⟩ := shown
      have ends := congrArg List.getLast? parts
      rw [bracketed, ← List.append_assoc, List.getLast?_append_of_ne_nil _ (by decide),
        List.getLast?_append_of_ne_nil _ (name_ne_nil h)] at ends
      exact absurd (List.mem_of_getLast? ends.symm) (not_mem_name (by decide) (by decide) h)

/-- What is made of an accepted signature: the host, what is warned of before its number is classified,
and how it is classified. -/
structure Identified (s : Signature) (h : Host) (warnings : List Event) (verdict : Event) : Prop where
  signature : h.signature = s
  first : h.model = Model.all.find? fun m => m.number = s.model
  only : ∀ m, h.model = some m ↔ m.number = s.model
  variant : h.variant = if s.model = 0x55 then some (Variant.ofShared s.stepping) else none
  warned : s.model = 0x55 ∧ Variant.Unlisted s.stepping →
    warnings.map (fun e => (e.level, e)) = [(.warn, .steppingUnexpected s.stepping)]
  unwarned : ¬(s.model = 0x55 ∧ Variant.Unlisted s.stepping) → warnings = []
  catalogued : ∀ m, h.model = some m →
    (verdict.level, verdict) = (.info, .classified s.model m) ∧ m.name <:+ verdict.message
  uncatalogued : h.model = none → (verdict.level, verdict) = (.warn, .uncatalogued s.model)
  shown : ∀ v, h.variant = some v ↔ bracketed v <:+ h.text

theorem identified_of_refined {s : Signature} {warnings : List Event} {variant : Option Variant}
    (same : variant = if s.model = 0x55 then some (Variant.ofShared s.stepping) else none)
    (warned : s.model = 0x55 ∧ Variant.Unlisted s.stepping →
      warnings = [.steppingUnexpected s.stepping])
    (unwarned : ¬(s.model = 0x55 ∧ Variant.Unlisted s.stepping) → warnings = []) :
    Identified s ⟨s, Model.ofNumber? s.model, variant⟩ warnings
      (classificationEvent s.model (Model.ofNumber? s.model)) where
  signature := rfl
  first := Model.ofNumber?_eq_find? s.model
  only _ := Model.ofNumber?_eq_some_iff
  variant := same
  warned h := by
    rw [warned h]
    rfl
  unwarned := unwarned
  catalogued m known := by
    replace known : Model.ofNumber? s.model = some m := known
    rw [known]
    exact ⟨rfl, List.suffix_append ..⟩
  uncatalogued unknown := by
    replace unknown : Model.ofNumber? s.model = none := unknown
    rw [unknown]
    rfl
  shown := variant_eq_some_iff_text _

/-- A signature with the catalogued vendor and family is identified. -/
theorem identify_accepted {s : Signature} (vendor : s.vendor = intelVendor) (family : s.family = 6) :
    ∃ h warnings verdict, (identify s).run = ⟨(warnings ++ [verdict]).map .logged, .ok h⟩ ∧
      Identified s h warnings verdict := by
  have run := run_identify vendor family
  by_cases shared : s.model = 0x55
  · by_cases unlisted : Variant.Unlisted s.stepping
    · rw [shared, Variant.refine_of_unlisted unlisted, ← shared] at run
      refine ⟨_, [.steppingUnexpected s.stepping], _, run, identified_of_refined ?_ (fun _ => rfl) ?_⟩
      · rw [if_pos shared]
      · exact fun listed => absurd ⟨shared, unlisted⟩ listed
    · rw [shared, Variant.refine_of_listed unlisted, ← shared] at run
      refine ⟨_, [], _, run, identified_of_refined ?_ ?_ fun _ => rfl⟩
      · rw [if_pos shared]
      · exact fun h => absurd h.2 unlisted
  · rw [Variant.refine_of_ne shared] at run
    refine ⟨_, [], _, run, identified_of_refined ?_ ?_ fun _ => rfl⟩
    · rw [if_neg shared]
    · exact fun h => absurd h.1 shared

/-- A signature is refused for its vendor, whatever its family, or else for its family, in both cases
without a line in the log; any other is identified. -/
theorem identify_outcome (s : Signature) :
    ((identify s).run = ⟨[], .error (.unsupportedVendor s.vendor)⟩ ↔ s.vendor ≠ intelVendor) ∧
    ((identify s).run = ⟨[], .error (.unsupportedFamily s.family)⟩ ↔
      s.vendor = intelVendor ∧ s.family ≠ 6) ∧
    (s.vendor = intelVendor ∧ s.family = 6 →
      ∃ h warnings verdict, (identify s).run = ⟨(warnings ++ [verdict]).map .logged, .ok h⟩ ∧
        Identified s h warnings verdict) := by
  refine ⟨⟨?_, run_identify_of_vendor⟩, ⟨?_, fun h => run_identify_of_family h.1 h.2⟩,
    fun h => identify_accepted h.1 h.2⟩
  · intro run vendor
    have value := congrArg Traced.value run
    by_cases family : s.family = 6
    · rw [run_identify vendor family] at value
      cases value
    · rw [run_identify_of_family vendor family] at value
      cases value
  · intro run
    have value := congrArg Traced.value run
    by_cases vendor : s.vendor = intelVendor
    · refine ⟨vendor, fun family => ?_⟩
      rw [run_identify vendor family] at value
      cases value
    · rw [run_identify_of_vendor vendor] at value
      cases value

/-- The stepping 9 is between the ranges. -/
example : (identify ⟨intelVendor, 6, 0x55, 9⟩).run.trace =
    [.logged (.steppingUnexpected 9), .logged (.classified 0x55 .skylakeX)] := by decide +kernel

end Host

end CpuIdentity
