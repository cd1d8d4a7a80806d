import CpuIdentity.Proofs.Catalogue.Printed
import CpuIdentity.Proofs.Cpu.Outcome

/-!
# What the text of a host tells

The vendor comes first in the text of a signature and may be any text, so the text is read from its
end: a number has no space in it, so the last space stands before the stepping, and the labels take
the reader from there to the model, the family and the vendor. The text of a host goes on with a
colon, which stands nowhere behind it again, the name and the variant. So no two signatures have one
text, and no two hosts.
-/

namespace CpuIdentity

namespace Text

variable {c : Char} {front front' back back' : Text}

/-- A text has one last place of a character. -/
theorem last_place_unique (plain : c ∉ back) (plain' : c ∉ back')
    (same : front ++ c :: back = front' ++ c :: back') : front = front' ∧ back = back' := by
  -- If one front went on after the other, the character would stand behind its last place.
  rcases List.append_eq_append_iff.1 same with ⟨more, longer, rest⟩ | ⟨more, longer, rest⟩
  · cases more with
    | nil => exact ⟨(longer.trans (List.append_nil front)).symm, (List.cons.inj rest).2⟩
    | cons d more =>
      have inside : c ∈ back := by
        rw [(List.cons.inj rest).2]
        exact List.mem_append_right more List.mem_cons_self
      exact absurd inside plain
  · cases more with
    | nil => exact ⟨longer.trans (List.append_nil front'), (List.cons.inj rest).2.symm⟩
    | cons d more =>
      have inside : c ∈ back' := by
        rw [(List.cons.inj rest).2]
        exact List.mem_append_right more List.mem_cons_self
      exact absurd inside plain'

theorem space_not_mem_hexUpper (n : Nat) : ' ' ∉ hexUpper n := by
  intro member
  have range := (denotes_hexUpper n).range (Nat.le_refl 16) ' ' member
  revert range
  decide

/-- A label and a number at the end of a text leave no choice for what stands before them. -/
theorem last_field_unique {label : Text} {n n' : Nat}
    (same : front ++ label ++ " " ++ hexUpper n = front' ++ label ++ " " ++ hexUpper n') :
    front = front' ∧ n = n' := by
  have grouped (front : Text) (n : Nat) :
      front ++ label ++ " " ++ hexUpper n = (front ++ label) ++ ' ' :: hexUpper n := by simp
  rw [grouped, grouped] at same
  obtain ⟨labelled, number⟩ :=
    last_place_unique (space_not_mem_hexUpper n) (space_not_mem_hexUpper n') same
  exact ⟨List.append_cancel_right labelled, hexUpper_injective number⟩

end Text

namespace Signature

/-- A signature is told apart from every other by its text. -/
theorem text_injective {s s' : Signature} (h : s.text = s'.text) : s = s' := by
  have fields (s : Signature) : s.text = s.vendor ++ " Family" ++ " " ++ Text.hexUpper s.family.toNat ++
      ", Model" ++ " " ++ Text.hexUpper s.model.toNat ++ ", Stepping" ++ " " ++
        Text.hexUpper s.stepping.toNat := by
    simp [text]
  rw [fields, fields] at h
  obtain ⟨front, stepping⟩ := Text.last_field_unique h
  obtain ⟨front, model⟩ := Text.last_field_unique front
  obtain ⟨vendor, family⟩ := Text.last_field_unique front
  obtain ⟨_, _, _, _⟩ := s
  obtain ⟨_, _, _, _⟩ := s'
  rw [mk.injEq]
  exact ⟨vendor, UInt32.toNat_inj.1 family, UInt8.toNat_inj.1 model, UInt8.toNat_inj.1 stepping⟩

end Signature

namespace Host

variable {h h' : Host}

/-- A model has one name, and none has the name that stands for an unknown one. -/
theorem model_eq_of_name (same : h.name = h'.name) : h.model = h'.model := by
  unfold name at same
  cases known : h.model with
  | none =>
    cases known' : h'.model with
    | none => rfl
    | some m' =>
      rw [known, known'] at same
      exact absurd same.symm m'.name_ne_unknown
  | some m =>
    cases known' : h'.model with
    | none =>
      rw [known, known'] at same
      exact absurd same m.name_ne_unknown
    | some m' =>
      rw [known, known'] at same
      rw [Model.symbol_injective (List.append_cancel_left same)]

/-- Hosts with one text have one variant. -/
theorem variant_eq_of_text (same : h.text = h'.text) : h.variant = h'.variant := by
  refine Option.ext fun v => ?_
  rw [variant_eq_some_iff_text, variant_eq_some_iff_text, same]

/-- A host is told apart from every other by its text. -/
theorem text_injective (same : h.text = h'.text) : h = h' := by
  have variant := variant_eq_of_text same
  have parts (h : Host) : h.text =
      h.signature.text ++ ':' :: (" " ++ h.name) ++ variantText h.variant := by
    simp [text]
  have colon (h : Host) : ':' ∉ (" " ++ h.name : Text) := by
    have plain := not_mem_name (c := ':') (by decide) (by decide) h
    simp [plain]
  rw [parts, parts, variant] at same
  obtain ⟨signature, named⟩ :=
    Text.last_place_unique (colon h) (colon h') (List.append_cancel_right same)
  have model := model_eq_of_name (List.append_cancel_left named)
  obtain ⟨_, _, _⟩ := h
  obtain ⟨_, _, _⟩ := h'
  rw [mk.injEq]
  exact ⟨Signature.text_injective signature, model, variant⟩

theorem signature_of_identified {s : Signature} (accepted : (identify s).run.value = .ok h) :
    h.signature = s := by
  obtain ⟨vendor, family⟩ := (identify_ok_iff s).1 ⟨h, accepted⟩
  rw [run_identify vendor family] at accepted
  cases accepted
  rfl

/-- The text of a signature tells it, whatever its vendor, family, model and stepping; the text of a
    host tells its signature, model and variant; and if two signatures lead to hosts with one text,
    they are one signature, and the hosts are one host. -/
theorem text_identifies :
    (∀ s s' : Signature, s.text = s'.text → s = s') ∧
    (∀ h h' : Host, h.text = h'.text → h = h') ∧
    ∀ (s s' : Signature) (h h' : Host), (identify s).run.value = .ok h →
      (identify s').run.value = .ok h' → h.text = h'.text → s = s' ∧ h = h' := by
  refine ⟨fun _ _ => Signature.text_injective, fun _ _ => text_injective, ?_⟩
  intro s s' h h' accepted accepted' same
  have one := text_injective same
  have told := signature_of_identified accepted
  rw [one, signature_of_identified accepted'] at told
  exact ⟨told.symm, one⟩

/-- A vendor that ends like a whole signature makes another text, and so does another stepping of one
    model. -/
theorem text_identifies_vendor :
    let s : Signature := ⟨"GenuineIntel", 6, 0x55, 7⟩
    let imitated : Signature := ⟨"GenuineIntel Family 6, Model 55, Stepping 7", 6, 0x55, 7⟩
    let older : Signature := ⟨"GenuineIntel", 6, 0x55, 4⟩
    s.text <+: imitated.text ∧ s.text ≠ imitated.text ∧
      ∃ h h', (identify s).run.value = .ok h ∧ (identify older).run.value = .ok h' ∧
        h.text ≠ h'.text := by
  intro s imitated older
  obtain ⟨signatures, -, hosts⟩ := text_identifies
  obtain ⟨h, accepted⟩ := (identify_ok_iff s).2 ⟨rfl, rfl⟩
  obtain ⟨h', accepted'⟩ := (identify_ok_iff older).2 ⟨rfl, rfl⟩
  refine ⟨by decide, mt (signatures s imitated) (by decide), h, h', accepted, accepted', ?_⟩
  intro same
  exact absurd (hosts s older h h' accepted accepted' same).1 (by decide)

end Host

end CpuIdentity
