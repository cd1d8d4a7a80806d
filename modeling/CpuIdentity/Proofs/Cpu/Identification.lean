import CpuIdentity.Proofs.Run
import CpuIdentity.Proofs.Utf8

/-!
# Which hosts are identified

The twelve bytes of the vendor text can be read back from it unless it holds a replacement character,
so one text comes from one choice of the three registers. The displayed family is 6 exactly if the
base family is. Together this says which answers of the CPUID instruction identify a host.
-/

namespace CpuIdentity

theorem bitField_lt (word : UInt32) (low width : Nat) : bitField word low width < 1 <<< width := by
  apply Nat.mod_lt
  rw [Nat.one_shiftLeft]
  exact Nat.two_pow_pos width

theorem toNat_byte (word : UInt32) (low : Nat) :
    (UInt8.ofNat (bitField word low 8)).toNat = bitField word low 8 :=
  UInt8.toNat_ofNat_of_lt' (bitField_lt word low 8)

/-- A word is the sum of its bytes. -/
theorem toNat_eq_bytes (word : UInt32) :
    word.toNat = bitField word 0 8 + 256 * bitField word 8 8 + 65536 * bitField word 16 8 +
      16777216 * bitField word 24 8 := by
  have bound := word.toNat_lt
  simp only [bitField, Nat.shiftRight_eq_div_pow, Nat.one_shiftLeft]
  omega

theorem wordBytes_injective {w w' : UInt32} (h : wordBytes w = wordBytes w') : w = w' := by
  have byte {low : Nat} (same : UInt8.ofNat (bitField w low 8) = UInt8.ofNat (bitField w' low 8)) :
      bitField w low 8 = bitField w' low 8 := by
    have values := congrArg UInt8.toNat same
    rwa [toNat_byte, toNat_byte] at values
  simp only [wordBytes, List.map_cons, List.map_nil, List.cons.injEq, and_true] at h
  obtain ⟨h0, h8, h16, h24⟩ := h
  apply UInt32.toNat_inj.1
  rw [toNat_eq_bytes w, toNat_eq_bytes w', byte h0, byte h8, byte h16, byte h24]

theorem length_wordBytes (w : UInt32) : (wordBytes w).length = 4 := rfl

/-- Three words are told by their bytes in a row. -/
theorem wordBytes_append_inj {b d c b' d' c' : UInt32}
    (h : wordBytes b ++ wordBytes d ++ wordBytes c = wordBytes b' ++ wordBytes d' ++ wordBytes c') :
    b = b' ∧ d = d' ∧ c = c' := by
  have lengths (w w' : UInt32) : (wordBytes w).length = (wordBytes w').length :=
    (length_wordBytes w).trans (length_wordBytes w').symm
  obtain ⟨front, hc⟩ := List.append_inj' h (lengths _ _)
  obtain ⟨hb, hd⟩ := List.append_inj' front (lengths _ _)
  exact ⟨wordBytes_injective hb, wordBytes_injective hd, wordBytes_injective hc⟩

/-- A replacement character would show in the vendor text, and without one the text tells its bytes. -/
theorem vendorText_eq_intelVendor {ebx edx ecx : UInt32} :
    vendorText ebx edx ecx = intelVendor ↔
      wordBytes ebx ++ wordBytes edx ++ wordBytes ecx = Utf8.encode intelVendor := by
  constructor
  · intro h
    have plain : '\uFFFD' ∉ vendorText ebx edx ecx := by
      rw [h]
      decide
    rw [← h]
    exact (Utf8.encode_decodeLossy plain).symm
  · intro h
    rw [vendorText, h]
    decide +kernel

/-- Only these three words spell the catalogued vendor. -/
theorem vendorText_eq_iff {ebx edx ecx : UInt32} :
    vendorText ebx edx ecx = intelVendor ↔
      ebx = 0x756E6547 ∧ edx = 0x49656E69 ∧ ecx = 0x6C65746E := by
  have spelled : vendorText 0x756E6547 0x49656E69 0x6C65746E = intelVendor := by decide +kernel
  constructor
  · intro h
    apply wordBytes_append_inj
    rw [vendorText_eq_intelVendor.1 h, vendorText_eq_intelVendor.1 spelled]
  · rintro ⟨rfl, rfl, rfl⟩
    exact spelled

theorem displayFamily_lt (eax : UInt32) : Signature.displayFamily eax < 512 := by
  have base : bitField eax 8 4 < 16 := bitField_lt eax 8 4
  have extended : bitField eax 20 8 < 256 := bitField_lt eax 20 8
  unfold Signature.displayFamily
  split <;> omega

theorem toNat_family (vendor : Text) (eax : UInt32) :
    (Signature.ofVersionWord vendor eax).family.toNat = Signature.displayFamily eax :=
  UInt32.toNat_ofNat_of_lt' (Nat.lt_trans (displayFamily_lt eax) (by decide))

/-- An extended family counts for base family 15 only, so it can neither make family 6 nor unmake it. -/
theorem family_eq_six_iff (vendor : Text) (eax : UInt32) :
    (Signature.ofVersionWord vendor eax).family = 6 ↔ bitField eax 8 4 = 6 := by
  have six : (6 : UInt32).toNat = 6 := by decide
  rw [← UInt32.toNat_inj, toNat_family, six]
  -- With base family 15 the sum is 15 at least.
  unfold Signature.displayFamily
  split <;> omega

/-! ## Identification -/

namespace Host

/-- Any other vendor is refused, and nothing is logged. -/
theorem run_identify_of_vendor {s : Signature} (h : s.vendor ≠ intelVendor) :
    (identify s).run = ⟨[], .error (.unsupportedVendor s.vendor)⟩ := by
  have other : s.isIntel = false := by simp [Signature.isIntel, h]
  unfold identify
  rw [if_pos other]
  rfl

/-- Any other family is refused, and nothing is logged. -/
theorem run_identify_of_family {s : Signature} (vendor : s.vendor = intelVendor)
    (h : s.family ≠ 6) : (identify s).run = ⟨[], .error (.unsupportedFamily s.family)⟩ := by
  have intel : ¬s.isIntel = false := by simp [Signature.isIntel, vendor]
  unfold identify
  rw [if_neg intel, if_pos h]
  rfl

/-- The catalogued vendor and family give a host, and its model is classified in the log. -/
theorem run_identify {s : Signature} (vendor : s.vendor = intelVendor) (family : s.family = 6) :
    (identify s).run =
      ⟨(Variant.refine s.model s.stepping).trace ++
          [.logged (classificationEvent s.model (Model.ofNumber? s.model))],
        .ok ⟨s, Model.ofNumber? s.model, (Variant.refine s.model s.stepping).value⟩⟩ := by
  have intel : ¬s.isIntel = false := by simp [Signature.isIntel, vendor]
  unfold identify
  rw [if_neg intel, if_neg fun other => other family, Run.run_bind_of_ok (Run.run_liftM _)]
  rfl

/-- Of the three things that can come of a signature only the last identifies a host. -/
theorem identify_cases (s : Signature) :
    (s.vendor ≠ intelVendor ∧ (identify s).run = ⟨[], .error (.unsupportedVendor s.vendor)⟩) ∨
    (s.vendor = intelVendor ∧ s.family ≠ 6 ∧
      (identify s).run = ⟨[], .error (.unsupportedFamily s.family)⟩) ∨
    (s.vendor = intelVendor ∧ s.family = 6 ∧ ∃ h, (identify s).run =
      ⟨(Variant.refine s.model s.stepping).trace ++
        [.logged (classificationEvent s.model (Model.ofNumber? s.model))], .ok h⟩) := by
  by_cases vendor : s.vendor = intelVendor
  · by_cases family : s.family = 6
    · exact .inr (.inr ⟨vendor, family, _, run_identify vendor family⟩)
    · exact .inr (.inl ⟨vendor, family, run_identify_of_family vendor family⟩)
  · exact .inl ⟨vendor, run_identify_of_vendor vendor⟩

/-- A signature gives a host exactly if it has the catalogued vendor and family. -/
theorem identify_ok_iff (s : Signature) :
    (∃ h, (identify s).run.value = .ok h) ↔ s.vendor = intelVendor ∧ s.family = 6 := by
  rcases identify_cases s with ⟨vendor, run⟩ | ⟨vendor, family, run⟩ | ⟨vendor, family, h, run⟩
  · rw [run]
    refine iff_of_false ?_ fun accepted => vendor accepted.1
    rintro ⟨h, ⟨⟩⟩
  · rw [run]
    refine iff_of_false ?_ fun accepted => family accepted.2
    rintro ⟨h, ⟨⟩⟩
  · rw [run]
    exact iff_of_true ⟨h, rfl⟩ ⟨vendor, family⟩

end Host

/-- The signature that a machine tells. -/
def Machine.told (m : Machine) : Signature :=
  .ofVersionWord
    (vendorText (m.registers 0 0).ebx (m.registers 0 0).edx (m.registers 0 0).ecx)
    (m.registers 1 0).eax

theorem Machine.signature_eq (m : Machine) :
    m.signature =
      ⟨[.cpuid 0 0, .cpuid 1 0, .logged (.versionWordRead (m.registers 1 0).eax m.told)],
        m.told⟩ := rfl

namespace Host

/-- What the search for the host does before it looks at the signature. -/
def probing (m : Machine) : List Effect :=
  [.cpuid 0 0, .cpuid 1 0, .logged (.versionWordRead (m.registers 1 0).eax m.told),
    .logged (.processorFound m.told)]

/-- A host is detected by two questions to the processor and one identification. -/
theorem run_detect (m : Machine) :
    (detect m).run = ⟨probing m ++ (identify m.told).run.trace, (identify m.told).run.value⟩ := by
  unfold detect
  rw [Run.run_bind_of_ok (Run.run_liftM _), Machine.signature_eq]
  rfl

/-- The answers of the CPUID instruction that identify a host: the registers of leaf 0 spell the vendor
    and the version word of leaf 1 has the family. -/
def answersIntel (m : Machine) : Prop :=
  wordBytes (m.registers 0 0).ebx ++ wordBytes (m.registers 0 0).edx ++
      wordBytes (m.registers 0 0).ecx = Utf8.encode intelVendor ∧
    bitField (m.registers 1 0).eax 8 4 = 6

theorem silent_refine (model stepping : UInt8) :
    Effect.Silent (Variant.refine model stepping).trace := by
  unfold Variant.refine
  split
  · exact Effect.silent_nil
  · split
    · exact Effect.silent_nil
    · exact Effect.silent_nil.logged _

theorem silent_identify (s : Signature) : Effect.Silent (identify s).run.trace := by
  rcases identify_cases s with ⟨-, run⟩ | ⟨-, -, run⟩ | ⟨-, -, h, run⟩
  · rw [run]
    exact Effect.silent_nil
  · rw [run]
    exact Effect.silent_nil
  · rw [run]
    exact (silent_refine _ _).append (Effect.silent_nil.logged _)

theorem silent_detect (m : Machine) : Effect.Silent (detect m).run.trace := by
  rw [run_detect]
  refine Effect.Silent.append ?_ (silent_identify m.told)
  exact (((Effect.silent_nil.logged _).logged _).cpuid 1 0).cpuid 0 0

theorem silent_detect? (m : Machine) : Effect.Silent (detect? m).trace := by
  unfold detect?
  rw [Traced.trace_bind]
  apply (silent_detect m).append
  cases (detect m).run.value with
  | ok h => exact Effect.silent_nil
  | error cause => exact Effect.silent_nil.logged _

/-- The registers answer for a catalogued part exactly if the signature that they tell does. -/
theorem answersIntel_iff (m : Machine) :
    answersIntel m ↔ m.told.vendor = intelVendor ∧ m.told.family = 6 :=
  and_congr vendorText_eq_intelVendor.symm (family_eq_six_iff _ _).symm

/-- A host is identified exactly from these answers. -/
theorem detect_ok_iff (m : Machine) :
    (∃ h, (detect m).run.value = .ok h) ↔ answersIntel m := by
  rw [run_detect, answersIntel_iff]
  exact identify_ok_iff m.told

end Host

end CpuIdentity
