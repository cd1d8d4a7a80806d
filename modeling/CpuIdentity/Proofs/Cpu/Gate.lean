import CpuIdentity.Proofs.Cpu.Identification

/-!
# Which register values identify a host

A host is identified from three registers that spell the vendor and one that packs the rest into bit
fields. Of the 128 bits that decide, the vendor takes 96 and the base family four; the model and the
stepping are read from twelve more, and the last sixteen count for nothing.
-/

namespace CpuIdentity

/-- The bits from `first` to `last` of a word, as a number. -/
def bits (word : UInt32) (first last : Nat) : Nat := (word.toBitVec.extractLsb last first).toNat

/-- A field of a word is given by its first and its last bit. -/
theorem bitField_eq_bits (word : UInt32) (first last : Nat) :
    bitField word first (last - first + 1) = bits word first last := by
  rw [bits, BitVec.extractLsb_toNat, bitField, Nat.one_shiftLeft]
  rfl

/-- A field does not depend on the bits outside it. -/
theorem bitField_congr {word word' : UInt32} {low width : Nat}
    (same : ∀ i, low ≤ i → i < low + width → word'.toNat.testBit i = word.toNat.testBit i) :
    bitField word' low width = bitField word low width := by
  apply Nat.eq_of_testBit_eq
  intro i
  simp only [bitField, Nat.one_shiftLeft, Nat.testBit_mod_two_pow, Nat.testBit_shiftRight]
  by_cases inside : i < width
  · rw [same (low + i) (by omega) (by omega)]
  · simp [inside]

namespace Signature

theorem displayModel_lt (eax : UInt32) : displayModel eax < 256 := by
  have base : bitField eax 4 4 < 16 := bitField_lt eax 4 4
  have extended : bitField eax 16 4 < 16 := bitField_lt eax 16 4
  unfold displayModel
  split <;> omega

theorem toNat_model (vendor : Text) (eax : UInt32) :
    (ofVersionWord vendor eax).model.toNat = displayModel eax :=
  UInt8.toNat_ofNat_of_lt' (displayModel_lt eax)

theorem toNat_stepping (vendor : Text) (eax : UInt32) :
    (ofVersionWord vendor eax).stepping.toNat = bits eax 0 3 := by
  have small : bitField eax 0 4 < 256 := Nat.lt_trans (bitField_lt eax 0 4) (by decide)
  rw [← bitField_eq_bits]
  exact UInt8.toNat_ofNat_of_lt' small

/-- For base family 6 the extended model counts. -/
theorem toNat_model_of_base (vendor : Text) {eax : UInt32} (base : bitField eax 8 4 = 6) :
    (ofVersionWord vendor eax).model.toNat = 16 * bits eax 16 19 + bits eax 4 7 := by
  rw [toNat_model, displayModel, if_pos (.inl base), ← bitField_eq_bits, ← bitField_eq_bits,
    Nat.mul_comm]

/-- The extended family counts for the base family 15 only. -/
theorem displayFamily_eq_bits (eax : UInt32) :
    displayFamily eax = bits eax 8 11 + if bits eax 8 11 = 15 then bits eax 20 27 else 0 := by
  rw [← bitField_eq_bits, ← bitField_eq_bits, displayFamily]
  split
  · rfl
  · rfl

/-- Two version words with base family 6 tell the same if they agree on the base fields and on the
    extended model. -/
theorem ofVersionWord_congr (vendor : Text) {eax eax' : UInt32} (base : bitField eax 8 4 = 6)
    (same : ∀ i, i < 12 ∨ 16 ≤ i ∧ i < 20 → eax'.toNat.testBit i = eax.toNat.testBit i) :
    ofVersionWord vendor eax' = ofVersionWord vendor eax := by
  have field {low width : Nat} (inside : low + width ≤ 12 ∨ 16 ≤ low ∧ low + width ≤ 20) :
      bitField eax' low width = bitField eax low width :=
    bitField_congr fun i above below => same i (by omega)
  have family : bitField eax' 8 4 = bitField eax 8 4 := field (by omega)
  have model : bitField eax' 4 4 = bitField eax 4 4 := field (by omega)
  have extended : bitField eax' 16 4 = bitField eax 16 4 := field (by omega)
  have stepping : bitField eax' 0 4 = bitField eax 0 4 := field (by omega)
  have notFifteen : ¬bitField eax 8 4 = 15 := by omega
  simp only [ofVersionWord, displayFamily, displayModel, family, model, extended, stepping,
    if_neg notFifteen]

end Signature

/-- The three words that spell the catalogued vendor. -/
def SpellsIntel (ebx edx ecx : UInt32) : Prop :=
  ebx = 0x756E6547 ∧ edx = 0x49656E69 ∧ ecx = 0x6C65746E

namespace Host

/-- Identifies a host from the registers that hold its vendor and from its version word. -/
def ofRegisters (ebx edx ecx eax : UInt32) : Run Host :=
  identify (.ofVersionWord (vendorText ebx edx ecx) eax)

/-- The registers give a host exactly if they spell the vendor and the base family is 6. -/
theorem ofRegisters_ok_iff (ebx edx ecx eax : UInt32) :
    (∃ h, (ofRegisters ebx edx ecx eax).run.value = .ok h) ↔
      SpellsIntel ebx edx ecx ∧ bits eax 8 11 = 6 := by
  rw [ofRegisters, identify_ok_iff, family_eq_six_iff, ← bitField_eq_bits]
  exact and_congr vendorText_eq_iff Iff.rfl

/-- A host is identified exactly if the registers spell the vendor and the base family is 6. Its model
    and its stepping are those of the version word, in which no bits but those of the four fields
    count. Without the vendor the fault tells the vendor text; with it, the displayed family. -/
theorem ofRegisters_gate (ebx edx ecx eax : UInt32) :
    ((∃ h, (ofRegisters ebx edx ecx eax).run.value = .ok h) ↔
      SpellsIntel ebx edx ecx ∧ bits eax 8 11 = 6) ∧
    (∀ h, (ofRegisters ebx edx ecx eax).run.value = .ok h →
      h.signature.model.toNat = 16 * bits eax 16 19 + bits eax 4 7 ∧
      h.signature.stepping.toNat = bits eax 0 3 ∧
      ∀ eax', (∀ i, i < 12 ∨ 16 ≤ i ∧ i < 20 → eax'.toNat.testBit i = eax.toNat.testBit i) →
        (ofRegisters ebx edx ecx eax').run = (ofRegisters ebx edx ecx eax).run) ∧
    (¬SpellsIntel ebx edx ecx → (ofRegisters ebx edx ecx eax).run.value =
      .error (.unsupportedVendor (vendorText ebx edx ecx))) ∧
    (SpellsIntel ebx edx ecx → bits eax 8 11 ≠ 6 → ∃ family,
      (ofRegisters ebx edx ecx eax).run.value = .error (.unsupportedFamily family) ∧
      family.toNat = bits eax 8 11 + if bits eax 8 11 = 15 then bits eax 20 27 else 0) := by
  refine ⟨ofRegisters_ok_iff ebx edx ecx eax, ?_, ?_, ?_⟩
  · intro h identified
    obtain ⟨spelled, six⟩ := (ofRegisters_ok_iff ebx edx ecx eax).1 ⟨h, identified⟩
    have base : bitField eax 8 4 = 6 := (bitField_eq_bits eax 8 11).trans six
    have run := run_identify (vendorText_eq_iff.2 spelled)
      ((family_eq_six_iff (vendorText ebx edx ecx) eax).2 base)
    rw [ofRegisters, run] at identified
    cases identified
    refine ⟨Signature.toNat_model_of_base _ base, Signature.toNat_stepping _ eax, ?_⟩
    intro eax' same
    rw [ofRegisters, ofRegisters, Signature.ofVersionWord_congr _ base same]
  · intro other
    rw [ofRegisters, run_identify_of_vendor fun same => other (vendorText_eq_iff.1 same)]
    rfl
  · intro spelled other
    have family : (Signature.ofVersionWord (vendorText ebx edx ecx) eax).family ≠ 6 := by
      intro six
      exact other ((bitField_eq_bits eax 8 11).symm.trans ((family_eq_six_iff _ eax).1 six))
    have shown := (toNat_family (vendorText ebx edx ecx) eax).trans
      (Signature.displayFamily_eq_bits eax)
    refine ⟨_, ?_, shown⟩
    rw [ofRegisters, run_identify_of_family (vendorText_eq_iff.2 spelled) family]

end Host

end CpuIdentity
