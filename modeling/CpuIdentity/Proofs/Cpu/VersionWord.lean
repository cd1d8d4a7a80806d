import CpuIdentity.Proofs.Cpu.Gate
import Mathlib.Tactic.SplitIfs

/-!
# What a version word tells

The stepping, the model and the family of a signature are sums of bit fields. Which fields count is
settled by the base family, so two words tell the same exactly if they agree on those fields, and each
signature that the sums leave possible is told by some word. Arithmetic on words gives these sums: no
carry is lost, and the model and the stepping fit into a byte.
-/

namespace CpuIdentity

/-- Two words have the same bits from `first` to `last`. -/
def AgreeOn (first last : Nat) (word word' : UInt32) : Prop :=
  ∀ i, first ≤ i → i ≤ last → word.toNat.testBit i = word'.toNat.testBit i

variable {word word' : UInt32}

theorem testBit_bitField {low width i : Nat} (inside : i < width) :
    (bitField word low width).testBit i = word.toNat.testBit (low + i) := by
  simp [bitField, Nat.one_shiftLeft, inside]

/-- Words have one field exactly if they agree on its bits. -/
theorem bits_eq_iff {first last : Nat} (h : first ≤ last) :
    bits word first last = bits word' first last ↔ AgreeOn first last word word' := by
  rw [← bitField_eq_bits, ← bitField_eq_bits]
  constructor
  · intro same i above below
    have bit := congrArg (Nat.testBit · (i - first)) same
    rw [testBit_bitField (by omega), testBit_bitField (by omega)] at bit
    rwa [Nat.add_sub_of_le above] at bit
  · intro agree
    exact bitField_congr fun i above below => agree i above (by omega)

/-- Words agree on a range of bits exactly if they do on both of its parts. -/
theorem agreeOn_split {first middle last : Nat} (h : first ≤ middle) (h' : middle ≤ last) :
    AgreeOn first last word word' ↔
      AgreeOn first middle word word' ∧ AgreeOn (middle + 1) last word word' := by
  constructor
  · intro agree
    exact ⟨fun i above below => agree i above (by omega), fun i above => agree i (by omega)⟩
  · rintro ⟨low, high⟩ i above below
    by_cases inside : i ≤ middle
    · exact low i above inside
    · exact high i (by omega) below

theorem bits_lt (word : UInt32) (first last : Nat) :
    bits word first last < 1 <<< (last - first + 1) := by
  rw [← bitField_eq_bits]
  exact bitField_lt ..

namespace Signature

/-- The extended model counts for the base families 6 and 15 only. -/
theorem displayModel_eq_bits (eax : UInt32) :
    displayModel eax = bits eax 4 7 +
      if bits eax 8 11 = 6 ∨ bits eax 8 11 = 15 then 16 * bits eax 16 19 else 0 := by
  have low : bitField eax 4 4 = bits eax 4 7 := bitField_eq_bits eax 4 7
  have base : bitField eax 8 4 = bits eax 8 11 := bitField_eq_bits eax 8 11
  have extended : bitField eax 16 4 = bits eax 16 19 := bitField_eq_bits eax 16 19
  rw [displayModel, low, base, extended]
  split
  · omega
  · rfl

theorem ofVersionWord_eq_mk_iff (vendor : Text) {eax family : UInt32} {model stepping : UInt8} :
    ofVersionWord vendor eax = ⟨vendor, family, model, stepping⟩ ↔
      displayFamily eax = family.toNat ∧ displayModel eax = model.toNat ∧
        bits eax 0 3 = stepping.toNat := by
  rw [← toNat_family vendor, ← toNat_model vendor, ← toNat_stepping vendor, UInt32.toNat_inj,
    UInt8.toNat_inj, UInt8.toNat_inj]
  constructor
  · intro told
    rw [told]
    exact ⟨rfl, rfl, rfl⟩
  · rintro ⟨rfl, rfl, rfl⟩
    rfl

theorem ofVersionWord_eq_iff_display (vendor : Text) :
    ofVersionWord vendor word = ofVersionWord vendor word' ↔
      (displayFamily word = displayFamily word' ∧ displayModel word = displayModel word') ∧
        bits word 0 3 = bits word' 0 3 := by
  rw [← toNat_family vendor word', ← toNat_model vendor word', ← toNat_stepping vendor word', and_assoc]
  exact ofVersionWord_eq_mk_iff vendor

/-- Only base family 15 reaches a display family of 15 or more, so the display values tell which fields
they were made of. -/
theorem display_eq_iff :
    (displayFamily word = displayFamily word' ∧ displayModel word = displayModel word') ↔
      bits word 4 7 = bits word' 4 7 ∧ bits word 8 11 = bits word' 8 11 ∧
      (bits word 8 11 = 6 ∨ bits word 8 11 = 15 → bits word 16 19 = bits word' 16 19) ∧
      (bits word 8 11 = 15 → bits word 20 27 = bits word' 20 27) := by
  have base : bits word 8 11 < 16 := bits_lt word 8 11
  have base' : bits word' 8 11 < 16 := bits_lt word' 8 11
  have low : bits word 4 7 < 16 := bits_lt word 4 7
  have low' : bits word' 4 7 < 16 := bits_lt word' 4 7
  rw [displayFamily_eq_bits, displayFamily_eq_bits, displayModel_eq_bits, displayModel_eq_bits]
  split_ifs <;> omega

/-- Words have one signature exactly if they agree on the bits that count for it. -/
theorem ofVersionWord_eq_iff (vendor : Text) :
    ofVersionWord vendor word = ofVersionWord vendor word' ↔
      AgreeOn 0 11 word word' ∧
      (bits word 8 11 = 6 ∨ bits word 8 11 = 15 → AgreeOn 16 19 word word') ∧
      (bits word 8 11 = 15 → AgreeOn 20 27 word word') := by
  rw [ofVersionWord_eq_iff_display, display_eq_iff,
    agreeOn_split (by decide : 0 ≤ 3) (by decide : 3 ≤ 11),
    agreeOn_split (by decide : 4 ≤ 7) (by decide : 7 ≤ 11),
    ← bits_eq_iff (by decide : 0 ≤ 3), ← bits_eq_iff (by decide : 4 ≤ 7),
    ← bits_eq_iff (by decide : 8 ≤ 11), ← bits_eq_iff (by decide : 16 ≤ 19),
    ← bits_eq_iff (by decide : 20 ≤ 27)]
  constructor
  · rintro ⟨⟨low, base, extendedModel, extendedFamily⟩, stepping⟩
    exact ⟨⟨stepping, low, base⟩, extendedModel, extendedFamily⟩
  · rintro ⟨⟨stepping, low, base⟩, extendedModel, extendedFamily⟩
    exact ⟨⟨low, base, extendedModel, extendedFamily⟩, stepping⟩

/-- The version word with these fields. -/
def packed (stepping low base extendedModel extendedFamily : Nat) : UInt32 :=
  UInt32.ofNat (stepping + 16 * low + 256 * base + 65536 * extendedModel + 1048576 * extendedFamily)

/-- The fields of a word that was packed from them. -/
theorem bits_packed {stepping low base extendedModel extendedFamily : Nat}
    (hs : stepping < 16) (hl : low < 16) (hb : base < 16) (hm : extendedModel < 16)
    (hf : extendedFamily < 256) :
    let word := packed stepping low base extendedModel extendedFamily
    bits word 0 3 = stepping ∧ bits word 4 7 = low ∧ bits word 8 11 = base ∧
      bits word 16 19 = extendedModel ∧ bits word 20 27 = extendedFamily := by
  have value : (packed stepping low base extendedModel extendedFamily).toNat =
      stepping + 16 * low + 256 * base + 65536 * extendedModel + 1048576 * extendedFamily :=
    UInt32.toNat_ofNat_of_lt' (by show _ < 4294967296; omega)
  simp only [← bitField_eq_bits, bitField, value, Nat.shiftRight_eq_div_pow, Nat.one_shiftLeft]
  omega

/-- A signature is told by some version word exactly if its values are possible sums of fields. -/
theorem exists_ofVersionWord_iff (vendor : Text) (family : UInt32) (model stepping : UInt8) :
    (∃ eax, ofVersionWord vendor eax = ⟨vendor, family, model, stepping⟩) ↔
      stepping.toNat ≤ 15 ∧
      (family.toNat ≤ 14 ∧ family.toNat ≠ 6 ∧ model.toNat ≤ 15 ∨
        family.toNat = 6 ∧ model.toNat ≤ 255 ∨
        15 ≤ family.toNat ∧ family.toNat ≤ 270 ∧ model.toNat ≤ 255) := by
  have byte : model.toNat < 256 := model.toNat_lt
  constructor
  · rintro ⟨eax, told⟩
    obtain ⟨hf, hm, hs⟩ := (ofVersionWord_eq_mk_iff vendor).1 told
    have stepping_lt : bits eax 0 3 < 16 := bits_lt eax 0 3
    have low_lt : bits eax 4 7 < 16 := bits_lt eax 4 7
    have base_lt : bits eax 8 11 < 16 := bits_lt eax 8 11
    have extended_lt : bits eax 20 27 < 256 := bits_lt eax 20 27
    rw [displayFamily_eq_bits] at hf
    rw [displayModel_eq_bits] at hm
    split_ifs at hf hm <;> omega
  · rintro ⟨small, values⟩
    -- A family past 14 has base 15 and the rest in the extension.
    obtain ⟨hs, hl, hb, hm, hf⟩ := @bits_packed stepping.toNat (model.toNat % 16)
      (min family.toNat 15) (model.toNat / 16) (family.toNat - 15)
      (by omega) (by omega) (by omega) (by omega) (by omega)
    refine ⟨_, (ofVersionWord_eq_mk_iff vendor).2 ⟨?_, ?_, hs⟩⟩
    · rw [displayFamily_eq_bits, hb, hf]
      split_ifs <;> omega
    · rw [displayModel_eq_bits, hb, hl, hm]
      split_ifs <;> omega

/-! ## Arithmetic on words -/

/-- The sum of two words, if a word holds it. -/
def sum? (a b : UInt32) : Option UInt32 :=
  if a.toNat + b.toNat < 0x100000000 then some (a + b) else none

/-- The byte with the value of a word, if there is one. -/
def byte? (word : UInt32) : Option UInt8 :=
  if word.toNat < 0x100 then some word.toUInt8 else none

def displayFamily? (eax : UInt32) : Option UInt32 :=
  let base := (eax >>> 8) &&& 0xF
  if base = 0xF then sum? base ((eax >>> 20) &&& 0xFF) else some base

def displayModel? (eax : UInt32) : Option UInt32 :=
  let base := (eax >>> 8) &&& 0xF
  let low := (eax >>> 4) &&& 0xF
  if base = 0x6 ∨ base = 0xF then sum? (((eax >>> 16) &&& 0xF) <<< 4) low else some low

/-- The signature of a version word by masks, shifts and sums of words, `none` if a sum or a byte does
not hold its value. -/
def ofVersionWord? (vendor : Text) (eax : UInt32) : Option Signature := do
  let family ← displayFamily? eax
  let model ← displayModel? eax
  return { vendor, family, model := ← byte? model, stepping := ← byte? (eax &&& 0xF) }

/-- A shift and a mask take a field out of a word. -/
theorem toNat_masked {eax amount mask : UInt32} {low width : Nat} (shift : amount.toNat = low)
    (inside : low < 32) (ones : mask.toNat = 1 <<< width - 1) :
    ((eax >>> amount) &&& mask).toNat = bitField eax low width := by
  rw [UInt32.toNat_and, UInt32.toNat_shiftRight, shift, ones, Nat.mod_eq_of_lt inside, bitField,
    Nat.one_shiftLeft, Nat.and_two_pow_sub_one_eq_mod]

/-- A sum that fits the word is not lost. -/
theorem exists_sum? {a b : UInt32} (fits : a.toNat + b.toNat < 0x100000000) :
    ∃ c, sum? a b = some c ∧ c.toNat = a.toNat + b.toNat := by
  refine ⟨a + b, if_pos fits, ?_⟩
  rw [UInt32.toNat_add]
  exact Nat.mod_eq_of_lt fits

theorem byte?_eq {word : UInt32} (fits : word.toNat < 0x100) :
    byte? word = some (UInt8.ofNat word.toNat) := by
  rw [byte?, if_pos fits]
  rfl

theorem toNat_base (eax : UInt32) : ((eax >>> 8) &&& 0xF).toNat = bitField eax 8 4 :=
  toNat_masked rfl (by decide) rfl

theorem toNat_low (eax : UInt32) : ((eax >>> 4) &&& 0xF).toNat = bitField eax 4 4 :=
  toNat_masked rfl (by decide) rfl

theorem toNat_extendedModel (eax : UInt32) :
    (((eax >>> 16) &&& 0xF) <<< 4).toNat = bitField eax 16 4 * 16 := by
  have field : ((eax >>> 16) &&& 0xF).toNat = bitField eax 16 4 :=
    toNat_masked rfl (by decide) rfl
  have bound : bitField eax 16 4 < 16 := bitField_lt eax 16 4
  have fits : bitField eax 16 4 * 16 < 0x100000000 := by omega
  rw [UInt32.toNat_shiftLeft, field, Nat.shiftLeft_eq]
  exact Nat.mod_eq_of_lt fits

theorem base_eq_iff (eax : UInt32) (n : UInt32) :
    (eax >>> 8) &&& 0xF = n ↔ bitField eax 8 4 = n.toNat := by
  rw [← UInt32.toNat_inj, toNat_base]

/-- The family is never too large for its word. -/
theorem exists_displayFamily? (eax : UInt32) :
    ∃ family, displayFamily? eax = some family ∧ family.toNat = displayFamily eax := by
  have extended : ((eax >>> 20) &&& 0xFF).toNat = bitField eax 20 8 :=
    toNat_masked rfl (by decide) rfl
  have bound : bitField eax 20 8 < 256 := bitField_lt eax 20 8
  simp only [displayFamily?, base_eq_iff]
  by_cases last : bitField eax 8 4 = 15
  · have fits : ((eax >>> 8) &&& 0xF).toNat + ((eax >>> 20) &&& 0xFF).toNat < 0x100000000 := by
      rw [toNat_base, extended]
      omega
    obtain ⟨family, sum, value⟩ := exists_sum? fits
    refine ⟨family, (if_pos last).trans sum, ?_⟩
    rw [value, toNat_base, extended, displayFamily, if_pos last]
  · refine ⟨_, if_neg last, ?_⟩
    rw [toNat_base, displayFamily, if_neg last]

/-- The model is never too large for its word. -/
theorem exists_displayModel? (eax : UInt32) :
    ∃ model, displayModel? eax = some model ∧ model.toNat = displayModel eax := by
  have bound : bitField eax 16 4 < 16 := bitField_lt eax 16 4
  have low : bitField eax 4 4 < 16 := bitField_lt eax 4 4
  simp only [displayModel?, base_eq_iff]
  by_cases counts : bitField eax 8 4 = 6 ∨ bitField eax 8 4 = 15
  · have fits : (((eax >>> 16) &&& 0xF) <<< 4).toNat + ((eax >>> 4) &&& 0xF).toNat < 0x100000000 := by
      rw [toNat_extendedModel, toNat_low]
      omega
    obtain ⟨model, sum, value⟩ := exists_sum? fits
    refine ⟨model, (if_pos counts).trans sum, ?_⟩
    rw [value, toNat_extendedModel, toNat_low, displayModel, if_pos counts]
  · refine ⟨_, if_neg counts, ?_⟩
    rw [toNat_low, displayModel, if_neg counts]

/-- No step of the decoding overflows, and the result is the signature. -/
theorem ofVersionWord?_eq (vendor : Text) (eax : UInt32) :
    ofVersionWord? vendor eax = some (ofVersionWord vendor eax) := by
  obtain ⟨family, familySum, familyValue⟩ := exists_displayFamily? eax
  obtain ⟨model, modelSum, modelValue⟩ := exists_displayModel? eax
  have modelFits : model.toNat < 0x100 := modelValue ▸ displayModel_lt eax
  have stepping : (eax &&& 0xF).toNat = bitField eax 0 4 := by
    have field : ((eax >>> 0) &&& 0xF).toNat = bitField eax 0 4 := toNat_masked rfl (by decide) rfl
    rwa [UInt32.shiftRight_zero] at field
  have steppingFits : (eax &&& 0xF).toNat < 0x100 := by
    rw [stepping]
    exact Nat.lt_trans (bitField_lt eax 0 4) (by decide)
  simp only [ofVersionWord?, familySum, modelSum, byte?_eq modelFits, byte?_eq steppingFits,
    Option.bind_eq_bind, Option.bind_some]
  rw [modelValue, stepping, ofVersionWord, ← familyValue, UInt32.ofNat_toNat]
  rfl

/-- Two version words tell the same signature exactly if they agree on the fields that their base
family lets count, and the signatures that are told are those whose values are in range. Words and
bytes are wide enough for every sum. -/
theorem ofVersionWord_decodes (vendor : Text) :
    (∀ eax eax', ofVersionWord vendor eax = ofVersionWord vendor eax' ↔
      AgreeOn 0 11 eax eax' ∧
      (bits eax 8 11 = 6 ∨ bits eax 8 11 = 15 → AgreeOn 16 19 eax eax') ∧
      (bits eax 8 11 = 15 → AgreeOn 20 27 eax eax')) ∧
    (∀ (family : UInt32) (model stepping : UInt8),
      (∃ eax, ofVersionWord vendor eax = ⟨vendor, family, model, stepping⟩) ↔
        stepping.toNat ≤ 15 ∧
        (family.toNat ≤ 14 ∧ family.toNat ≠ 6 ∧ model.toNat ≤ 15 ∨
          family.toNat = 6 ∧ model.toNat ≤ 255 ∨
          15 ≤ family.toNat ∧ family.toNat ≤ 270 ∧ model.toNat ≤ 255)) ∧
    ∀ eax, ofVersionWord? vendor eax = some (ofVersionWord vendor eax) :=
  ⟨fun _ _ => ofVersionWord_eq_iff vendor, exists_ofVersionWord_iff vendor,
    ofVersionWord?_eq vendor⟩

end Signature

end CpuIdentity
