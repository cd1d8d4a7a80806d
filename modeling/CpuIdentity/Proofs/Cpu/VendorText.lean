import CpuIdentity.Proofs.Cpu.Identification
import CpuIdentity.Proofs.Text.Lenient

/-!
# What a vendor text tells of the registers

The vendor text shows twelve bytes to a lenient reader. Where they are well-formed it has just these
bytes in UTF-8, so the three registers can be read back from it; elsewhere a replacement character
gives the fault away.
-/

namespace CpuIdentity

/-- The bytes that spell the vendor: those of EBX, EDX and ECX in this order. -/
def vendorBytes (ebx edx ecx : UInt32) : List UInt8 := wordBytes ebx ++ wordBytes edx ++ wordBytes ecx

/-- The number that bytes are, the least significant first. -/
def valueOf : List UInt8 → Nat
  | [] => 0
  | b :: bs => b.toNat + 256 * valueOf bs

/-- The registers EBX, EDX and ECX that a vendor text was read from. -/
def vendorRegisters (t : Text) : UInt32 × UInt32 × UInt32 :=
  let bytes := Utf8.encode t
  (UInt32.ofNat (valueOf (bytes.take 4)), UInt32.ofNat (valueOf ((bytes.drop 4).take 4)),
    UInt32.ofNat (valueOf (bytes.drop 8)))

theorem ofNat_valueOf_wordBytes (word : UInt32) : UInt32.ofNat (valueOf (wordBytes word)) = word := by
  have value : valueOf (wordBytes word) = word.toNat := by
    simp only [wordBytes, List.map_cons, List.map_nil, valueOf, toNat_byte]
    have sum := toNat_eq_bytes word
    omega
  rw [value, UInt32.ofNat_toNat]

/-- The registers are read back from the vendor text, if its bytes are those of the registers. -/
theorem vendorRegisters_of_encode {t : Text} {ebx edx ecx : UInt32}
    (h : Utf8.encode t = vendorBytes ebx edx ecx) : vendorRegisters t = (ebx, edx, ecx) := by
  have first : (vendorBytes ebx edx ecx).take 4 = wordBytes ebx := rfl
  have second : ((vendorBytes ebx edx ecx).drop 4).take 4 = wordBytes edx := rfl
  have third : (vendorBytes ebx edx ecx).drop 8 = wordBytes ecx := rfl
  rw [vendorRegisters, h]
  simp only [first, second, third, ofNat_valueOf_wordBytes]

/-- Well-formed bytes can be read back from the vendor text. -/
theorem encode_vendorText {ebx edx ecx : UInt32} (valid : Utf8.Valid (vendorBytes ebx edx ecx)) :
    Utf8.encode (vendorText ebx edx ecx) = vendorBytes ebx edx ecx := by
  obtain ⟨t, bytes⟩ := valid
  have read : vendorText ebx edx ecx = t := by
    rw [vendorText, ← vendorBytes, ← bytes, Utf8.decodeLossy_encode]
  rw [read, bytes]

/-- The vendor text is what the twelve bytes show to a lenient reader. Well-formed ones it tells, and
with them the registers; others it marks. Its size in UTF-8 is from that of the bytes to three times
that size. -/
theorem vendorText_tells_bytes (ebx edx ecx : UInt32) :
    (∀ t, Utf8.Shows (vendorBytes ebx edx ecx) t ↔ vendorText ebx edx ecx = t) ∧
    (Utf8.Valid (vendorBytes ebx edx ecx) →
      Utf8.encode (vendorText ebx edx ecx) = vendorBytes ebx edx ecx ∧
      vendorRegisters (vendorText ebx edx ecx) = (ebx, edx, ecx) ∧
      ∀ ebx' edx' ecx', Utf8.Valid (vendorBytes ebx' edx' ecx') →
        vendorText ebx' edx' ecx' = vendorText ebx edx ecx →
          ebx' = ebx ∧ edx' = edx ∧ ecx' = ecx) ∧
    (¬Utf8.Valid (vendorBytes ebx edx ecx) → '\uFFFD' ∈ vendorText ebx edx ecx) ∧
    12 ≤ (Utf8.encode (vendorText ebx edx ecx)).length ∧
    (Utf8.encode (vendorText ebx edx ecx)).length ≤ 36 := by
  refine ⟨fun t => Utf8.shows_iff, ?_, ?_, ?_⟩
  · intro valid
    have bytes := encode_vendorText valid
    refine ⟨bytes, vendorRegisters_of_encode bytes, ?_⟩
    intro ebx' edx' ecx' valid' same
    have bytes' := encode_vendorText valid'
    rw [same, bytes] at bytes'
    exact wordBytes_append_inj bytes'.symm
  · intro faulty
    refine Decidable.byContradiction fun unmarked => faulty ?_
    exact ⟨_, Utf8.encode_decodeLossy unmarked⟩
  · exact (Utf8.shows_decodeLossy (vendorBytes ebx edx ecx)).length_bounds

/-- A truncated character at the end of EBX is marked, and the next register is read as it stands. -/
example : vendorText 0xE2436E49 0x41414141 0x42424242 = "InC\uFFFDAAAABBBB" := by decide +kernel

end CpuIdentity
