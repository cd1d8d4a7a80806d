import CpuIdentity.Text.Numeral
import CpuIdentity.Text.Utf8

/-!
# Processor signatures

What a processor says of itself: its vendor, spelled by twelve bytes in three registers, and its
family, model and stepping, packed into bit fields of one register. The family and the model are the
displayed ones: the extended model counts for families 6 and 15 only, the extended family for family
15 only.
-/

namespace CpuIdentity

structure Registers where
  eax : UInt32
  ebx : UInt32
  ecx : UInt32
  edx : UInt32
  deriving DecidableEq, Repr

/-- The field of `width` bits that starts at bit `low` of a word. -/
def bitField (word : UInt32) (low width : Nat) : Nat := (word.toNat >>> low) % (1 <<< width)

/-- The four bytes of a word, least significant first. -/
def wordBytes (word : UInt32) : List UInt8 :=
  [0, 8, 16, 24].map fun low => UInt8.ofNat (bitField word low 8)

/-- The vendor text: the bytes of EBX, EDX and ECX in this order. -/
def vendorText (ebx edx ecx : UInt32) : Text :=
  Utf8.decodeLossy (wordBytes ebx ++ wordBytes edx ++ wordBytes ecx)

/-- The vendor text of the catalogued processors. -/
def intelVendor : Text := "GenuineIntel"

structure Signature where
  vendor : Text
  family : UInt32
  model : UInt8
  stepping : UInt8
  deriving DecidableEq, Repr

namespace Signature

def displayFamily (eax : UInt32) : Nat :=
  if bitField eax 8 4 = 15 then bitField eax 8 4 + bitField eax 20 8 else bitField eax 8 4

def displayModel (eax : UInt32) : Nat :=
  if bitField eax 8 4 = 6 ∨ bitField eax 8 4 = 15 then
    bitField eax 16 4 * 16 + bitField eax 4 4
  else bitField eax 4 4

/-- The signature of a vendor's processor with the version word `eax`, which CPUID leaf 1 gives. -/
def ofVersionWord (vendor : Text) (eax : UInt32) : Signature where
  vendor
  family := UInt32.ofNat (displayFamily eax)
  model := UInt8.ofNat (displayModel eax)
  stepping := UInt8.ofNat (bitField eax 0 4)

def isIntel (s : Signature) : Bool := s.vendor = intelVendor

def text (s : Signature) : Text :=
  s.vendor ++ " Family " ++ Text.hexUpper s.family.toNat ++ ", Model " ++
    Text.hexUpper s.model.toNat ++ ", Stepping " ++ Text.hexUpper s.stepping.toNat

example : vendorText 0x756E6547 0x49656E69 0x6C65746E = intelVendor := by decide +kernel
example : ofVersionWord intelVendor 0x00050657 = ⟨intelVendor, 6, 0x55, 7⟩ := by decide +kernel

end Signature

end CpuIdentity
