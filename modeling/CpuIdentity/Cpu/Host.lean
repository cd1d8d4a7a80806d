import CpuIdentity.Event

/-!
# Machines and their hosts

What a run takes from the machine it runs on: what the CPUID instruction answers for each leaf and
subleaf, and what the system answers when asked for the name of the host.

A host is identified from the signature of its processor: the vendor and the family must be the
catalogued ones; the model may be one that the catalogue does not have. Three server parts share the
model number 0x55 and differ in stepping.
-/

namespace CpuIdentity

structure Machine where
  /-- What CPUID leaves in the registers, given EAX and ECX. -/
  registers : UInt32 → UInt32 → Registers
  /-- The bytes of the host's name, which end before the first zero byte, or the fault of asking. -/
  nodeName : Except Errno (List UInt8)

namespace Machine

/-- The size of the buffer that receives the name of the host. -/
def nameBuffer : Nat := 256

/-- What asking for the host's name gives when the system holds these bytes: they end before the
    first zero byte, and the buffer needs room for that byte too. -/
def nodeNameOf (held : List UInt8) : Except Errno (List UInt8) :=
  let name := held.takeWhile (· ≠ 0)
  if name.length < nameBuffer then .ok name else .error .nameTooLong

/-- Registers by rows: the first row for a leaf and subleaf answers, and without one all registers
    are zero. -/
def registersOf (rows : List ((UInt32 × UInt32) × Registers)) (leaf subleaf : UInt32) : Registers :=
  (rows.lookup (leaf, subleaf)).getD ⟨0, 0, 0, 0⟩

def cpuid (m : Machine) (leaf subleaf : UInt32) : Act Registers := do
  Traced.emit (.cpuid leaf subleaf)
  return m.registers leaf subleaf

/-- Asks for the name of the host. A name that is empty or not well-formed UTF-8 counts as none; a
    fault is logged. -/
def hostname (m : Machine) : Act (Option Text) := do
  Traced.emit .hostname
  match m.nodeName with
  | .ok name =>
    return (Utf8.decode? (name.takeWhile (· ≠ 0))).filter fun t => !t.isEmpty
  | .error fault =>
    log (.hostnameUnavailable fault)
    return none

/-- Asks the processor for its vendor and its version word. -/
def signature (m : Machine) : Act Signature := do
  let vendor ← m.cpuid 0 0
  let version ← m.cpuid 1 0
  let s := Signature.ofVersionWord (vendorText vendor.ebx vendor.edx vendor.ecx) version.eax
  log (.versionWordRead version.eax s)
  return s

end Machine

/-- A part that shares the model number 0x55. -/
inductive Variant where
  | skylakeX
  | cascadeLakeX
  | cooperLakeX
  deriving DecidableEq, Repr

namespace Variant

/-- Every variant, by rising stepping. -/
def all : List Variant := [.skylakeX, .cascadeLakeX, .cooperLakeX]

def name : Variant → Text
  | .skylakeX => "Skylake-X"
  | .cascadeLakeX => "Cascade Lake-X"
  | .cooperLakeX => "Cooper Lake-X"

/-- The first and the last stepping of a variant. -/
def steppings : Variant → UInt8 × UInt8
  | .skylakeX => (0x0, 0x4)
  | .cascadeLakeX => (0x5, 0x7)
  | .cooperLakeX => (0xA, 0xB)

def covers (v : Variant) (stepping : UInt8) : Bool :=
  decide (v.steppings.1 ≤ stepping) && decide (stepping ≤ v.steppings.2)

/-- The variant whose steppings cover a stepping. -/
def ofStepping? (stepping : UInt8) : Option Variant := all.find? (·.covers stepping)

/-- The variant of a processor, for the shared model only. A stepping that no variant covers is logged
    and counts as the first part's. -/
def refine (model stepping : UInt8) : Act (Option Variant) :=
  if model ≠ Model.skylakeX.number then return none
  else
    match ofStepping? stepping with
    | some v => return some v
    | none => do
      log (.steppingUnexpected stepping)
      return some .skylakeX

end Variant

/-- A host whose processor is a family-6 part of the catalogued vendor. -/
structure Host where
  signature : Signature
  /-- The model, `none` if the catalogue does not have its number. -/
  model : Option Model
  /-- The variant, for the model that several parts share. -/
  variant : Option Variant
  deriving DecidableEq, Repr

namespace Host

def unknown : Text := "unknown"

def name (h : Host) : Text := (h.model.map Model.name).getD unknown

def lineageName (h : Host) : Text := (h.model.map fun m => m.lineage.name).getD unknown

/-- The name of the variant, empty without one. -/
def variantName (h : Host) : Text := (h.variant.map Variant.name).getD []

/-- The variant in brackets after a blank, or nothing. -/
def variantText : Option Variant → Text
  | none => []
  | some v => " (" ++ v.name ++ ")"

def text (h : Host) : Text := h.signature.text ++ ": " ++ h.name ++ variantText h.variant

def classificationEvent (number : UInt8) : Option Model → Event
  | some m => .classified number m
  | none => .uncatalogued number

/-- Identifies a host from the signature of its processor. -/
def identify (s : Signature) : Run Host :=
  if s.isIntel = false then throw (.unsupportedVendor s.vendor)
  else if s.family ≠ 6 then throw (.unsupportedFamily s.family)
  else do
    let variant ← Variant.refine s.model s.stepping
    log (classificationEvent s.model (Model.ofNumber? s.model))
    return { signature := s, model := Model.ofNumber? s.model, variant }

def detect (m : Machine) : Run Host := do
  let s ← m.signature
  log (.processorFound s)
  identify s

/-- Identifies the host that a machine is; without success the cause is logged and there is no
    host. -/
def detect? (m : Machine) : Act (Option Host) := do
  match ← (detect m).run with
  | .ok h => return some h
  | .error cause =>
    log (.hostNotIdentified cause)
    return none

end Host

/-- A run that remembers the host from the first time that it asks for it; before that it remembers
    nothing. -/
abbrev HostRun := StateT (Option (Option Host)) Run

/-- The host that a machine is. It is found when it is first asked for, and the same from then on. -/
def Host.current (m : Machine) : HostRun (Option Host) := do
  match ← get with
  | some host => return host
  | none =>
    let host ← Host.detect? m
    set (some host)
    return host

end CpuIdentity
