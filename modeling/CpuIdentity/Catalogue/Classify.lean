import CpuIdentity.Catalogue.Model
import CpuIdentity.Text.Basic
import CpuIdentity.Text.Numeral

/-!
# Classification by model number

A table has one slot for each byte. It is filled from a list of items, each going to the slot that its
key names. Two items with one key would need the same slot, so such a list has no table. Looking up a
byte reads one slot.

In print the catalogue has one line a model: its number, its name in a column of fixed width, and its
lineage. The line of a classification says what a number stands for.
-/

namespace CpuIdentity

/-- One slot for each of the 256 bytes, empty or holding an item. -/
structure Table (α : Type) where
  slots : Vector (Option α) 256

namespace Table

variable {α : Type}

def empty : Table α := ⟨Vector.replicate 256 none⟩

def get? (t : Table α) (b : UInt8) : Option α :=
  have h : b.toNat < 256 := b.toNat_lt
  t.slots[b.toNat]

/-- The table with an item in the slot of a byte. -/
def put (t : Table α) (b : UInt8) (a : α) : Table α := ⟨t.slots.set b.toNat (some a) b.toNat_lt⟩

/-- Puts the items of a list into their slots, first to last, unless a slot is taken. -/
def fill? (key : α → UInt8) : Table α → List α → Option (Table α)
  | t, [] => some t
  | t, a :: as => if (t.get? (key a)).isSome then none else fill? key (t.put (key a) a) as

/-- The table of a list, `none` if two of its items have one key. -/
def ofList? (key : α → UInt8) (as : List α) : Option (Table α) := fill? key empty as

@[simp] theorem get?_empty (b : UInt8) : (empty : Table α).get? b = none := by
  simp [empty, get?]

theorem get?_put (t : Table α) (b b' : UInt8) (a : α) :
    (t.put b a).get? b' = if b = b' then some a else t.get? b' := by
  have h : b = b' ↔ b.toNat = b'.toNat := ⟨fun h => h ▸ rfl, UInt8.toNat_inj.1⟩
  simp [put, get?, Vector.getElem_set, h]

end Table

namespace Model

/-- The models in a table by their numbers. -/
def table : Table Model := (Table.ofList? number all).getD .empty

/-- The model with a number, `none` if the catalogue has none. The number 0x55 is always
    `skylakeX`: the later parts that share it differ in stepping alone. -/
def ofNumber? (n : UInt8) : Option Model := table.get? n

/-- No two models want the same slot, so the table holds the whole catalogue. -/
theorem isSome_ofList?_all : (Table.ofList? number all).isSome = true := by
  decide +kernel

theorem ofNumber?_number (m : Model) : ofNumber? m.number = some m := by
  have key : ∀ a ∈ all, ofNumber? a.number = some a := by decide +kernel
  exact key m (mem_all m)

end Model

/-- A model number in print: two upper-case hexadecimal digits after `0x`. -/
def numberLabel (n : UInt8) : Text := "0x" ++ Text.hexPadded 2 n.toNat

/-- Numbers that other sources list under another name, with that name. -/
def otherNames : List (UInt8 × Text) := [(0x5A, "INTEL_FAM6_ATOM_AIRMONT_MID")]

/-- Where the catalogue's numbers and names come from. -/
def provenance : Text :=
  "curated subset of linux arch/x86/include/asm/intel-family.h (INTEL_FAM6_* naming, renames in KERNEL_RENAMES)"

def Model.listingLine (m : Model) : Text :=
  Text.line (numberLabel m.number ++ "  " ++ Text.padRight 40 m.name ++ " " ++ m.lineage.name)

/-- The models that a restriction to one lineage leaves, or all of them without one. -/
def Model.restricted : Option Lineage → List Model
  | none => Model.all
  | some l => l.models

/-- The listing of the catalogue, or of one lineage, in the order of the catalogue. -/
def listing (l : Option Lineage) : Text := (Model.restricted l).flatMap Model.listingLine

/-- What a model number stands for, in one line without its line feed. -/
def classification (n : UInt8) : Text :=
  match Model.ofNumber? n with
  | some m => numberLabel n ++ "  " ++ m.name ++ "  (" ++ m.lineage.description ++ ")"
  | none => numberLabel n ++ "  not recognised"

end CpuIdentity
