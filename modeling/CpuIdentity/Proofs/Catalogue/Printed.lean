import CpuIdentity.Catalogue.Classify
import CpuIdentity.Proofs.Catalogue.Number
import CpuIdentity.Proofs.Catalogue.Table

/-!
# What is printed of a model is read back

A model number in print has two digits after its mark, so it is read as a hexadecimal number; the name
of a model is read as that model, and the word of a lineage as that lineage. The line of a
classification has these in columns, with two blanks between neighbours.
-/

namespace CpuIdentity

open Text (isBlank)

theorem toNat_of_mem_hexPadded {width n : Nat} {c : Char} (h : c ∈ Text.hexPadded width n) :
    0x30 ≤ c.toNat ∧ c.toNat ≤ 0x66 :=
  (Text.denotes_hexPadded width n).range (Nat.le_refl 16) c h

/-- A label of a number is its mark and digits. -/
theorem mem_numberLabel {n : UInt8} {c : Char} (h : c ∈ numberLabel n) :
    c = 'x' ∨ 0x30 ≤ c.toNat ∧ c.toNat ≤ 0x66 := by
  rcases List.mem_append.1 h with mark | digit
  · have either : c = '0' ∨ c = 'x' := by simpa using mark
    rcases either with rfl | rfl
    · exact .inr (by decide)
    · exact .inl rfl
  · exact .inr (toNat_of_mem_hexPadded digit)

theorem isBlank_of_mem_numberLabel {n : UInt8} : ∀ c ∈ numberLabel n, isBlank c = false := by
  intro c hc
  rcases mem_numberLabel hc with rfl | ⟨low, high⟩
  · decide
  · exact Text.isBlank_eq_false ⟨low, Nat.le_trans high (by decide)⟩

theorem trimmed_of_solid {t : Text} (solid : ∀ c ∈ t, isBlank c = false) : Text.Trimmed t :=
  ⟨fun c hc => solid c (List.mem_of_head? hc), fun c hc => solid c (List.mem_of_getLast? hc)⟩

theorem not_mem_of_solid {t : Text} (solid : ∀ c ∈ t, isBlank c = false) {c : Char}
    (blank : isBlank c = true) : c ∉ t := by
  intro member
  rw [solid c member] at blank
  cases blank

namespace Model

/-- The label of a number is read as the number. -/
theorem readNumber_numberLabel (n : UInt8) : readNumber (numberLabel n) = .ok n := by
  have trimmed := Text.trim_eq_self (trimmed_of_solid (isBlank_of_mem_numberLabel (n := n)))
  have marked : Marked (Text.trim (numberLabel n)) (Text.hexPadded 2 n.toNat) := .inl trimmed
  have fits : n.toNat ≤ 255 := Nat.le_of_lt_succ n.toNat_lt
  rw [readNumber_of_marked marked, Text.readNumeral_hexPadded fits, mapped_eq_ok_iff]
  exact ⟨n.toNat, rfl, UInt8.ofNat_toNat⟩

theorem isBlank_of_mem_name {m : Model} : ∀ c ∈ m.name, isBlank c = false := by
  intro c hc
  have range := Text.toNat_of_nameRanges (nameRanges_of_mem_name m c hc)
  exact Text.isBlank_eq_false ⟨range.1, Nat.le_trans range.2 (by decide)⟩

/-- The name of a model names it. -/
theorem ofName_name (m : Model) : ofName m.name = .ok m := by
  have mixed : Text.InMixedCase m.name m.name := List.forall₂_same.2 fun c _ => .inl rfl
  have names : Names ([] ++ m.name ++ []) m := names_of_inMixedCase (.inl rfl) mixed nofun nofun
  rw [List.nil_append, List.append_nil] at names
  exact ofName_eq_ok_iff_names.2 names

/-- The name of a model is read as its number. -/
theorem readNumber_name (m : Model) : readNumber m.name = .ok m.number := by
  have found := ofName_name m
  obtain ⟨unmarked, other⟩ := not_numeral_of_ofName found
  rw [readNumber_of_other unmarked other, mapped_eq_ok_iff]
  exact ⟨m, ofName_trim.2 found, rfl⟩

theorem name_ne_unknown (m : Model) : m.name ≠ ("unknown" : Text) := by
  intro same
  have first := congrArg List.head? same
  cases first

end Model

/-- The name of a lineage names it. -/
theorem Lineage.ofName_name (l : Lineage) : ofName l.name = .ok l := by
  cases l <;> decide

/-- The columns of a line: two blanks stand between neighbours. -/
def columns : Text → List Text
  | [] => [[]]
  | ' ' :: ' ' :: t => [] :: columns t
  | c :: t => (columns t).modifyHead (c :: ·)

theorem columns_cons {c : Char} (h : c ≠ ' ') (t : Text) :
    columns (c :: t) = (columns t).modifyHead (c :: ·) := by
  rw [columns]
  intro t' same
  exact absurd same h

/-- What has no space is a column of its own. -/
theorem columns_append {front : Text} (solid : ' ' ∉ front) (t : Text) :
    columns (front ++ "  " ++ t) = front :: columns t := by
  induction front with
  | nil => rfl
  | cons c front ih =>
    have rest := ih fun member => solid (List.mem_cons_of_mem c member)
    have first : c ≠ ' ' := fun same => solid (same ▸ List.mem_cons_self)
    rw [List.cons_append, List.cons_append, columns_cons first, rest, List.modifyHead_cons]

theorem columns_description (l : Lineage) :
    columns ("(" ++ l.description ++ ")") = ["(" ++ l.description ++ ")"] := by
  cases l <;> rfl

theorem classification_of_some {n : UInt8} {m : Model} (h : Model.ofNumber? n = some m) :
    classification n = numberLabel n ++ "  " ++ m.name ++ "  (" ++ m.lineage.description ++ ")" := by
  unfold classification
  rw [h]

theorem classification_of_none {n : UInt8} (h : Model.ofNumber? n = none) :
    classification n = numberLabel n ++ "  not recognised" := by
  unfold classification
  rw [h]

/-- The columns of the line for a known model. -/
theorem columns_of_some {n : UInt8} {m : Model} (h : Model.ofNumber? n = some m) :
    columns (classification n) =
      [numberLabel n, m.name, "(" ++ m.lineage.description ++ ")"] := by
  have grouped (number name description : Text) :
      number ++ "  " ++ name ++ "  (" ++ description ++ ")" =
        number ++ "  " ++ (name ++ "  " ++ ("(" ++ description ++ ")")) := by
    simp
  rw [classification_of_some h, grouped,
    columns_append (not_mem_of_solid isBlank_of_mem_numberLabel (by decide)),
    columns_append (not_mem_of_solid Model.isBlank_of_mem_name (by decide)), columns_description]

/-- The columns of the line for a number that no model has. -/
theorem columns_of_none {n : UInt8} (h : Model.ofNumber? n = none) :
    columns (classification n) = [numberLabel n, ("not recognised" : Text)] := by
  have grouped (number : Text) : number ++ "  not recognised" =
      number ++ "  " ++ ("not recognised" : Text) := by
    simp
  rw [classification_of_none h, grouped,
    columns_append (not_mem_of_solid isBlank_of_mem_numberLabel (by decide))]
  rfl

/-- There is no small `s` in the line of a number with a model. -/
theorem s_not_mem_of_some {n : UInt8} {m : Model} (h : Model.ofNumber? n = some m) :
    's' ∉ classification n := by
  have number : 's' ∉ numberLabel n := by
    intro member
    have range := mem_numberLabel member
    revert range
    decide
  have name : 's' ∉ m.name := by
    intro member
    have capital := Model.nameRanges_of_mem_name m 's' member
    revert capital
    decide
  have description : 's' ∉ m.lineage.description := by cases m.lineage <;> decide
  rw [classification_of_some h]
  simp [number, name, description]

/-- Only the line of a number without a model tells that the number is not recognised. -/
theorem not_recognised_infix_iff (n : UInt8) :
    ("not recognised" : Text) <:+: classification n ↔ Model.ofNumber? n = none := by
  constructor
  · intro told
    cases known : Model.ofNumber? n with
    | none => rfl
    | some m =>
      have inside : 's' ∈ classification n := told.subset (by decide)
      exact absurd inside (s_not_mem_of_some known)
  · intro unknown
    rw [classification_of_none unknown]
    exact ⟨numberLabel n ++ "  ", [], by simp⟩

end CpuIdentity
