import CpuIdentity.Proofs.Catalogue.Printed
import CpuIdentity.Proofs.Exposition.Scanning

/-!
# The listing is read back

The listing has one line for each model: the words on it are the number, the name and the lineage, so
the line tells its model. A restriction to a lineage leaves the lines whose last word is that lineage,
in their order; it makes no difference whether the models are restricted before they are printed or
the lines afterwards.
-/

namespace CpuIdentity

open Exposition.Reader (lines? lines?_flatMap_line)
open Text (isBlank small)

namespace Text

/-- The words of a text: what stands between its blanks, however many stand together. -/
def words (t : Text) : List Text := (t.splitOnP isBlank).filter fun w => !w.isEmpty

/-- A blank parts the words before it from those after it. -/
theorem words_append_blank {c : Char} (blank : isBlank c = true) (front t : Text) :
    words (front ++ c :: t) = words front ++ words t := by
  unfold words
  rw [List.splitOnP_append_cons front t blank, List.filter_append]

/-- Blanks between two texts part their words. -/
theorem words_append_spaces (front t : Text) (n : Nat) :
    words (front ++ (List.replicate (n + 1) ' ' ++ t)) = words front ++ words t := by
  induction n generalizing front with
  | zero => exact words_append_blank (by decide) front t
  | succ n ih =>
    rw [List.replicate_succ, List.cons_append, words_append_blank (by decide),
      ← List.nil_append (_ ++ t), ih]
    rfl

/-- A text without blanks is one word. -/
theorem words_of_solid {t : Text} (solid : ∀ c ∈ t, isBlank c = false) (present : t ≠ []) :
    words t = [t] := by
  rw [words, List.splitOnP_eq_singleton solid]
  cases t with
  | nil => exact absurd rfl present
  | cons c t => rfl

/-- The digits of numbers in upper-case hexadecimal. -/
def upperDigits : List Char := ("0123456789ABCDEF" : Text)

theorem upperDigit_mem {d : Nat} (h : d < 16) : upperDigit d ∈ upperDigits := by
  have key : ∀ d < 16, upperDigit d ∈ upperDigits := by decide
  exact key d h

theorem hexPadded_two {n : Nat} (h : n < 256) :
    hexPadded 2 n = [upperDigit (n / 16), upperDigit (n % 16)] := by
  unfold hexPadded hexUpper
  by_cases single : n < 16
  · rw [digits, if_pos (.inl single), Nat.div_eq_of_lt single, Nat.mod_eq_of_lt single]
    rfl
  · have high : n / 16 < 16 := by omega
    rw [digits, if_neg (by omega), digits, if_pos (.inl high)]
    rfl

/-- Two texts are the same but for the case of ASCII letters. -/
def SameUpToCase (s t : Text) : Prop := s.map small = t.map small

instance (s t : Text) : Decidable (SameUpToCase s t) := inferInstanceAs (Decidable (_ = _))

end Text

namespace Lineage

variable {s : Text} {l : Lineage}

theorem isBlank_of_mem_name (l : Lineage) : ∀ c ∈ l.name, isBlank c = false := by
  have solid : (l.name.all fun c => !isBlank c) = true := by cases l <;> decide
  simpa using solid

theorem map_small_name (l : Lineage) : l.name.map small = l.name := by
  cases l <;> decide

/-- A lineage is read from its word between blanks, in any case. -/
theorem ofName_eq_ok_iff : ofName s = .ok l ↔ Text.SameUpToCase (Text.trim s) l.name := by
  have lower : (Text.trim s).map Char.toLower = (Text.trim s).map small :=
    List.map_congr_left fun c _ => Text.toLower_eq_small c
  rw [Text.SameUpToCase, map_small_name, ofName, lower]
  split
  next l' found =>
    have named : l'.name = (Text.trim s).map small := by simpa using List.find?_some found
    rw [Except.ok.injEq, ← named]
    exact ⟨congrArg name, fun same => name_injective same⟩
  next absent =>
    have other := List.find?_eq_none.1 absent l (mem_all l)
    refine iff_of_false (by simp) fun named => other ?_
    simpa using named.symm

end Lineage

/-! ## Lines -/

namespace Model

variable {m m' : Model} {line : Text}

/-- The line of a model in the listing, without its line feed. -/
def row (m : Model) : Text :=
  numberLabel m.number ++ "  " ++ Text.padRight 40 m.name ++ " " ++ m.lineage.name

/-- A listing has one line for each model of the lineage. -/
theorem listing_eq (l : Option Lineage) : listing l = ((restricted l).map row).flatMap Text.line :=
  (List.flatMap_map row Text.line _).symm

/-- The words of a line: the number, the name and the lineage of its model. -/
theorem words_row (m : Model) :
    Text.words m.row = [numberLabel m.number, m.name, m.lineage.name] := by
  have spaced (number name lineage : Text) (pad : Nat) :
      number ++ "  " ++ (name ++ List.replicate pad ' ') ++ " " ++ lineage =
        number ++ (List.replicate 2 ' ' ++ (name ++ (List.replicate (pad + 1) ' ' ++ lineage))) := by
    simp [List.replicate_succ']
  have mark : numberLabel m.number ≠ [] := List.cons_ne_nil _ _
  have name : m.name ≠ [] := List.cons_ne_nil _ _
  have lineage : m.lineage.name ≠ [] := by cases m.lineage <;> decide
  rw [row, Text.padRight, spaced, Text.words_append_spaces, Text.words_append_spaces,
    Text.words_of_solid isBlank_of_mem_numberLabel mark,
    Text.words_of_solid isBlank_of_mem_name name,
    Text.words_of_solid m.lineage.isBlank_of_mem_name lineage]
  rfl

theorem newline_not_mem_row (m : Model) : '\n' ∉ m.row := by
  have number : '\n' ∉ numberLabel m.number :=
    not_mem_of_solid isBlank_of_mem_numberLabel (by decide)
  have name : '\n' ∉ m.name := not_mem_of_solid isBlank_of_mem_name (by decide)
  have lineage : '\n' ∉ m.lineage.name :=
    not_mem_of_solid m.lineage.isBlank_of_mem_name (by decide)
  simp [row, Text.padRight, number, name, lineage]

/-- The lines of the listing. -/
theorem lines?_listing (l : Option Lineage) :
    lines? (listing l) = some ((restricted l).map row) := by
  rw [listing_eq]
  exact lines?_flatMap_line (List.forall_mem_map.2 fun m _ => newline_not_mem_row m)

/-- A line tells a model: the words on it are a number of two digits in upper-case hexadecimal, the name
    and the lineage of the model, and the first two of them are read as the model's number. -/
structure Tells (line : Text) (m : Model) : Prop where
  words : ∃ high ∈ Text.upperDigits, ∃ low ∈ Text.upperDigits,
    Text.words line = ["0x" ++ [high, low], m.name, m.lineage.name]
  read : ∀ word ∈ (Text.words line).take 2, readNumber word = .ok m.number

/-- The line of a model tells it. -/
theorem tells_row (m : Model) : Tells m.row m where
  words := by
    have fits := m.number.toNat_lt
    refine ⟨_, Text.upperDigit_mem (d := m.number.toNat / 16) (by omega),
      _, Text.upperDigit_mem (d := m.number.toNat % 16) (by omega), ?_⟩
    rw [words_row, numberLabel, Text.hexPadded_two fits]
  read := by
    rw [words_row]
    refine List.forall_mem_cons.2 ⟨readNumber_numberLabel _, ?_⟩
    exact List.forall_mem_singleton.2 (readNumber_name m)

/-- A line tells one model. -/
theorem Tells.unique (h : Tells line m) (h' : Tells line m') : m = m' := by
  obtain ⟨_, -, _, -, words⟩ := h.words
  obtain ⟨_, -, _, -, words'⟩ := h'.words
  rw [words] at words'
  have names : m.name = m'.name := (List.cons.inj (List.cons.inj words').2).1
  exact symbol_injective (List.append_cancel_left names)

/-- Restricting models to a lineage is restricting their lines to those that end in its name. -/
theorem map_row_filter (l : Lineage) (ms : List Model) :
    (ms.filter fun m => m.lineage = l).map row =
      (ms.map row).filter fun line => (Text.words line).getLast? = some l.name := by
  have last (m : Model) : (Text.words m.row).getLast? = some l.name ↔ m.lineage = l := by
    rw [words_row]
    exact Option.some_inj.trans ⟨Lineage.name_injective, congrArg Lineage.name⟩
  rw [List.filter_map]
  simp only [Function.comp_def, last]

theorem nodup_all : all.Nodup := by decide +kernel

/-- One line tells a model, and no line before it or after it does. -/
theorem exists_row (m : Model) :
    ∃ before line after, (restricted none).map row = before ++ line :: after ∧ Tells line m ∧
      ∀ other ∈ before ++ after, ¬Tells other m := by
  obtain ⟨before, after, parts⟩ := List.append_of_mem (mem_all m)
  have apart := nodup_all
  rw [parts, List.nodup_middle, List.nodup_cons] at apart
  refine ⟨before.map row, m.row, after.map row, ?_, tells_row m, ?_⟩
  · rw [restricted, parts, List.map_append, List.map_cons]
  · intro other member tells
    rw [← List.map_append] at member
    obtain ⟨m', elsewhere, rfl⟩ := List.mem_map.1 member
    exact apart.1 (tells.unique (tells_row m') ▸ elsewhere)

end Model

end CpuIdentity
