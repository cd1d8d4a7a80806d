/-!
# Texts

A text is the list of its characters, so that a rule on texts is a recursion on lists. A string
literal stands for the text it spells. Sets of characters are given by ranges of code points; one
such set is that of the blank characters, which trimming takes off both ends of a text.
-/

namespace CpuIdentity

/-- A text: its characters (Unicode scalar values), first to last. -/
abbrev Text := List Char

/-- A string literal in the place of a text. -/
instance charactersOfString : Coe String (List Char) := ⟨String.toList⟩

namespace Text

/-- The text as one line: a line feed follows it. -/
def line (t : Text) : Text := t ++ ['\n']

/-- Blanks follow the text until it is `width` characters wide; a wider text stays as it is. -/
def padRight (width : Nat) (t : Text) : Text := t ++ List.replicate (width - t.length) ' '

/-- The texts in order, with `separator` between neighbours. -/
def joinWith (separator : Text) (ts : List Text) : Text := separator.intercalate ts

/-- What remains after `lead`, if the text starts with it. -/
def dropLead? (lead t : Text) : Option Text :=
  if lead.isPrefixOf t then some (t.drop lead.length) else none

theorem dropLead?_append (lead t : Text) : dropLead? lead (lead ++ t) = some t := by
  simp [dropLead?]

theorem eq_append_of_dropLead? {lead t rest : Text} (h : dropLead? lead t = some rest) :
    t = lead ++ rest := by
  unfold dropLead? at h
  split at h
  case isTrue hl =>
    obtain ⟨s, rfl⟩ := List.isPrefixOf_iff_prefix.1 hl
    simp at h
    rw [h]
  case isFalse => cases h

/-- If whatever may come first may also follow, all of a word is what may follow. -/
theorem all_of_first_and_rest {first rest : Char → Bool}
    (follows : ∀ c, first c = true → rest c = true) {c : Char} {cs : Text}
    (h : (first c && cs.all rest) = true) : ∀ d ∈ c :: cs, rest d = true := by
  rw [Bool.and_eq_true, List.all_eq_true] at h
  intro d hd
  rcases List.mem_cons.1 hd with rfl | hd
  · exact follows d h.1
  · exact h.2 d hd

/-- Every character of a text differs from one that does not occur in it. -/
theorem all_ne_of_not_mem {c : Char} {t : Text} (h : c ∉ t) : ∀ d ∈ t, decide (d ≠ c) = true := by
  intro d hd
  exact decide_eq_true fun same => h (same ▸ hd)

/-- A range of code points, both ends included. -/
abbrev CodeRange := Nat × Nat

/-- Whether the code point of `c` lies in one of the ranges. -/
def inRanges (ranges : List CodeRange) (c : Char) : Bool :=
  ranges.any fun r => decide (r.1 ≤ c.toNat) && decide (c.toNat ≤ r.2)

theorem inRanges_iff {ranges : List CodeRange} {c : Char} :
    inRanges ranges c = true ↔ ∃ r ∈ ranges, r.1 ≤ c.toNat ∧ c.toNat ≤ r.2 := by
  simp [inRanges]

/-- The code points with the property White_Space, 25 in all. -/
def blankRanges : List CodeRange :=
  [(0x9, 0xD), (0x20, 0x20), (0x85, 0x85), (0xA0, 0xA0), (0x1680, 0x1680), (0x2000, 0x200A),
   (0x2028, 0x2029), (0x202F, 0x202F), (0x205F, 0x205F), (0x3000, 0x3000)]

/-- Whether a character has the property White_Space. -/
def isBlank (c : Char) : Bool := inRanges blankRanges c

def trimStart (t : Text) : Text := t.dropWhile isBlank

def trimEnd (t : Text) : Text := (t.reverse.dropWhile isBlank).reverse

def trim (t : Text) : Text := trimEnd (trimStart t)

example : ((blankRanges.map fun r => r.2 - r.1 + 1).sum) = 25 := by decide

theorem trimStart_cons_of_not_isBlank {c : Char} (t : Text) (h : isBlank c = false) :
    trimStart (c :: t) = c :: t := by
  simp [trimStart, h]

end Text

end CpuIdentity
