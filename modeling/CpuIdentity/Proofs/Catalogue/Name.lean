import CpuIdentity.Catalogue.Name
import CpuIdentity.Proofs.Text.Trim
import Mathlib.Data.List.Forall2

/-!
# Names of models

A text names a model if what stands between its blanks is, in capitals, the model's symbolic name or
that name without the common lead. No symbol starts with the lead itself, so taking the lead off once
leaves at most one model; and names are made of ASCII capitals, digits and underscores, so no other
character can stand inside a text that names a model.
-/

namespace CpuIdentity

namespace Text

/-- The small letters of ASCII. -/
def IsSmall (c : Char) : Prop := 0x61 ≤ c.toNat ∧ c.toNat ≤ 0x7A

instance (c : Char) : Decidable (IsSmall c) := inferInstanceAs (Decidable (_ ∧ _))

/-- The capital of a small ASCII letter; any other character is itself. -/
def capital (c : Char) : Char := if IsSmall c then Char.ofNat (c.toNat - 0x20) else c

/-- The small letter of an ASCII capital; any other character is itself. -/
def small (c : Char) : Char :=
  if 0x41 ≤ c.toNat ∧ c.toNat ≤ 0x5A then Char.ofNat (c.toNat + 0x20) else c

/-- A text is a word in some mixture of cases: each character is the word's or the small letter of it.
    -/
def InMixedCase (word t : Text) : Prop := List.Forall₂ (fun c d => d = c ∨ d = small c) word t

/-- The characters that names are made of: digits, capitals and the underscore. -/
def nameRanges : List CodeRange := [(0x30, 0x39), (0x41, 0x5A), (0x5F, 0x5F)]

/-- A character that is moved by a distance, which wraps around. -/
theorem eq_ofNat_of_val {c d : Char} {distance : UInt32} {n : Nat} (moved : d.val = c.val + distance)
    (sum : (c.val.toNat + distance.toNat) % 4294967296 = n) : d = Char.ofNat n := by
  have value : d.val.toNat = n := by
    rw [moved, UInt32.toNat_add]
    exact sum
  rw [← value]
  exact (Char.ofNat_toNat d).symm

theorem toUpper_eq_capital (c : Char) : c.toUpper = capital c := by
  unfold capital
  split
  case isTrue h =>
    have low : 'a'.val ≤ c.val := UInt32.le_iff_toNat_le.2 h.1
    have high : c.val ≤ 'z'.val := UInt32.le_iff_toNat_le.2 h.2
    have taken : c.toUpper = ⟨c.val + ('A'.val - 'a'.val), _⟩ := dif_pos ⟨low, high⟩
    have bounds : 0x61 ≤ c.val.toNat ∧ c.val.toNat ≤ 0x7A := h
    -- The distance of the two rows is subtracted by adding its complement.
    have sum : (c.val.toNat + 0xFFFFFFE0) % 4294967296 = c.val.toNat - 0x20 := by omega
    exact eq_ofNat_of_val (congrArg Char.val taken) sum
  case isFalse h =>
    refine dif_neg fun inside => h ?_
    exact ⟨UInt32.le_iff_toNat_le.1 inside.1, UInt32.le_iff_toNat_le.1 inside.2⟩

theorem toLower_eq_small (c : Char) : c.toLower = small c := by
  unfold small
  split
  case isTrue h =>
    have low : 'A'.val ≤ c.val := UInt32.le_iff_toNat_le.2 h.1
    have high : c.val ≤ 'Z'.val := UInt32.le_iff_toNat_le.2 h.2
    have taken : c.toLower = ⟨c.val + ('a'.val - 'A'.val), _⟩ := dif_pos ⟨low, high⟩
    have bounds : 0x41 ≤ c.val.toNat ∧ c.val.toNat ≤ 0x5A := h
    have sum : (c.val.toNat + 0x20) % 4294967296 = c.val.toNat + 0x20 := by omega
    exact eq_ofNat_of_val (congrArg Char.val taken) sum
  case isFalse h =>
    refine dif_neg fun inside => h ?_
    exact ⟨UInt32.le_iff_toNat_le.1 inside.1, UInt32.le_iff_toNat_le.1 inside.2⟩

theorem toNat_of_nameRanges {c : Char} (h : inRanges nameRanges c = true) :
    0x30 ≤ c.toNat ∧ c.toNat ≤ 0x5F := by
  simp only [inRanges_iff, nameRanges, List.mem_cons, List.not_mem_nil, or_false,
    exists_eq_or_imp, exists_eq_left] at h
  omega

/-- A character of a name is the capital of itself and of its small letter. -/
theorem capital_of_nameRanges {c d : Char} (name : inRanges nameRanges c = true)
    (h : d = c ∨ d = small c) : capital d = c := by
  have table : ∀ n < 0x60, capital (Char.ofNat n) = Char.ofNat n ∧
      capital (small (Char.ofNat n)) = Char.ofNat n := by decide
  have range := toNat_of_nameRanges name
  obtain ⟨same, lowered⟩ := table c.toNat (by omega)
  rw [Char.ofNat_toNat] at same lowered
  rcases h with rfl | rfl
  · exact same
  · exact lowered

/-- A character with a capital that stands in names is an ASCII character and no blank. -/
theorem range_of_capital {c : Char} (h : inRanges nameRanges (capital c) = true) :
    0x30 ≤ c.toNat ∧ c.toNat ≤ 0x7A := by
  by_cases letter : IsSmall c
  · have range : 0x61 ≤ c.toNat ∧ c.toNat ≤ 0x7A := letter
    omega
  · rw [capital, if_neg letter] at h
    have range := toNat_of_nameRanges h
    omega

theorem isBlank_eq_false {c : Char} (h : 0x30 ≤ c.toNat ∧ c.toNat ≤ 0x7A) : isBlank c = false := by
  rw [← Bool.not_eq_true]
  simp only [isBlank, inRanges_iff, blankRanges, List.mem_cons, List.not_mem_nil, or_false,
    exists_eq_or_imp, exists_eq_left]
  omega

/-- A word in mixed case is the word again in capitals. -/
theorem map_capital_of_inMixedCase {word t : Text} (name : ∀ c ∈ word, inRanges nameRanges c = true)
    (h : InMixedCase word t) : t.map capital = word := by
  induction h with
  | nil => rfl
  | cons first rest ih =>
    obtain ⟨head, tail⟩ := List.forall_mem_cons.1 name
    rw [List.map_cons, capital_of_nameRanges head first, ih tail]

end Text

namespace Model

open Text (capital InMixedCase nameRanges inRanges isBlank)

/-- A symbol is not empty, does not start with the lead, and is made of the characters of names. -/
theorem symbol_form (m : Model) : m.symbol ≠ [] ∧ nameLead.isPrefixOf m.symbol = false ∧
    (m.symbol.all fun c => inRanges nameRanges c) = true := by
  have key : ∀ a ∈ all, a.symbol ≠ [] ∧ nameLead.isPrefixOf a.symbol = false ∧
      (a.symbol.all fun c => inRanges nameRanges c) = true := by decide +kernel
  exact key m (mem_all m)

/-- The lead can be taken off a name once only. -/
theorem not_lead_prefix_symbol (m : Model) : ¬nameLead <+: m.symbol := by
  rw [← List.isPrefixOf_iff_prefix, (symbol_form m).2.1]
  exact Bool.false_ne_true

theorem nameRanges_of_mem_name (m : Model) : ∀ c ∈ m.name, inRanges nameRanges c = true := by
  have lead : (nameLead.all fun c => inRanges nameRanges c) = true := by decide
  exact List.forall_mem_append.2
    ⟨List.all_eq_true.1 lead, List.all_eq_true.1 (symbol_form m).2.2⟩

/-! ## What a text names -/

variable {s t : Text} {m m' : Model}

/-- A text names a model: what stands between its blanks is, in capitals, the model's name or that name
without the common lead. -/
def Names (s : Text) (m : Model) : Prop :=
  (Text.trim s).map capital = m.name ∨ nameLead ++ (Text.trim s).map capital = m.name

/-- A text names a model exactly if it spells its symbol. -/
theorem ofName_eq_ok_iff : ofName t = .ok m ↔ spelledSymbol t = m.symbol := by
  unfold ofName
  split
  next m' found =>
    have spelled : m'.symbol = spelledSymbol t := by simpa using List.find?_some found
    rw [Except.ok.injEq, ← spelled]
    exact ⟨congrArg symbol, symbol_injective⟩
  next absent =>
    have other := List.find?_eq_none.1 absent m (mem_all m)
    refine iff_of_false (by simp) fun spelled => other ?_
    simpa using spelled.symm

/-- Blanks around a name do not matter. -/
theorem ofName_trim : ofName (Text.trim t) = .ok m ↔ ofName t = .ok m := by
  have same : spelledSymbol (Text.trim t) = spelledSymbol t := by
    simp only [spelledSymbol, Text.trim_trim]
  rw [ofName_eq_ok_iff, ofName_eq_ok_iff, same]

/-- A name that is not known is told as it was given. -/
theorem ofName_eq_error {cause : CatalogueError} (h : ofName t = .error cause) :
    cause = .unknownModel t := by
  unfold ofName at h
  split at h
  next => cases h
  next => exact (Except.error.inj h).symm

/-- The names that are read are those of the rule for names. -/
theorem ofName_eq_ok_iff_names : ofName s = .ok m ↔ Names s m := by
  have upper : (Text.trim s).map Char.toUpper = (Text.trim s).map capital :=
    List.map_congr_left fun c _ => Text.toUpper_eq_capital c
  rw [ofName_eq_ok_iff, spelledSymbol, upper, Names, name]
  generalize (Text.trim s).map capital = word
  cases lead : Text.dropLead? nameLead word with
  | some rest =>
    obtain rfl := Text.eq_append_of_dropLead? lead
    simp only [Option.getD_some, List.append_cancel_left_eq]
    refine ⟨.inl, fun h => h.resolve_right fun doubled => ?_⟩
    exact not_lead_prefix_symbol m (doubled ▸ List.prefix_append nameLead rest)
  | none =>
    simp only [Option.getD_none, List.append_cancel_left_eq]
    refine ⟨.inr, fun h => h.resolve_left fun whole => ?_⟩
    rw [whole, Text.dropLead?_append] at lead
    cases lead

theorem ofName_eq_unknown (other : ∀ m, ¬Names s m) : ofName s = .error (.unknownModel s) := by
  cases outcome : ofName s with
  | ok m => exact absurd (ofName_eq_ok_iff_names.1 outcome) (other m)
  | error cause => rw [ofName_eq_error outcome]

/-- A text names one model at most. -/
theorem Names.unique (h : Names s m) (h' : Names s m') : m = m' := by
  have found := ofName_eq_ok_iff_names.2 h
  rw [ofName_eq_ok_iff_names.2 h'] at found
  exact (Except.ok.inj found).symm

/-- Where a text names a model, its capitals are the symbol with the lead or without it. -/
theorem Names.capitals (h : Names s m) : (Text.trim s).map capital = nameLead ++ m.symbol ∨
    (Text.trim s).map capital = m.symbol :=
  h.imp_right List.append_cancel_left

theorem Names.range (h : Names s m) : ∀ c ∈ Text.trim s, 0x30 ≤ c.toNat ∧ c.toNat ≤ 0x7A := by
  intro c hc
  have inside : capital c ∈ m.name := by
    have mem := List.mem_map_of_mem hc (f := capital)
    rcases h.capitals with whole | bare
    · rwa [whole] at mem
    · rw [bare] at mem
      exact List.mem_append_right nameLead mem
  exact Text.range_of_capital (nameRanges_of_mem_name m _ inside)

/-- A lead with nothing after it, or with a second lead after it, names no model. -/
theorem not_names_of_leads (h : (Text.trim s).map capital = nameLead ∨
    nameLead ++ nameLead <+: (Text.trim s).map capital) (m : Model) : ¬Names s m := by
  intro names
  rcases h with bare | doubled
  · rcases names.capitals with whole | symbol
    · rw [bare] at whole
      exact (symbol_form m).1 (List.self_eq_append_right.1 whole)
    · rw [bare] at symbol
      exact not_lead_prefix_symbol m (symbol ▸ List.prefix_rfl)
  · rcases names.capitals with whole | symbol
    · rw [whole, List.prefix_append_right_inj] at doubled
      exact not_lead_prefix_symbol m doubled
    · rw [symbol] at doubled
      exact not_lead_prefix_symbol m ((List.prefix_append nameLead nameLead).trans doubled)

/-- Any mixture of cases of a name, with the lead or without it, names the model, whatever blanks stand
around it. -/
theorem names_of_inMixedCase {word written front back : Text}
    (spelled : word = m.name ∨ nameLead ++ word = m.name) (mixed : InMixedCase word written)
    (before : ∀ c ∈ front, isBlank c = true) (after : ∀ c ∈ back, isBlank c = true) :
    Names (front ++ written ++ back) m := by
  have characters : ∀ c ∈ word, inRanges nameRanges c = true := by
    intro c hc
    apply nameRanges_of_mem_name m
    rcases spelled with rfl | lead
    · exact hc
    · rw [← lead]
      exact List.mem_append_right nameLead hc
  have folded := Text.map_capital_of_inMixedCase characters mixed
  have solid : ∀ c ∈ written, isBlank c = false := by
    intro c hc
    apply Text.isBlank_eq_false
    apply Text.range_of_capital
    apply characters
    rw [← folded]
    exact List.mem_map_of_mem hc
  have ends : Text.Trimmed written :=
    ⟨fun c hc => solid c (List.mem_of_head? hc), fun c hc => solid c (List.mem_of_getLast? hc)⟩
  have trimmed := Text.trim_eq_iff.2 ⟨ends, front, back, rfl, before, after⟩
  rw [Names, trimmed, folded]
  exact spelled

/-- A text is read as a model exactly if it names that model, and it names one at most. A lead alone, a
doubled lead, a blank inside and a character beyond ASCII are refused; every mixture of cases of a
name is accepted with the lead or without it, between any blanks. A refusal keeps the text as given. -/
theorem ofName_reads_names (s : Text) :
    (∀ m, ofName s = .ok m ↔ Names s m) ∧
    (∀ m m', Names s m → Names s m' → m = m') ∧
    ((Text.trim s).map capital = nameLead ∨ nameLead ++ nameLead <+: (Text.trim s).map capital →
      ofName s = .error (.unknownModel s)) ∧
    ((∃ c ∈ Text.trim s, isBlank c = true ∨ 0x7F < c.toNat) →
      ofName s = .error (.unknownModel s)) ∧
    (∀ m word written front back, word = m.name ∨ nameLead ++ word = m.name →
      InMixedCase word written → (∀ c ∈ front, isBlank c = true) →
      (∀ c ∈ back, isBlank c = true) → s = front ++ written ++ back → ofName s = .ok m) ∧
    ((∀ m, ¬Names s m) → ofName s = .error (.unknownModel s)) := by
  refine ⟨fun m => ofName_eq_ok_iff_names, fun m m' => Names.unique, ?_, ?_, ?_, ofName_eq_unknown⟩
  · intro leads
    exact ofName_eq_unknown (not_names_of_leads leads)
  · rintro ⟨c, hc, odd⟩
    refine ofName_eq_unknown fun m names => ?_
    have range := names.range c hc
    rcases odd with blank | beyond
    · rw [Text.isBlank_eq_false range] at blank
      cases blank
    · omega
  · rintro m word written front back spelled mixed before after rfl
    exact ofName_eq_ok_iff_names.2 (names_of_inMixedCase spelled mixed before after)

example : ofName "\u2003intel_FAM6_Skylake_x\n" = .ok .skylakeX := by decide

end Model

end CpuIdentity
