import CpuIdentity.Proofs.Text.Numeral
import CpuIdentity.Proofs.Utf8
import CpuIdentity.Text.Quoted

/-!
# Reading quoted texts

Each escape can be read off the front of a text, whatever follows it, and none begins like the closing
quote. So a quoted text ends at one place only and tells the text that was quoted. It is made of
printable characters alone, and so it has one line.
-/

namespace CpuIdentity.Text

/-- What a character after a backslash stands for. -/
def unescape? (c : Char) : Option Char :=
  if c = '0' then some '\x00'
  else if c = 't' then some '\t'
  else if c = 'r' then some '\r'
  else if c = 'n' then some '\n'
  else if c = '\\' ∨ c = '"' then some c
  else none

/-- The character whose code point stands in braces at the front of a text, and what follows. -/
def readCode? : Text → Option (Char × Text)
  | '\x7b' :: t =>
    match readNumeral 16 0x10FFFF (t.takeWhile (· ≠ '\x7d')) with
    | .ok n => some (Char.ofNat n, (t.dropWhile (· ≠ '\x7d')).tail)
    | .error _ => none
  | _ => none

/-- The character at the front of a text inside quotes, with its escape undone, and what follows it. The
    closing quote is none. -/
def readEscape? : Text → Option (Char × Text)
  | [] => none
  | '"' :: _ => none
  | ['\\'] => none
  | '\\' :: 'u' :: t => readCode? t
  | '\\' :: c :: t => (unescape? c).map (·, t)
  | c :: t => some (c, t)

variable {c : Char} {t t' rest rest' : Text}

theorem toNat_le_max (c : Char) : c.toNat ≤ 0x10FFFF := by
  have valid := Utf8.toNat_valid c
  have code : c.toNat = c.val.toNat := rfl
  omega

theorem readCode?_hexLower (c : Char) (t : Text) :
    readCode? ("\x7b" ++ hexLower c.toNat ++ "\x7d" ++ t) = some (c, t) := by
  have inside : ∀ d ∈ hexLower c.toNat, decide (d ≠ '\x7d') = true := by
    intro d hd
    have range := (denotes_hexLower c.toNat).range (Nat.le_refl 16) d hd
    refine decide_eq_true fun brace => ?_
    subst brace
    revert range
    decide
  have read : readNumeral 16 0x10FFFF (hexLower c.toNat) = .ok c.toNat :=
    readNumeral_of_denotes (by decide) (Nat.le_refl 16) (hexLower_ne_nil _) (denotes_hexLower _)
      (toNat_le_max c)
  have grouped : "\x7b" ++ hexLower c.toNat ++ "\x7d" ++ t =
      '\x7b' :: (hexLower c.toNat ++ '\x7d' :: t) := by simp
  have stops : ('\x7d' :: t).takeWhile (· ≠ '\x7d') = [] := rfl
  have ends : ('\x7d' :: t).dropWhile (· ≠ '\x7d') = '\x7d' :: t := rfl
  rw [grouped, readCode?, List.takeWhile_append_of_pos inside, List.dropWhile_append_of_pos inside,
    stops, ends, List.append_nil, read]
  simp

theorem readEscape?_escapeCode (c : Char) (t : Text) :
    readEscape? (escapeCode c ++ t) = some (c, t) := by
  have grouped : escapeCode c ++ t =
      '\\' :: 'u' :: ("\x7b" ++ hexLower c.toNat ++ "\x7d" ++ t) := by
    simp [escapeCode]
  rw [grouped]
  exact readCode?_hexLower c t

theorem readEscape?_plain (backslash : c ≠ '\\') (quote : c ≠ '"') (t : Text) :
    readEscape? (c :: t) = some (c, t) := by
  unfold readEscape?
  split
  case h_1 nothing => cases nothing
  case h_2 rest closing => exact absurd (List.cons.inj closing).1 quote
  case h_3 alone => exact absurd (List.cons.inj alone).1 backslash
  case h_4 rest code => exact absurd (List.cons.inj code).1 backslash
  case h_5 d rest escaped => exact absurd (List.cons.inj escaped).1 backslash
  case h_6 d rest _ _ _ parts =>
    obtain ⟨rfl, rfl⟩ := List.cons.inj parts
    rfl

/-- A character is read off its own escape, whatever follows. -/
theorem readEscape?_escape (c : Char) (t : Text) : readEscape? (escape c ++ t) = some (c, t) := by
  unfold escape
  split_ifs with nul tab cr lf backslash quote shown
  · rw [nul]; rfl
  · rw [tab]; rfl
  · rw [cr]; rfl
  · rw [lf]; rfl
  · rw [backslash]; rfl
  · rw [quote]; rfl
  · exact readEscape?_escapeCode c t
  · exact readEscape?_plain backslash quote t

theorem readEscape?_quoted (c : Char) (t rest : Text) :
    readEscape? ((c :: t).flatMap escape ++ '"' :: rest) =
      some (c, t.flatMap escape ++ '"' :: rest) := by
  rw [List.flatMap_cons, List.append_assoc, readEscape?_escape]

/-- What is read off two equal texts, one character at a time, is the same up to the closing quote. -/
theorem escaped_append_inj
    (h : t.flatMap escape ++ '"' :: rest = t'.flatMap escape ++ '"' :: rest') :
    t = t' ∧ rest = rest' := by
  have closed (rest : Text) : readEscape? ('"' :: rest) = none := rfl
  induction t generalizing t' with
  | nil =>
    cases t' with
    | nil => exact ⟨rfl, (List.cons.inj h).2⟩
    | cons c' t' =>
      have read := congrArg readEscape? h
      rw [readEscape?_quoted, List.flatMap_nil, List.nil_append, closed] at read
      cases read
  | cons c t ih =>
    have read := congrArg readEscape? h
    rw [readEscape?_quoted] at read
    cases t' with
    | nil =>
      rw [List.flatMap_nil, List.nil_append, closed] at read
      cases read
    | cons c' t' =>
      rw [readEscape?_quoted] at read
      obtain ⟨rfl, tail⟩ := Prod.mk.inj (Option.some.inj read)
      obtain ⟨rfl, rest⟩ := ih tail
      exact ⟨rfl, rest⟩

/-- A quoted text tells what was quoted, and where it ends, whatever follows it. -/
theorem quote_append_inj (h : quote t ++ rest = quote t' ++ rest') : t = t' ∧ rest = rest' := by
  have grouped (t rest : Text) : quote t ++ rest = '"' :: (t.flatMap escape ++ '"' :: rest) := by
    simp [quote]
  rw [grouped, grouped] at h
  exact escaped_append_inj (List.cons.inj h).2

theorem quote_injective (h : quote t = quote t') : t = t' :=
  (quote_append_inj (congrArg (· ++ []) h)).1

/-! ## Printable characters -/

/-- The characters between the space and the tilde are printable. -/
theorem isPrintable_of_ascii (low : 0x20 ≤ c.toNat) (high : c.toNat ≤ 0x7E) :
    isPrintable c = true := by
  have apart : ∀ r ∈ unprintableRanges, r.2 < 0x20 ∨ 0x7E < r.1 := by decide +kernel
  rw [isPrintable, Bool.not_eq_true', ← Bool.not_eq_true, inRanges_iff]
  rintro ⟨r, hr, first, last⟩
  have outside := apart r hr
  omega

/-- A text in which every character is printable. -/
def Printable (t : Text) : Prop := ∀ c ∈ t, isPrintable c = true

theorem printable_of_ascii
    (h : (t.all fun c => decide (0x20 ≤ c.toNat) && decide (c.toNat ≤ 0x7E)) = true) :
    Printable t := by
  intro c hc
  have range := List.all_eq_true.1 h c hc
  rw [Bool.and_eq_true, decide_eq_true_eq, decide_eq_true_eq] at range
  exact isPrintable_of_ascii range.1 range.2

theorem Printable.append (h : Printable t) (h' : Printable t') : Printable (t ++ t') :=
  List.forall_mem_append.2 ⟨h, h'⟩

theorem Denotes.printable {base n : Nat} (hb : base ≤ 16) (h : Denotes base t n) : Printable t := by
  intro c hc
  have range := h.range hb c hc
  exact isPrintable_of_ascii (by omega) (by omega)

theorem printable_escapeCode (c : Char) : Printable (escapeCode c) := by
  have lead : Printable "\\u\x7b" := printable_of_ascii (by decide)
  have brace : Printable "\x7d" := printable_of_ascii (by decide)
  exact (lead.append ((denotes_hexLower c.toNat).printable (Nat.le_refl 16))).append brace

/-- A character that stands for itself is printable, and an escape is made of ASCII characters. -/
theorem printable_escape (c : Char) : Printable (escape c) := by
  unfold escape
  split_ifs with nul tab cr lf backslash quote shown
  · exact printable_of_ascii (by decide)
  · exact printable_of_ascii (by decide)
  · exact printable_of_ascii (by decide)
  · exact printable_of_ascii (by decide)
  · exact printable_of_ascii (by decide)
  · exact printable_of_ascii (by decide)
  · exact printable_escapeCode c
  · rw [Bool.or_eq_true, not_or, Bool.not_eq_true', Bool.not_eq_false] at shown
    intro d hd
    rw [List.mem_singleton.1 hd]
    exact shown.2

theorem printable_quote (t : Text) : Printable (quote t) := by
  have escaped : Printable (t.flatMap escape) := by
    intro d hd
    obtain ⟨c, -, inside⟩ := List.mem_flatMap.1 hd
    exact printable_escape c d inside
  have opening : quote t = ['"'] ++ t.flatMap escape ++ ['"'] := rfl
  rw [opening]
  exact ((printable_of_ascii (by decide)).append escaped).append (printable_of_ascii (by decide))

/-- No character that ends a line is printable. -/
theorem Printable.one_line (h : Printable t) : '\n' ∉ t ∧ '\r' ∉ t := by
  have lf : isPrintable '\n' = false := by decide +kernel
  have cr : isPrintable '\r' = false := by decide +kernel
  constructor
  · intro member
    rw [h _ member] at lf
    cases lf
  · intro member
    rw [h _ member] at cr
    cases cr

end CpuIdentity.Text
