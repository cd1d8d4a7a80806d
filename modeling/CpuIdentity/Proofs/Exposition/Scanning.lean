import CpuIdentity.Proofs.Exposition.Reader

/-!
# Reading the parts of a line

Each part that the printer writes is read back as what it was, up to the character that the printer
writes behind it. For escaped texts that character is the line's end or the closing quote, which no
escaped text holds.
-/

namespace CpuIdentity.Exposition

namespace Reader

variable {α β γ : Type}

/-- The text does not begin inside a class of characters. -/
def Stops (p : Char → Bool) (t : Text) : Prop := ∀ c, t.head? = some c → p c = false

theorem stops_cons {p : Char → Bool} {c : Char} {t : Text} (h : p c = false) :
    Stops p (c :: t) := by
  intro d hd
  cases hd
  exact h

theorem stops_nil (p : Char → Bool) : Stops p [] := by
  intro c hc
  cases hc

/-- A word of a class is taken whole from what stops it. -/
theorem takeWhile_of_stops {p : Char → Bool} {w t : Text} (hw : ∀ c ∈ w, p c = true)
    (ht : Stops p t) : (w ++ t).takeWhile p = w := by
  rw [List.takeWhile_append_of_pos hw]
  cases t with
  | nil => exact List.append_nil w
  | cons c t => rw [List.takeWhile_cons_of_neg (by simp [ht c rfl]), List.append_nil]

/-- Nothing is dropped after a word of a class that something stops. -/
theorem dropWhile_of_stops {p : Char → Bool} {w t : Text} (hw : ∀ c ∈ w, p c = true)
    (ht : Stops p t) : (w ++ t).dropWhile p = t := by
  rw [List.dropWhile_append_of_pos hw]
  cases t with
  | nil => rfl
  | cons c t => rw [List.dropWhile_cons_of_neg (by simp [ht c rfl])]

theorem skip_of_stops {t : Text} (h : Stops isSpace t) : skip t = t :=
  dropWhile_of_stops (w := []) (by simp) h

@[simp] theorem skip_space (t : Text) : skip (' ' :: t) = skip t := rfl

/-- A character that is expected is found where it stands. -/
theorem expect_self {c : Char} (t : Text) (h : isSpace c = false) : expect c (c :: t) = some t := by
  rw [expect, skip_of_stops (stops_cons h)]
  exact if_pos rfl

/-- A character that is expected is not found where another stands. -/
theorem expect_other {c d : Char} (t : Text) (h : isSpace d = false) (hd : d ≠ c) :
    expect c (d :: t) = none := by
  rw [expect, skip_of_stops (stops_cons h)]
  exact if_neg hd

/-- A word is read up to the space behind it. -/
theorem word_append {w t : Text} (hw : ∀ c ∈ w, isSpace c = false) (hn : w ≠ [])
    (ht : Stops (fun c => !isSpace c) t) : word (w ++ t) = (w, t) := by
  have start : skip (w ++ t) = w ++ t := by
    cases w with
    | nil => exact absurd rfl hn
    | cons c w => exact skip_of_stops (stops_cons (hw c List.mem_cons_self))
  have inside : ∀ c ∈ w, (!isSpace c) = true := fun c hc => by simp [hw c hc]
  rw [word, start, takeWhile_of_stops inside ht, dropWhile_of_stops inside ht]

/-- A word ends at the first blank. -/
theorem word_append_space {w : Text} (t : Text) (hw : ∀ c ∈ w, isSpace c = false) (hn : w ≠ []) :
    word (w ++ ' ' :: t) = (w, ' ' :: t) :=
  word_append hw hn (stops_cons (by decide))

/-- Blanks before a word are skipped. -/
theorem word_space (t : Text) : word (' ' :: t) = word t := by
  rw [word, word, skip_space]

/-- The last word of a line ends with it. -/
theorem word_self {w : Text} (hw : ∀ c ∈ w, isSpace c = false) (hn : w ≠ []) :
    word w = (w, []) := by
  have := word_append hw hn (stops_nil _)
  rwa [List.append_nil] at this

/-- A line without a line feed in it is read first. -/
theorem lines?_line {l : Text} (h : '\n' ∉ l) (t : Text) :
    lines? (Text.line l ++ t) = (lines? t).map (l :: ·) := by
  induction l with
  | nil => rfl
  | cons c l ih =>
    simp only [List.mem_cons, not_or] at h
    have rest := ih h.2
    have here : Text.line (c :: l) ++ t = c :: (Text.line l ++ t) := rfl
    rw [here, lines?, if_neg (Ne.symm h.1), rest]
    cases lines? t <;> rfl

/-- Lines without line feeds in them are read back as they were written. -/
theorem lines?_flatMap_line {ls : List Text} (h : ∀ l ∈ ls, '\n' ∉ l) :
    lines? (ls.flatMap Text.line) = some ls := by
  induction ls with
  | nil => rfl
  | cons l ls ih =>
    rw [List.flatMap_cons, lines?_line (h l List.mem_cons_self),
      ih fun l' hl' => h l' (List.mem_cons_of_mem l hl')]
    rfl

theorem count_newline_line {l : Text} (h : '\n' ∉ l) : (Text.line l).count '\n' = 1 := by
  rw [Text.line, List.count_append, List.count_eq_zero_of_not_mem h]
  rfl

/-- As many line feeds are written as there are lines. -/
theorem count_newline_flatMap_line {ls : List Text} (h : ∀ l ∈ ls, '\n' ∉ l) :
    (ls.flatMap Text.line).count '\n' = ls.length := by
  induction ls with
  | nil => rfl
  | cons l ls ih =>
    have first := count_newline_line (h l List.mem_cons_self)
    have rest := ih fun l' hl' => h l' (List.mem_cons_of_mem l hl')
    rw [List.flatMap_cons, List.count_append, first, rest, List.length_cons, Nat.add_comm]

/-- Lines that are written end in a line feed. -/
theorem getLast?_flatMap_line {ls : List Text} (h : ls ≠ []) :
    (ls.flatMap Text.line).getLast? = some '\n' := by
  rw [← List.dropLast_concat_getLast h, List.flatMap_append, List.flatMap_singleton, Text.line,
    ← List.append_assoc, List.getLast?_concat]

theorem escapeHelp_plain {c : Char} (hb : c ≠ '\\') (hn : c ≠ '\n') : escapeHelp c = [c] := by
  rw [escapeHelp, if_neg hb, if_neg hn]

theorem escapeValue_plain {c : Char} (hq : c ≠ '"') (hb : c ≠ '\\') (hn : c ≠ '\n') :
    escapeValue c = [c] := by
  rw [escapeValue, if_neg hq, escapeHelp_plain hb hn]

/-- A help text is read back from its escapes. -/
theorem readHelp_escape (help : Text) : readHelp (help.flatMap escapeHelp) = some help := by
  induction help with
  | nil => rfl
  | cons c help ih =>
    rw [List.flatMap_cons]
    -- Only an escaped character begins with a backslash, so the reader takes the printer's cases.
    by_cases hb : c = '\\'
    · rw [hb]
      show (readHelp (help.flatMap escapeHelp)).map ('\\' :: ·) = _
      rw [ih, Option.map_some]
    by_cases hn : c = '\n'
    · rw [hn]
      show (readHelp (help.flatMap escapeHelp)).map ('\n' :: ·) = _
      rw [ih, Option.map_some]
    · rw [escapeHelp_plain hb hn, List.singleton_append, readHelp.eq_4 _ _ _ _, ih, Option.map_some]
      all_goals simp [hb]

/-- A label value is read back from its escapes, up to the quote that closes it. -/
theorem readValue_escape (v t : Text) :
    readValue (v.flatMap escapeValue ++ '"' :: t) = some (v, t) := by
  induction v with
  | nil => rfl
  | cons c v ih =>
    rw [List.flatMap_cons, List.append_assoc]
    by_cases hq : c = '"'
    · rw [hq]
      show (readValue (v.flatMap escapeValue ++ '"' :: t)).map (fun r => ('"' :: r.1, r.2)) = _
      rw [ih, Option.map_some]
    by_cases hb : c = '\\'
    · rw [hb]
      show (readValue (v.flatMap escapeValue ++ '"' :: t)).map (fun r => ('\\' :: r.1, r.2)) = _
      rw [ih, Option.map_some]
    by_cases hn : c = '\n'
    · rw [hn]
      show (readValue (v.flatMap escapeValue ++ '"' :: t)).map (fun r => ('\n' :: r.1, r.2)) = _
      rw [ih, Option.map_some]
    · rw [escapeValue_plain hq hb hn, List.singleton_append, readValue.eq_5 _ _ _ _ _, ih,
        Option.map_some]
      all_goals simp [hq, hb]

/-- No escape of a help text has a line feed in it. -/
theorem newline_not_mem_escapeHelp (c : Char) : '\n' ∉ escapeHelp c := by
  intro h
  by_cases hb : c = '\\'
  · rw [hb] at h
    exact absurd h (by decide)
  by_cases hn : c = '\n'
  · rw [hn] at h
    exact absurd h (by decide)
  · rw [escapeHelp_plain hb hn, List.mem_singleton] at h
    exact hn h.symm

/-- No escape of a label value has a line feed in it. -/
theorem newline_not_mem_escapeValue (c : Char) : '\n' ∉ escapeValue c := by
  by_cases hq : c = '"'
  · rw [hq]
    decide
  · rw [escapeValue, if_neg hq]
    exact newline_not_mem_escapeHelp c

/-! ## Names, labels and numbers -/

theorem all_of_isLabelName {name : Text} (h : isLabelName name = true) :
    ∀ c ∈ name, continuesLabel c = true := by
  cases name with
  | nil => cases h
  | cons c cs =>
    exact Text.all_of_first_and_rest (fun d hd => by rw [continuesLabel, hd, Bool.true_or]) h

theorem ne_nil_of_isMetricName {name : Text} (h : isMetricName name = true) : name ≠ [] := by
  rintro rfl
  cases h

/-- A character that a class holds is none that the class does not hold. -/
theorem ne_of_class {p : Char → Bool} {c d : Char} (hc : p c = true) (hd : p d = false) : c ≠ d := by
  rintro rfl
  rw [hc] at hd
  cases hd

/-- A class without the blank and the tabulator has no blanks in it. -/
theorem not_isSpace_of_class {p : Char → Bool} {c : Char} (hc : p c = true) (blank : p ' ' = false)
    (tab : p '\t' = false) : isSpace c = false := by
  simp [isSpace, ne_of_class hc blank, ne_of_class hc tab]

theorem not_isSpace_of_isMetricName {name : Text} (h : isMetricName name = true) :
    ∀ c ∈ name, isSpace c = false := fun c hc =>
  not_isSpace_of_class (all_of_isMetricName h c hc) (by decide) (by decide)

/-- A label is read back from its text, whatever follows. -/
theorem readLabel_text {l : Label} (h : isLabelName l.name = true) (t : Text) :
    readLabel (l.text ++ t) = some (l, t) := by
  have inside := all_of_isLabelName h
  -- The name ends at the equals sign, which no name holds, and the value at the first bare quote.
  let value := l.value.flatMap escapeValue ++ '"' :: t
  have shape : l.text ++ t = l.name ++ '=' :: '"' :: value := by
    unfold Label.text
    rw [List.append_assoc, List.append_assoc, List.append_assoc]
    rfl
  have ends : Stops continuesLabel ('=' :: '"' :: value) := stops_cons (by decide)
  have start : skip (l.text ++ t) = l.text ++ t := by
    rw [shape]
    cases hn : l.name with
    | nil => rw [hn] at h; cases h
    | cons c cs =>
      rw [hn] at inside
      exact skip_of_stops (stops_cons
        (not_isSpace_of_class (inside c List.mem_cons_self) (by decide) (by decide)))
  have read := readValue_escape l.value t
  unfold readLabel
  simp only [start]
  rw [shape, takeWhile_of_stops inside ends, dropWhile_of_stops inside ends, if_pos h,
    expect_self _ (by decide), Option.bind_eq_bind, Option.bind_some, expect_self _ (by decide),
    Option.bind_eq_bind, Option.bind_some, read]
  rfl

/-- A label that a brace follows is the last one. -/
theorem readLabels_last {t rest rest' : Text} {l : Label} (first : readLabel t = some (l, rest))
    (alone : expect ',' rest = none) (close : expect '\x7d' rest = some rest') :
    readLabels t = some ([l], rest') := by
  rw [readLabels]
  split
  case h_1 none => rw [first] at none; cases none
  case h_2 l' r some =>
    obtain ⟨rfl, rfl⟩ := Prod.mk.inj (Option.some.inj (some.symm.trans first))
    split
    case h_1 more => rw [alone] at more; cases more
    case h_2 => rw [close]; rfl

/-- A label that a comma follows has others after it. -/
theorem readLabels_more {t rest rest' : Text} {l : Label} (first : readLabel t = some (l, rest))
    (comma : expect ',' rest = some rest') :
    readLabels t = (readLabels rest').map fun r => (l :: r.1, r.2) := by
  rw [readLabels]
  split
  case h_1 none => rw [first] at none; cases none
  case h_2 l' r some =>
    obtain ⟨rfl, rfl⟩ := Prod.mk.inj (Option.some.inj (some.symm.trans first))
    split
    case h_1 more => obtain rfl := Option.some.inj (more.symm.trans comma); rfl
    case h_2 more => rw [comma] at more; cases more

/-- Labels in print are read up to the brace behind them. -/
theorem readLabels_text {l : Label} {ls : List Label}
    (h : ∀ l' ∈ l :: ls, isLabelName l'.name = true) (t : Text) :
    readLabels (Text.joinWith "," ((l :: ls).map Label.text) ++ '\x7d' :: t) = some (l :: ls, t) := by
  induction ls generalizing l with
  | nil =>
    have shape : Text.joinWith "," ([l].map Label.text) ++ '\x7d' :: t = l.text ++ '\x7d' :: t := by
      simp [Text.joinWith]
    rw [shape]
    exact readLabels_last (readLabel_text (h l List.mem_cons_self) _)
      (expect_other _ (by decide) (by decide)) (expect_self _ (by decide))
  | cons l' ls ih =>
    let rest := Text.joinWith "," ((l' :: ls).map Label.text) ++ '\x7d' :: t
    have shape : Text.joinWith "," ((l :: l' :: ls).map Label.text) ++ '\x7d' :: t =
        l.text ++ ',' :: rest := by
      simp only [Text.joinWith, List.map_cons, List.intercalate_cons_cons, List.append_assoc, rest]
      rfl
    have others := ih fun k hk => h k (List.mem_cons_of_mem l hk)
    rw [shape, readLabels_more (readLabel_text (h l List.mem_cons_self) _)
      (expect_self rest (by decide)), others]
    rfl

/-- The text of labels, taken apart at its braces. -/
theorem labelsText_cons (l : Label) (ls : List Label) (t : Text) :
    labelsText (l :: ls) ++ t =
      '\x7b' :: (Text.joinWith "," ((l :: ls).map Label.text) ++ '\x7d' :: t) := by
  unfold labelsText
  rw [if_neg (List.cons_ne_nil l ls), List.append_assoc, List.append_assoc]
  rfl

/-- Labels in print are read up to the space behind them, and no labels print nothing. -/
theorem readBraces_labelsText {ls : List Label} (h : ∀ l ∈ ls, isLabelName l.name = true) {t : Text}
    (ht : expect '\x7b' t = none) : readBraces (labelsText ls ++ t) = some (ls, t) := by
  cases ls with
  | nil =>
    rw [labelsText, if_pos rfl, List.nil_append, readBraces, ht]
  | cons l ls =>
    rw [labelsText_cons, readBraces, expect_self _ (by decide)]
    exact readLabels_text h t

theorem isDigit_upperDigit {d : Nat} (h : d < 10) : (Text.upperDigit d).isDigit = true := by
  have all : ∀ d < 10, (Text.upperDigit d).isDigit = true := by decide
  exact all d h

theorem toNat_upperDigit {d : Nat} (h : d < 10) : (Text.upperDigit d).toNat - '0'.toNat = d := by
  have all : ∀ d < 10, (Text.upperDigit d).toNat - '0'.toNat = d := by decide
  exact all d h

theorem isDigit_of_mem_decimal {n : Nat} {c : Char} (h : c ∈ Text.decimal n) : c.isDigit = true := by
  obtain ⟨d, hd, rfl⟩ := List.mem_map.1 h
  exact isDigit_upperDigit (Text.lt_of_mem_digits (by decide) hd)

theorem decimal_ne_nil (n : Nat) : Text.decimal n ≠ [] := by
  unfold Text.decimal Text.digits
  split <;> simp

/-- A number is read back from its decimal digits. -/
theorem readNumber_decimal (n : Nat) : readNumber (Text.decimal n) = some n := by
  have digits : (Text.decimal n).all Char.isDigit = true :=
    List.all_eq_true.2 fun c hc => isDigit_of_mem_decimal hc
  have values : (Text.decimal n).map (fun c => c.toNat - '0'.toNat) = Text.digits 10 n := by
    unfold Text.decimal
    rw [List.map_map]
    refine (List.map_congr_left fun d hd => ?_).trans (List.map_id _)
    exact toNat_upperDigit (Text.lt_of_mem_digits (by decide) hd)
  rw [readNumber, if_pos ⟨decimal_ne_nil n, digits⟩, values, Text.ofDigits_digits]

theorem not_isSpace_of_mem_decimal (n : Nat) : ∀ c ∈ Text.decimal n, isSpace c = false :=
  fun _ hc => not_isSpace_of_class (isDigit_of_mem_decimal hc) (by decide) (by decide)

end Reader

end CpuIdentity.Exposition
