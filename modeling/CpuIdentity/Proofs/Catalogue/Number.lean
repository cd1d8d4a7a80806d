import CpuIdentity.Catalogue.Name
import CpuIdentity.Error
import CpuIdentity.Proofs.Catalogue.Name
import CpuIdentity.Proofs.Text.Numeral

/-!
# Model numbers

A text gives a model number as a hexadecimal numeral after a mark, as a decimal numeral, or as the
name of a model. Its first characters settle which, and no name starts like a numeral, so the three
never compete. A text that gives none is refused for the fault of its own form.
-/

namespace CpuIdentity

open Text (IsDigit Denotes Overflows afterSign)

/-- The mark of a hexadecimal number, and what follows it. -/
def Marked (t rest : Text) : Prop := t = "0x" ++ rest ∨ t = "0X" ++ rest

/-- One decimal digit or more, and nothing else. -/
def AllDigits (t : Text) : Prop := t ≠ [] ∧ ∀ c ∈ t, c.isDigit = true

variable {s t rest : Text} {b : UInt8} {n : Nat} {m : Model}

theorem hexadecimal?_eq_some_iff : hexadecimal? t = some rest ↔ Marked t rest := by
  constructor
  · intro h
    cases low : Text.dropLead? "0x" t with
    | some r =>
      rw [hexadecimal?, low] at h
      obtain rfl : r = rest := Option.some.inj h
      exact .inl (Text.eq_append_of_dropLead? low)
    | none =>
      rw [hexadecimal?, low] at h
      exact .inr (Text.eq_append_of_dropLead? h)
  · rintro (rfl | rfl)
    · rw [hexadecimal?, Text.dropLead?_append "0x" rest]
      rfl
    · rw [hexadecimal?, Text.dropLead?_append "0X" rest]
      rfl

theorem hexadecimal?_eq_none (unmarked : ∀ rest, ¬Marked t rest) : hexadecimal? t = none := by
  refine Option.eq_none_iff_forall_ne_some.2 fun rest h => ?_
  exact unmarked rest (hexadecimal?_eq_some_iff.1 h)

theorem isDecimal_iff : isDecimal t = true ↔ AllDigits t := by
  simp [isDecimal, AllDigits]

theorem Marked.head (h : Marked t rest) : t.head? = some '0' := by
  rcases h with rfl | rfl <;> rfl

theorem AllDigits.head (h : AllDigits t) : ∃ c, t.head? = some c ∧ c.isDigit = true := by
  cases t with
  | nil => exact absurd rfl h.1
  | cons c t => exact ⟨c, rfl, h.2 c List.mem_cons_self⟩

namespace Model

theorem capital_of_isDigit {c : Char} (h : c.isDigit = true) : Text.capital c = c := by
  have range := Text.toNat_of_isDigit h
  refine if_neg fun letter => ?_
  have low : 0x61 ≤ c.toNat := letter.1
  omega

/-- No symbol begins with a digit. -/
theorem head_of_symbol (m : Model) : ∃ c, m.symbol.head? = some c ∧ c.isDigit = false := by
  have letters : ∀ a ∈ all, (a.symbol.head?.any fun c => !c.isDigit) = true := by decide +kernel
  simpa [Option.any_eq_true] using letters m (mem_all m)

/-- A text that names a model starts with a letter, with the common lead or without it. -/
theorem head_of_ofName (h : ofName t = .ok m) :
    ∃ c, (Text.trim t).head? = some c ∧ c.isDigit = false := by
  have capitals : ∃ u, ((Text.trim t).map Text.capital).head? = some u ∧ u.isDigit = false := by
    rcases (ofName_eq_ok_iff_names.1 h).capitals with whole | bare
    · rw [whole]
      exact ⟨'I', rfl, by decide⟩
    · rw [bare]
      exact head_of_symbol m
  obtain ⟨u, first, other⟩ := capitals
  rw [List.head?_map, Option.map_eq_some_iff] at first
  obtain ⟨c, first, rfl⟩ := first
  refine ⟨c, first, ?_⟩
  by_contra digit
  rw [Bool.not_eq_false] at digit
  rw [capital_of_isDigit digit, digit] at other
  cases other

/-- No text that names a model has the form of a numeral. -/
theorem not_numeral_of_ofName (h : ofName t = .ok m) :
    (∀ rest, ¬Marked (Text.trim t) rest) ∧ ¬AllDigits (Text.trim t) := by
  obtain ⟨c, first, letter⟩ := head_of_ofName h
  constructor
  · intro rest marked
    obtain rfl : '0' = c := Option.some.inj (marked.head.symm.trans first)
    cases letter
  · intro digits
    obtain ⟨d, first', digit⟩ := digits.head
    obtain rfl : d = c := Option.some.inj (first'.symm.trans first)
    rw [digit] at letter
    cases letter

/-! ## Reading in each form -/

/-- A marked text is read as a hexadecimal number. -/
theorem readNumber_of_marked (marked : Marked (Text.trim s) rest) :
    readNumber s = ((Text.readNumeral 16 255 rest).map UInt8.ofNat).mapError
      (.hexadecimal (Text.trim s)) := by
  rw [readNumber, readTrimmedNumber, hexadecimal?_eq_some_iff.2 marked]
  dsimp only
  cases Text.readNumeral 16 255 rest <;> rfl

/-- A text of digits is read as a decimal number. -/
theorem readNumber_of_digits (unmarked : ∀ rest, ¬Marked (Text.trim s) rest)
    (digits : AllDigits (Text.trim s)) :
    readNumber s = ((Text.readNumeral 10 255 (Text.trim s)).map UInt8.ofNat).mapError
      (.decimal (Text.trim s)) := by
  rw [readNumber, readTrimmedNumber, hexadecimal?_eq_none unmarked]
  dsimp only
  rw [if_pos (isDecimal_iff.2 digits)]
  cases Text.readNumeral 10 255 (Text.trim s) <;> rfl

/-- Any other text is read as a name. -/
theorem readNumber_of_other (unmarked : ∀ rest, ¬Marked (Text.trim s) rest)
    (other : ¬AllDigits (Text.trim s)) :
    readNumber s = ((ofName (Text.trim s)).map number).mapError .name := by
  rw [readNumber, readTrimmedNumber, hexadecimal?_eq_none unmarked]
  dsimp only
  rw [if_neg (mt isDecimal_iff.1 other)]
  cases ofName (Text.trim s) <;> rfl

section Outcomes

variable {ε ε' α β : Type} {r : Except ε α} {f : α → β} {g : ε → ε'}

theorem mapped_eq_ok_iff {y : β} :
    (r.map f).mapError g = .ok y ↔ ∃ x, r = .ok x ∧ f x = y := by
  cases r <;> simp [Except.map, Except.mapError]

theorem mapped_eq_error_iff {y : ε'} :
    (r.map f).mapError g = .error y ↔ ∃ x, r = .error x ∧ g x = y := by
  cases r <;> simp [Except.map, Except.mapError]

end Outcomes

/-- A text gives a number. -/
def Gives (s : Text) (n : Nat) : Prop := ∃ b, readNumber s = .ok b ∧ b.toNat = n

/-- What a numeral gives, whatever its base. -/
theorem gives_of_numeral {base : Nat} {f : Text.NumeralError → NumberError} (hb : 0 < base)
    (hb' : base ≤ 16)
    (form : readNumber s = ((Text.readNumeral base 255 t).map UInt8.ofNat).mapError f) :
    Gives s n ↔ afterSign t ≠ [] ∧ Denotes base (afterSign t) n ∧ n ≤ 255 := by
  simp only [Gives, form, mapped_eq_ok_iff, Text.readNumeral_eq_ok_iff hb hb']
  constructor
  · rintro ⟨b, ⟨k, ⟨digits, value, fits⟩, rfl⟩, rfl⟩
    rw [UInt8.toNat_ofNat_of_lt' (Nat.lt_succ_of_le fits)]
    exact ⟨digits, value, fits⟩
  · rintro ⟨digits, value, fits⟩
    exact ⟨UInt8.ofNat n, ⟨n, ⟨digits, value, fits⟩, rfl⟩,
      UInt8.toNat_ofNat_of_lt' (Nat.lt_succ_of_le fits)⟩

/-- A text that is no numeral gives the number of the model that it names. -/
theorem gives_of_other (unmarked : ∀ rest, ¬Marked (Text.trim s) rest)
    (other : ¬AllDigits (Text.trim s)) :
    Gives s n ↔ ∃ m, ofName (Text.trim s) = .ok m ∧ m.number.toNat = n := by
  simp only [Gives, readNumber_of_other unmarked other, mapped_eq_ok_iff]
  constructor
  · rintro ⟨b, ⟨m, name, rfl⟩, rfl⟩
    exact ⟨m, name, rfl⟩
  · rintro ⟨m, name, rfl⟩
    exact ⟨m.number, ⟨m, name, rfl⟩, rfl⟩

/-- The number that a text gives is settled by its form: what follows the mark in hexadecimal,
digits alone in decimal, and anything else as the name of a model. No name has another form. -/
theorem gives_iff (s : Text) :
    (∀ rest, Marked (Text.trim s) rest →
      (∀ n, Gives s n ↔ afterSign rest ≠ [] ∧ Denotes 16 (afterSign rest) n ∧ n ≤ 255) ∧
      ∀ e, readNumber s = .error e → ∃ reason, e = .hexadecimal (Text.trim s) reason) ∧
    ((∀ rest, ¬Marked (Text.trim s) rest) → AllDigits (Text.trim s) →
      ∀ n, Gives s n ↔ Denotes 10 (Text.trim s) n ∧ n ≤ 255) ∧
    ((∀ rest, ¬Marked (Text.trim s) rest) → ¬AllDigits (Text.trim s) →
      ∀ n, Gives s n ↔ ∃ m, ofName (Text.trim s) = .ok m ∧ m.number.toNat = n) ∧
    ∀ m, ofName s = .ok m →
      (∀ rest, ¬Marked (Text.trim s) rest) ∧ ¬AllDigits (Text.trim s) ∧
        ofName (Text.trim s) = .ok m ∧ readNumber s = .ok m.number := by
  refine ⟨?_, ?_, ?_, ?_⟩
  · intro rest marked
    have form := readNumber_of_marked marked
    refine ⟨fun n => gives_of_numeral (by decide) (by decide) form, ?_⟩
    intro e h
    rw [form, mapped_eq_error_iff] at h
    obtain ⟨reason, -, rfl⟩ := h
    exact ⟨reason, rfl⟩
  · intro unmarked digits n
    have form := readNumber_of_digits unmarked digits
    rw [gives_of_numeral (by decide) (by decide) form, Text.afterSign_of_digits digits.2]
    exact and_iff_right digits.1
  · intro unmarked other n
    exact gives_of_other unmarked other
  · intro m name
    obtain ⟨unmarked, other⟩ := not_numeral_of_ofName name
    have trimmed := ofName_trim.2 name
    refine ⟨unmarked, other, trimmed, ?_⟩
    rw [readNumber_of_other unmarked other, mapped_eq_ok_iff]
    exact ⟨m, trimmed, rfl⟩

/-- A text that gives no number is refused for the fault of its own form, and blanks around it make
no difference to the refusal. -/
theorem refusal_of_readNumber {e : NumberError} (h : readNumber s = .error e) :
    (∀ s', Text.trim s' = Text.trim s → readNumber s' = .error e) ∧
    (∀ rest, Marked (Text.trim s) rest → ∃ reason, Text.Explains 16 255 rest reason ∧
      e = .hexadecimal (Text.trim s) reason ∧
      Error.ofNumberError e =
        .parse ("Invalid hex model number " ++ Text.trim s ++ ": " ++ reason.message)) ∧
    ((∀ rest, ¬Marked (Text.trim s) rest) → AllDigits (Text.trim s) →
      Error.ofNumberError e =
        .parse ("Invalid model number " ++ Text.trim s ++ ": " ++
          Text.NumeralError.tooLarge.message)) ∧
    ((∀ rest, ¬Marked (Text.trim s) rest) → ¬AllDigits (Text.trim s) →
      Error.ofNumberError e = .catalogue (.unknownModel (Text.trim s))) := by
  refine ⟨?_, ?_, ?_, ?_⟩
  · intro s' same
    rw [readNumber, same]
    exact h
  · intro rest marked
    rw [readNumber_of_marked marked, mapped_eq_error_iff] at h
    obtain ⟨reason, fault, rfl⟩ := h
    exact ⟨reason, Text.explains_of_readNumeral (by decide) (by decide) fault, rfl, rfl⟩
  · intro unmarked digits
    rw [readNumber_of_digits unmarked digits, mapped_eq_error_iff] at h
    obtain ⟨reason, fault, rfl⟩ := h
    rw [Text.eq_tooLarge_of_digits digits.1 digits.2 fault]
    rfl
  · intro unmarked other
    rw [readNumber_of_other unmarked other, mapped_eq_error_iff] at h
    obtain ⟨cause, fault, rfl⟩ := h
    rw [ofName_eq_error fault]
    rfl

/-- A letter beyond the digits does not hide that they denote too much. -/
theorem refusal_of_overlong_run :
    readNumber " 0x1FFg\u2003" = .error (.hexadecimal "0x1FFg" .tooLarge) ∧
      Text.Explains 16 255 "1FFg" .tooLarge := by
  have refused : readNumber " 0x1FFg\u2003" = .error (.hexadecimal "0x1FFg" .tooLarge) := by decide
  have trimmed : Text.trim " 0x1FFg\u2003" = "0x1FFg" := by decide
  have marked : Marked (Text.trim " 0x1FFg\u2003") "1FFg" := by
    rw [trimmed]
    exact .inl rfl
  obtain ⟨reason, explains, kept, -⟩ := (refusal_of_readNumber refused).2.1 "1FFg" marked
  obtain ⟨-, rfl⟩ := NumberError.hexadecimal.inj kept
  exact ⟨refused, explains⟩

end Model

end CpuIdentity
