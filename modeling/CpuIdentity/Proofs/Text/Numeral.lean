import CpuIdentity.Text.Numeral
import Mathlib.Tactic.Ring

/-!
# What numerals denote

The digits of a numeral count for their places: each for as many as its base to the number of digits
that follow it. Reading finds this number exactly if it is within the limit. If it is not found, the
longest run of digits in front tells why: where that run denotes too much, reading ends inside it, and
what follows it makes no difference.
-/

namespace CpuIdentity.Text

/-- A character is a digit of a base: it stands in the digit's place in one of two rows. -/
def IsDigit (base : Nat) (c : Char) (d : Nat) : Prop :=
  d < base ∧ (("0123456789abcdef" : Text)[d]? = some c ∨ ("0123456789ABCDEF" : Text)[d]? = some c)

/-- The decimal digits are ten code points in a row. -/
theorem toNat_of_isDigit {c : Char} (h : c.isDigit = true) : 0x30 ≤ c.toNat ∧ c.toNat ≤ 0x39 := by
  simpa [Char.isDigit, UInt32.le_iff_toNat_le] using h

theorem toNat_le_toNat {a b : Char} (h : a ≤ b) : a.toNat ≤ b.toNat :=
  UInt32.le_iff_toNat_le.1 (Char.le_def.1 h)

/-- A digit of one base is a digit of any other that is not too small for it. -/
theorem digitValue?_of_lt {base base' d : Nat} {c : Char} (h : digitValue? base c = some d)
    (hd : d < base') : digitValue? base' c = some d := by
  unfold digitValue? at h ⊢
  split_ifs at h ⊢ <;> simp_all

/-- The code points of digits are in three ranges. -/
theorem toNat_of_digitValue? {base d : Nat} {c : Char} (h : digitValue? base c = some d) :
    d < base ∧ (c.toNat = 0x30 + d ∧ d < 10 ∨
      c.toNat = 0x57 + d ∧ 10 ≤ d ∧ d < 16 ∨ c.toNat = 0x37 + d ∧ 10 ≤ d ∧ d < 16) := by
  unfold digitValue? at h
  dsimp only at h
  split_ifs at h with digit fits low fits high fits none
  · have range := toNat_of_isDigit digit
    have value := Option.some.inj h
    omega
  · have first : 0x61 ≤ c.toNat := toNat_le_toNat low.1
    have last : c.toNat ≤ 0x66 := toNat_le_toNat low.2
    have value := Option.some.inj h
    omega
  · have first : 0x41 ≤ c.toNat := toNat_le_toNat high.1
    have last : c.toNat ≤ 0x46 := toNat_le_toNat high.2
    have value := Option.some.inj h
    omega
  · exact absurd none (Nat.lt_irrefl base)

/-- The value that is read off a character is the one that it has as a digit. -/
theorem digitValue?_eq_some_iff {base d : Nat} {c : Char} (hb : base ≤ 16) :
    digitValue? base c = some d ↔ IsDigit base c d := by
  constructor
  · intro h
    obtain ⟨fits, range⟩ := toNat_of_digitValue? h
    refine ⟨fits, ?_⟩
    rcases range with ⟨value, small⟩ | ⟨value, large, bound⟩ | ⟨value, large, bound⟩
    · have place : ∀ k < 10, ("0123456789abcdef" : Text)[k]? = some (Char.ofNat (0x30 + k)) := by
        decide
      rw [place d small, ← value, Char.ofNat_toNat]
      exact .inl rfl
    · have place : ∀ k < 16, 10 ≤ k →
          ("0123456789abcdef" : Text)[k]? = some (Char.ofNat (0x57 + k)) := by decide
      rw [place d bound large, ← value, Char.ofNat_toNat]
      exact .inl rfl
    · have place : ∀ k < 16, 10 ≤ k →
          ("0123456789ABCDEF" : Text)[k]? = some (Char.ofNat (0x37 + k)) := by decide
      rw [place d bound large, ← value, Char.ofNat_toNat]
      exact .inr rfl
  · rintro ⟨fits, row | row⟩
    · have place : ∀ k < 16, ("0123456789abcdef" : Text)[k]?.bind (digitValue? 16) = some k := by
        decide
      have found := place d (Nat.lt_of_lt_of_le fits hb)
      rw [row] at found
      exact digitValue?_of_lt found fits
    · have place : ∀ k < 16, ("0123456789ABCDEF" : Text)[k]?.bind (digitValue? 16) = some k := by
        decide
      have found := place d (Nat.lt_of_lt_of_le fits hb)
      rw [row] at found
      exact digitValue?_of_lt found fits

/-- Every decimal digit of the character set is a digit of base ten. -/
theorem exists_isDigit {c : Char} (h : c.isDigit = true) : ∃ d, IsDigit 10 c d := by
  have range := toNat_of_isDigit h
  refine ⟨c.toNat - 0x30, (digitValue?_eq_some_iff (by decide)).1 ?_⟩
  rw [digitValue?]
  simp only [h, if_true]
  rw [if_pos (by omega)]

/-- A character has at most one value as a digit. -/
theorem IsDigit.unique {base d d' : Nat} {c : Char} (hb : base ≤ 16) (h : IsDigit base c d)
    (h' : IsDigit base c d') : d = d' := by
  have value := (digitValue?_eq_some_iff hb).2 h
  rw [(digitValue?_eq_some_iff hb).2 h'] at value
  exact (Option.some.inj value).symm

/-! ## Numbers -/

/-- Digits denote a number: each counts for its place, and no digits denote zero. -/
inductive Denotes (base : Nat) : Text → Nat → Prop where
  | nil : Denotes base [] 0
  | cons {c : Char} {t : Text} {d n : Nat} : IsDigit base c d → Denotes base t n →
      Denotes base (c :: t) (d * base ^ t.length + n)

/-- The longest run of digits at the start of a text, and the number that it denotes. -/
structure Leads (base : Nat) (t run : Text) (n : Nat) : Prop where
  front : run <+: t
  value : Denotes base run n
  longest : ∀ run' n', run' <+: t → Denotes base run' n' → run'.length ≤ run.length

variable {base limit acc d n : Nat} {c : Char} {t run : Text}

theorem Denotes.nil_iff : Denotes base [] n ↔ n = 0 := by
  constructor
  · rintro ⟨⟩
    rfl
  · rintro rfl
    exact .nil

/-- A first digit counts by the place that the digits after it leave it. -/
theorem Denotes.cons_iff (hb : base ≤ 16) (digit : IsDigit base c d) :
    Denotes base (c :: t) n ↔ ∃ m, Denotes base t m ∧ n = d * base ^ t.length + m := by
  constructor
  · rintro (_ | ⟨digit', rest⟩)
    rw [digit'.unique hb digit]
    exact ⟨_, rest, rfl⟩
  · rintro ⟨m, rest, rfl⟩
    exact .cons digit rest

/-- The digits in front count for the places of all that follow them. -/
theorem Denotes.append (front : Denotes base run d) (back : Denotes base t n) :
    Denotes base (run ++ t) (d * base ^ t.length + n) := by
  induction front with
  | nil => simpa using back
  | @cons c run d m digit rest ih =>
    have places : d * base ^ (run ++ t).length + (m * base ^ t.length + n) =
        (d * base ^ run.length + m) * base ^ t.length + n := by
      rw [List.length_append]
      ring
    rw [← places]
    exact .cons digit ih

/-- What is left after the front of a number is a number again. -/
theorem Denotes.back (whole : Denotes base (run ++ t) n) : ∃ m, Denotes base t m := by
  induction run generalizing n with
  | nil => exact ⟨n, whole⟩
  | cons c run ih =>
    rcases whole with _ | ⟨-, rest⟩
    exact ih rest

/-- Digits denote one number at most. -/
theorem Denotes.unique (hb : base ≤ 16) {m : Nat} (h : Denotes base t n) (h' : Denotes base t m) :
    n = m := by
  induction h generalizing m with
  | nil => exact (Denotes.nil_iff.1 h').symm
  | cons digit rest ih =>
    obtain ⟨k, rest', rfl⟩ := (Denotes.cons_iff hb digit).1 h'
    rw [ih rest']

/-- Digits denote a number, however many there are. -/
theorem exists_denotes (digits : ∀ c ∈ t, ∃ d, IsDigit base c d) : ∃ n, Denotes base t n := by
  induction t with
  | nil => exact ⟨0, .nil⟩
  | cons c t ih =>
    obtain ⟨d, digit⟩ := digits c List.mem_cons_self
    obtain ⟨n, rest⟩ := ih fun c hc => digits c (List.mem_cons_of_mem _ hc)
    exact ⟨_, .cons digit rest⟩

theorem not_denotes_cons (other : ∀ d, ¬IsDigit base c d) : ¬Denotes base (c :: t) n := by
  rintro (_ | ⟨digit, -⟩)
  exact other _ digit

/-- The empty text is led by no digits. -/
theorem leads_nil_iff : Leads base [] run n ↔ run = [] ∧ n = 0 := by
  constructor
  · rintro ⟨front, value, -⟩
    obtain rfl := List.prefix_nil.1 front
    exact ⟨rfl, Denotes.nil_iff.1 value⟩
  · rintro ⟨rfl, rfl⟩
    refine ⟨List.nil_prefix, .nil, ?_⟩
    intro run' n' front _
    rw [List.prefix_nil.1 front]

/-- Without a digit in front there is nothing to denote a number. -/
theorem leads_of_not_digit (other : ∀ d, ¬IsDigit base c d) :
    Leads base (c :: t) run n ↔ run = [] ∧ n = 0 := by
  have only : ∀ run' n', run' <+: c :: t → Denotes base run' n' → run' = [] := by
    intro run' n' front value
    cases run' with
    | nil => rfl
    | cons c' run' =>
      obtain ⟨rfl, -⟩ := List.cons_prefix_cons.1 front
      exact absurd value (not_denotes_cons other)
  constructor
  · rintro ⟨front, value, -⟩
    obtain rfl := only run n front value
    exact ⟨rfl, Denotes.nil_iff.1 value⟩
  · rintro ⟨rfl, rfl⟩
    refine ⟨List.nil_prefix, .nil, ?_⟩
    intro run' n' front value
    rw [only run' n' front value]

/-- A digit in front makes the run one longer. -/
theorem leads_of_digit (hb : base ≤ 16) (digit : IsDigit base c d) :
    Leads base (c :: t) run n ↔
      ∃ run' m, run = c :: run' ∧ Leads base t run' m ∧ n = d * base ^ run'.length + m := by
  constructor
  · rintro ⟨front, value, longest⟩
    have one := longest [c] _ (List.cons_prefix_cons.2 ⟨rfl, List.nil_prefix⟩) (.cons digit .nil)
    cases run with
    | nil => simp at one
    | cons c' run =>
      obtain ⟨rfl, tail⟩ := List.cons_prefix_cons.1 front
      obtain ⟨m, rest, place⟩ := (Denotes.cons_iff hb digit).1 value
      refine ⟨run, m, rfl, ⟨tail, rest, ?_⟩, place⟩
      intro run' n' front' value'
      have longer := longest (c' :: run') _ (List.cons_prefix_cons.2 ⟨rfl, front'⟩)
        (.cons digit value')
      simpa using longer
  · rintro ⟨run', m, rfl, ⟨front, value, longest⟩, rfl⟩
    refine ⟨List.cons_prefix_cons.2 ⟨rfl, front⟩, .cons digit value, ?_⟩
    intro run'' n'' front'' value''
    cases run'' with
    | nil => exact Nat.zero_le _
    | cons c' run'' =>
      obtain ⟨rfl, tail⟩ := List.cons_prefix_cons.1 front''
      obtain ⟨m', rest, -⟩ := (Denotes.cons_iff hb digit).1 value''
      exact Nat.succ_le_succ (longest run'' m' tail rest)

/-- Every text is led by a longest run of digits, perhaps by none. -/
theorem exists_leads (hb : base ≤ 16) (t : Text) : ∃ run n, Leads base t run n := by
  induction t with
  | nil => exact ⟨[], 0, leads_nil_iff.2 ⟨rfl, rfl⟩⟩
  | cons c t ih =>
    by_cases digit : ∃ d, IsDigit base c d
    · obtain ⟨d, digit⟩ := digit
      obtain ⟨run, n, rest⟩ := ih
      exact ⟨c :: run, _, (leads_of_digit hb digit).2 ⟨run, n, rfl, rest, rfl⟩⟩
    · exact ⟨[], 0, (leads_of_not_digit (not_exists.1 digit)).2 ⟨rfl, rfl⟩⟩

/-- The longest run of digits ends where another character follows. -/
theorem leads_of_stop (hb : base ≤ 16) (stop : ∀ d, ¬IsDigit base c d) (front : Denotes base run n) :
    Leads base (run ++ c :: t) run n := by
  induction front with
  | nil => exact (leads_of_not_digit stop).2 ⟨rfl, rfl⟩
  | cons digit rest ih => exact (leads_of_digit hb digit).2 ⟨_, _, rfl, ih, rfl⟩

/-- Digits that follow never make a number smaller. -/
theorem le_place (hb : 0 < base) (acc length m : Nat) : acc ≤ acc * base ^ length + m :=
  Nat.le_add_right_of_le (Nat.le_mul_of_pos_right acc (Nat.pow_pos hb))

/-- No digits in front denote more than the longest run of them. -/
theorem Leads.le (hb : 0 < base) (hb' : base ≤ 16) (leads : Leads base t run n) {run' : Text}
    {m : Nat} (front : run' <+: t) (value : Denotes base run' m) : m ≤ n := by
  obtain ⟨back, rfl⟩ :=
    List.prefix_of_prefix_length_le front leads.front (leads.longest run' m front value)
  obtain ⟨k, rest⟩ := leads.value.back
  rw [leads.value.unique hb' (value.append rest)]
  exact le_place hb m back.length k

/-! ## Numerals -/

/-- The text without one plus sign in front of it. -/
def afterSign : Text → Text
  | '+' :: t => t
  | t => t

/-- The digits in front denote more than the limit, whatever follows them. -/
def Overflows (base limit : Nat) (t : Text) : Prop :=
  ∃ run n, Leads base (afterSign t) run n ∧ limit < n

/-- A text overflows as soon as some of its leading digits are beyond the limit. -/
theorem overflows_of_front (hb : 0 < base) (hb' : base ≤ 16) (front : run <+: afterSign t)
    (value : Denotes base run n) (beyond : limit < n) : Overflows base limit t := by
  obtain ⟨longest, m, leads⟩ := exists_leads hb' (afterSign t)
  exact ⟨longest, m, leads, Nat.lt_of_lt_of_le beyond (leads.le hb hb' front value)⟩

/-- Digits within the limit do not overflow if another character comes next. -/
theorem not_overflows_of_stop (hb : 0 < base) (hb' : base ≤ 16) {back : Text}
    (parts : afterSign t = run ++ c :: back) (value : Denotes base run n) (fits : n ≤ limit)
    (stop : ∀ d, ¬IsDigit base c d) : ¬Overflows base limit t := by
  rintro ⟨longest, m, leads, beyond⟩
  have whole : Leads base (afterSign t) run n := parts ▸ leads_of_stop hb' stop value
  have bound := whole.le hb hb' leads.front leads.value
  omega

/-- Reading stops at what is no digit. -/
theorem readDigits_of_not_digit (hb : base ≤ 16) (other : ∀ d, ¬IsDigit base c d) :
    readDigits base limit acc (c :: t) = .error .invalidDigit := by
  have none : digitValue? base c = none := by
    refine Option.eq_none_iff_forall_ne_some.2 fun d value => ?_
    exact other d ((digitValue?_eq_some_iff hb).1 value)
  rw [readDigits, none]

/-- A digit is added as long as the number stays within the limit. -/
theorem readDigits_of_digit (hb : base ≤ 16) (digit : IsDigit base c d) :
    readDigits base limit acc (c :: t) =
      if acc * base + d ≤ limit then readDigits base limit (acc * base + d) t
      else .error .tooLarge := by
  rw [readDigits, (digitValue?_eq_some_iff hb).2 digit]

theorem place_nil (base acc : Nat) : acc * base ^ ([] : Text).length + 0 = acc := by
  simp

/-- Taking one digit more into the number read so far leaves the whole number as it is. -/
theorem place_step (base acc d length m : Nat) :
    acc * base ^ (length + 1) + (d * base ^ length + m) =
      (acc * base + d) * base ^ length + m := by
  ring

/-- Reading gives the number that the digits denote, if it is within the limit. -/
theorem readDigits_eq_ok_iff (hb : 0 < base) (hb' : base ≤ 16) (ha : acc ≤ limit) :
    readDigits base limit acc t = .ok n ↔
      ∃ m, Denotes base t m ∧ n = acc * base ^ t.length + m ∧ n ≤ limit := by
  -- What is read so far stays within the limit, so a digit that goes beyond it goes beyond for good.
  induction t generalizing acc with
  | nil =>
    simp only [readDigits, Denotes.nil_iff, Except.ok.injEq]
    constructor
    · rintro rfl
      exact ⟨0, rfl, (place_nil base acc).symm, ha⟩
    · rintro ⟨m, rfl, value, -⟩
      rw [value, place_nil]
  | cons c t ih =>
    by_cases digit : ∃ d, IsDigit base c d
    · obtain ⟨d, digit⟩ := digit
      rw [readDigits_of_digit hb' digit, List.length_cons]
      by_cases fits : acc * base + d ≤ limit
      · rw [if_pos fits, ih fits]
        constructor
        · rintro ⟨m, rest, rfl, bound⟩
          exact ⟨_, .cons digit rest, (place_step ..).symm, bound⟩
        · rintro ⟨m, whole, rfl, bound⟩
          obtain ⟨m, rest, rfl⟩ := (Denotes.cons_iff hb' digit).1 whole
          exact ⟨m, rest, place_step .., bound⟩
      · rw [if_neg fits]
        refine iff_of_false (by simp) ?_
        rintro ⟨m, whole, rfl, bound⟩
        obtain ⟨m, rest, rfl⟩ := (Denotes.cons_iff hb' digit).1 whole
        rw [place_step] at bound
        exact fits (Nat.le_trans (le_place hb ..) bound)
    · rw [readDigits_of_not_digit hb' (not_exists.1 digit)]
      refine iff_of_false (by simp) ?_
      rintro ⟨m, whole, -⟩
      exact not_denotes_cons (not_exists.1 digit) whole

/-- Reading stops at the limit exactly if the digits in front of anything else denote too much. -/
theorem readDigits_eq_tooLarge_iff (hb : 0 < base) (hb' : base ≤ 16) (ha : acc ≤ limit) :
    readDigits base limit acc t = .error .tooLarge ↔
      ∃ run m, Leads base t run m ∧ limit < acc * base ^ run.length + m := by
  induction t generalizing acc with
  | nil =>
    refine iff_of_false (by simp [readDigits]) ?_
    rintro ⟨run, m, leads, beyond⟩
    obtain ⟨rfl, rfl⟩ := leads_nil_iff.1 leads
    rw [place_nil] at beyond
    exact absurd ha (Nat.not_le_of_lt beyond)
  | cons c t ih =>
    by_cases digit : ∃ d, IsDigit base c d
    · obtain ⟨d, digit⟩ := digit
      rw [readDigits_of_digit hb' digit]
      by_cases fits : acc * base + d ≤ limit
      · rw [if_pos fits, ih fits]
        constructor
        · rintro ⟨run, m, rest, beyond⟩
          refine ⟨c :: run, _, (leads_of_digit hb' digit).2 ⟨run, m, rfl, rest, rfl⟩, ?_⟩
          rw [List.length_cons, place_step]
          exact beyond
        · rintro ⟨run, m, whole, beyond⟩
          obtain ⟨run, m, rfl, rest, rfl⟩ := (leads_of_digit hb' digit).1 whole
          rw [List.length_cons, place_step] at beyond
          exact ⟨run, m, rest, beyond⟩
      · rw [if_neg fits]
        refine iff_of_true rfl ?_
        -- Reading ends here, but the run goes on as far as there are digits.
        obtain ⟨run, m, rest⟩ := exists_leads hb' t
        refine ⟨c :: run, _, (leads_of_digit hb' digit).2 ⟨run, m, rfl, rest, rfl⟩, ?_⟩
        rw [List.length_cons, place_step]
        exact Nat.lt_of_lt_of_le (Nat.lt_of_not_le fits) (le_place hb ..)
    · rw [readDigits_of_not_digit hb' (not_exists.1 digit)]
      refine iff_of_false (by simp) ?_
      rintro ⟨run, m, leads, beyond⟩
      obtain ⟨rfl, rfl⟩ := (leads_of_not_digit (not_exists.1 digit)).1 leads
      rw [place_nil] at beyond
      exact absurd ha (Nat.not_le_of_lt beyond)

/-- Once reading has begun it never finds that there was nothing to read. -/
theorem readDigits_ne_empty (base limit acc : Nat) (t : Text) :
    readDigits base limit acc t ≠ .error .empty := by
  fun_induction readDigits base limit acc t with
  | case1 => simp
  | case2 => simp
  | case3 acc c t d value fits ih => exact ih
  | case4 => simp

/-- Only a plus is taken for a sign. -/
theorem afterSign_cons (h : c ≠ '+') : afterSign (c :: t) = c :: t := by
  unfold afterSign
  split
  · simp_all
  · rfl

/-- The sign is no digit. -/
theorem not_isDigit_plus (hb : base ≤ 16) (d : Nat) : ¬IsDigit base '+' d := by
  intro digit
  obtain ⟨-, range⟩ := toNat_of_digitValue? ((digitValue?_eq_some_iff hb).2 digit)
  have code : '+'.toNat = 0x2B := rfl
  omega

/-- Reading skips one plus sign, but a plus sign alone is read as a digit, and is none. -/
theorem readNumeral_eq (hb : base ≤ 16) (h : t ≠ []) :
    readNumeral base limit t =
      if afterSign t = [] then .error .invalidDigit else readDigits base limit 0 (afterSign t) := by
  cases t with
  | nil => exact absurd rfl h
  | cons c t =>
    by_cases sign : c = '+'
    · subst sign
      cases t with
      | nil => exact readDigits_of_not_digit hb (not_isDigit_plus hb)
      | cons c t => rfl
    · rw [afterSign_cons sign, if_neg (List.cons_ne_nil c t)]
      unfold readNumeral
      split <;> simp_all

/-- A numeral is read as the number that it denotes, if this is within the limit. -/
theorem readNumeral_eq_ok_iff (hb : 0 < base) (hb' : base ≤ 16) :
    readNumeral base limit t = .ok n ↔
      afterSign t ≠ [] ∧ Denotes base (afterSign t) n ∧ n ≤ limit := by
  by_cases empty : t = []
  · subst empty
    simp [readNumeral, afterSign]
  rw [readNumeral_eq hb' empty]
  split
  next bare => simp [bare]
  next digits =>
    rw [readDigits_eq_ok_iff hb hb' (Nat.zero_le limit)]
    simp [digits]

/-- Only the empty text is refused as empty. -/
theorem readNumeral_eq_empty_iff (hb : base ≤ 16) :
    readNumeral base limit t = .error .empty ↔ t = [] := by
  by_cases empty : t = []
  · subst empty
    simp [readNumeral]
  rw [readNumeral_eq hb empty]
  split
  next => simp [empty]
  next => simp [empty, readDigits_ne_empty]

/-- A lone sign does not overflow. -/
theorem not_overflows_of_bare (bare : afterSign t = []) : ¬Overflows base limit t := by
  rintro ⟨run, m, leads, beyond⟩
  rw [bare] at leads
  obtain ⟨rfl, rfl⟩ := leads_nil_iff.1 leads
  exact Nat.not_lt_zero _ beyond

/-- A text is refused as too large exactly if it overflows. -/
theorem readNumeral_eq_tooLarge_iff (hb : 0 < base) (hb' : base ≤ 16) :
    readNumeral base limit t = .error .tooLarge ↔ Overflows base limit t := by
  by_cases empty : t = []
  · subst empty
    exact iff_of_false (by simp [readNumeral]) (not_overflows_of_bare rfl)
  rw [readNumeral_eq hb' empty]
  split
  next bare => exact iff_of_false (by simp) (not_overflows_of_bare bare)
  next =>
    rw [readDigits_eq_tooLarge_iff hb hb' (Nat.zero_le limit)]
    simp [Overflows]

/-- The fault that a text has as a numeral within a limit. -/
structure Explains (base limit : Nat) (t : Text) (reason : NumeralError) : Prop where
  empty : reason = .empty ↔ t = []
  tooLarge : reason = .tooLarge ↔ Overflows base limit t
  invalidDigit : reason = .invalidDigit ↔ t ≠ [] ∧ ¬Overflows base limit t
  /-- A character that is no digit counts as such, also where a digit would have been too much. -/
  stopped : ∀ run c back n, afterSign t = run ++ c :: back → Denotes base run n → n ≤ limit →
    (∀ d, ¬IsDigit base c d) → reason = .invalidDigit
  /-- Nothing that follows digits of too large a number hides that it is too large. -/
  overrun : ∀ run back n, afterSign t = run ++ back → Denotes base run n → limit < n →
    reason = .tooLarge

/-- Every refusal gives a reason that explains it. -/
theorem explains_of_readNumeral (hb : 0 < base) (hb' : base ≤ 16) {reason : NumeralError}
    (h : readNumeral base limit t = .error reason) : Explains base limit t reason := by
  have empty : reason = .empty ↔ t = [] := by
    have none : readNumeral base limit t = .error .empty ↔ t = [] := readNumeral_eq_empty_iff hb'
    rw [← none, h, Except.error.injEq]
  have tooLarge : reason = .tooLarge ↔ Overflows base limit t := by
    rw [← readNumeral_eq_tooLarge_iff hb hb', h, Except.error.injEq]
  have invalidDigit : reason = .invalidDigit ↔ t ≠ [] ∧ ¬Overflows base limit t := by
    rw [Ne, ← empty, ← tooLarge]
    cases reason <;> simp
  refine ⟨empty, tooLarge, invalidDigit, ?_, ?_⟩
  · intro run c back n parts value fits stop
    refine invalidDigit.2 ⟨?_, not_overflows_of_stop hb hb' parts value fits stop⟩
    rintro rfl
    exact List.append_ne_nil_of_right_ne_nil run (List.cons_ne_nil c back) parts.symm
  · intro run back n parts value beyond
    exact tooLarge.2 (overflows_of_front hb hb' ⟨back, parts.symm⟩ value beyond)

theorem afterSign_of_digits (digits : ∀ c ∈ t, c.isDigit = true) : afterSign t = t := by
  cases t with
  | nil => rfl
  | cons c t =>
    apply afterSign_cons
    rintro rfl
    have digit := digits '+' List.mem_cons_self
    exact absurd digit (by decide)

/-- Digits alone are a numeral, or denote too much. -/
theorem eq_tooLarge_of_digits (hne : t ≠ []) (digits : ∀ c ∈ t, c.isDigit = true)
    {reason : NumeralError} (h : readNumeral 10 limit t = .error reason) : reason = .tooLarge := by
  obtain ⟨n, value⟩ := exists_denotes fun c hc => exists_isDigit (digits c hc)
  have alone := afterSign_of_digits digits
  have ten : 10 ≤ 16 := by decide
  by_cases fits : n ≤ limit
  · have read : readNumeral 10 limit t = .ok n := by
      rw [readNumeral_eq_ok_iff (Nat.succ_pos 9) ten, alone]
      exact ⟨hne, value, fits⟩
    rw [h] at read
    cases read
  · have whole : t <+: afterSign t := by simp [alone]
    have beyond := overflows_of_front (Nat.succ_pos 9) ten whole value (Nat.lt_of_not_le fits)
    rw [← readNumeral_eq_tooLarge_iff (Nat.succ_pos 9) ten, h] at beyond
    exact Except.error.inj beyond

/-! ## Written numbers -/

/-- A digit is one in every base that its value is below. -/
theorem IsDigit.of_lt {base' : Nat} (h : IsDigit base c d) (hd : d < base') : IsDigit base' c d :=
  ⟨hd, h.2⟩

theorem isDigit_upperDigit (h : d < 16) : IsDigit 16 (upperDigit d) d := by
  have place : ∀ k < 16, ("0123456789ABCDEF" : Text)[k]? = some (upperDigit k) := by decide
  exact ⟨h, .inr (place d h)⟩

theorem isDigit_lowerDigit (h : d < 16) : IsDigit 16 (lowerDigit d) d := by
  have place : ∀ k < 16, ("0123456789abcdef" : Text)[k]? = some (lowerDigit k) := by decide
  exact ⟨h, .inl (place d h)⟩

theorem denotes_singleton (digit : IsDigit base c d) : Denotes base [c] d := by
  simpa using Denotes.cons digit .nil

/-- The digits of a number denote it, in whichever row they are written. -/
theorem denotes_digits {written : Nat → Char} (hb : 2 ≤ base)
    (row : ∀ d < base, IsDigit base (written d) d) (n : Nat) :
    Denotes base ((digits base n).map written) n := by
  have proper : ¬base < 2 := Nat.not_lt.2 hb
  fun_induction digits base n with
  | case1 n small => exact denotes_singleton (row n (small.resolve_right proper))
  | case2 n large ih =>
    have last := denotes_singleton (row (n % base) (Nat.mod_lt n (by omega)))
    have whole := ih.append last
    rw [List.length_singleton, Nat.pow_one, Nat.div_add_mod'] at whole
    rw [List.map_append]
    exact whole

/-- What is written in capital hexadecimal digits denotes the number that was written. -/
theorem denotes_hexUpper (n : Nat) : Denotes 16 (hexUpper n) n :=
  denotes_digits (by decide) (fun _ h => isDigit_upperDigit h) n

/-- What is written in small hexadecimal digits denotes the number that was written. -/
theorem denotes_hexLower (n : Nat) : Denotes 16 (hexLower n) n :=
  denotes_digits (by decide) (fun _ h => isDigit_lowerDigit h) n

/-- What is written in decimal digits denotes the number that was written. -/
theorem denotes_decimal (n : Nat) : Denotes 10 (decimal n) n :=
  denotes_digits (by decide)
    (fun _ h => (isDigit_upperDigit (Nat.lt_trans h (by decide))).of_lt h) n

/-- Different numbers are written differently in hexadecimal digits. -/
theorem hexUpper_injective {n n' : Nat} (h : hexUpper n = hexUpper n') : n = n' :=
  (denotes_hexUpper n).unique (Nat.le_refl 16) (h ▸ denotes_hexUpper n')

/-- Different numbers are written differently in decimal digits. -/
theorem decimal_injective {n n' : Nat} (h : decimal n = decimal n') : n = n' :=
  (denotes_decimal n).unique (by decide) (h ▸ denotes_decimal n')

theorem denotes_zeros (width : Nat) : Denotes 16 (List.replicate width '0') 0 := by
  induction width with
  | zero => exact .nil
  | succ width ih =>
    have zero : IsDigit 16 '0' 0 := isDigit_upperDigit (by decide)
    simpa [List.replicate_succ] using Denotes.cons zero ih

/-- Leading zeros make no difference to what a number in print denotes. -/
theorem denotes_hexPadded (width n : Nat) : Denotes 16 (hexPadded width n) n := by
  have whole := (denotes_zeros (width - (hexUpper n).length)).append (denotes_hexUpper n)
  rwa [Nat.zero_mul, Nat.zero_add] at whole

theorem Denotes.digits (h : Denotes base t n) : ∀ c ∈ t, ∃ d, IsDigit base c d := by
  induction h with
  | nil => nofun
  | cons digit rest ih => exact List.forall_mem_cons.2 ⟨⟨_, digit⟩, ih⟩

/-- A numeral is made of the digits and letters that lie between `0` and `f`. -/
theorem Denotes.range (hb : base ≤ 16) (h : Denotes base t n) :
    ∀ c ∈ t, 0x30 ≤ c.toNat ∧ c.toNat ≤ 0x66 := by
  intro c hc
  obtain ⟨d, digit⟩ := h.digits c hc
  obtain ⟨-, range⟩ := toNat_of_digitValue? ((digitValue?_eq_some_iff hb).2 digit)
  omega

/-- What denotes a number has no sign to take off. -/
theorem Denotes.afterSign_eq (hb : base ≤ 16) (h : Denotes base t n) : afterSign t = t := by
  cases h with
  | nil => rfl
  | cons digit rest =>
    apply afterSign_cons
    rintro rfl
    exact not_isDigit_plus hb _ digit

/-- Every number is written with one digit at least. -/
theorem digits_ne_nil (base n : Nat) : digits base n ≠ [] := by
  fun_induction digits base n <;> simp

theorem hexUpper_ne_nil (n : Nat) : hexUpper n ≠ [] := List.map_eq_nil_iff.not.2 (digits_ne_nil 16 n)

theorem hexLower_ne_nil (n : Nat) : hexLower n ≠ [] := List.map_eq_nil_iff.not.2 (digits_ne_nil 16 n)

theorem hexPadded_ne_nil (width n : Nat) : hexPadded width n ≠ [] :=
  List.append_ne_nil_of_right_ne_nil _ (hexUpper_ne_nil n)

/-- Digits are read as the number that they denote. -/
theorem readNumeral_of_denotes (hb : 0 < base) (hb' : base ≤ 16) (hne : t ≠ [])
    (value : Denotes base t n) (fits : n ≤ limit) : readNumeral base limit t = .ok n := by
  rw [readNumeral_eq_ok_iff hb hb', value.afterSign_eq hb']
  exact ⟨hne, value, fits⟩

/-- A number in print is read back, whether it has leading zeros or not. -/
theorem readNumeral_hexPadded {width n : Nat} (h : n ≤ limit) :
    readNumeral 16 limit (hexPadded width n) = .ok n :=
  readNumeral_of_denotes (by decide) (Nat.le_refl 16) (hexPadded_ne_nil width n)
    (denotes_hexPadded width n) h

end CpuIdentity.Text
