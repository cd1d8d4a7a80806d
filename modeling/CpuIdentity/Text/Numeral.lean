import CpuIdentity.Text.Basic

/-!
# Numerals

Writing a number in a base, and reading one back. Reading goes from the left and stops at the
first fault, so of two faults the one further left is reported.
-/

namespace CpuIdentity.Text

/-- The digits of `n` in base `base`, most significant first. Zero has one digit. -/
@[semireducible]
def digits (base n : Nat) : List Nat :=
  if n < base ∨ base < 2 then [n] else digits base (n / base) ++ [n % base]
termination_by n
decreasing_by
  rename_i h
  rw [not_or] at h
  exact Nat.div_lt_self (by omega) (by omega)

/-- The number that digits denote in base `base`, continuing from `acc`. -/
def ofDigits (base : Nat) (acc : Nat) (ds : List Nat) : Nat :=
  ds.foldl (fun n d => n * base + d) acc

theorem ofDigits_digits (base n : Nat) : ofDigits base 0 (digits base n) = n := by
  fun_induction digits base n with
  | case1 => simp [ofDigits]
  | case2 n h ih =>
    simp only [ofDigits, List.foldl_append, List.foldl_cons, List.foldl_nil] at ih ⊢
    rw [ih, Nat.mul_comm]
    exact Nat.div_add_mod n base

theorem lt_of_mem_digits {base n d : Nat} (hb : 2 ≤ base) (h : d ∈ digits base n) : d < base := by
  fun_induction digits base n with
  | case1 n hn =>
    rw [List.mem_singleton] at h
    omega
  | case2 n hn ih =>
    rw [List.mem_append, List.mem_singleton] at h
    rcases h with h | rfl
    · exact ih h
    · exact Nat.mod_lt _ (by omega)

/-- The upper-case character of a digit below sixteen. -/
def upperDigit (d : Nat) : Char := Char.ofNat (if d < 10 then 0x30 + d else 0x37 + d)

/-- The lower-case character of a digit below sixteen. -/
def lowerDigit (d : Nat) : Char := Char.ofNat (if d < 10 then 0x30 + d else 0x57 + d)

def decimal (n : Nat) : Text := (digits 10 n).map upperDigit

/-- A number in upper-case hexadecimal, without leading zeros. -/
def hexUpper (n : Nat) : Text := (digits 16 n).map upperDigit

/-- A number in lower-case hexadecimal, without leading zeros. -/
def hexLower (n : Nat) : Text := (digits 16 n).map lowerDigit

/-- A number in upper-case hexadecimal with leading zeros up to `width` digits. -/
def hexPadded (width n : Nat) : Text :=
  List.replicate (width - (hexUpper n).length) '0' ++ hexUpper n

/-- The value of a character as a digit in a base up to sixteen; letters count in either case. -/
def digitValue? (base : Nat) (c : Char) : Option Nat :=
  let v :=
    if c.isDigit then c.toNat - 0x30
    else if 'a' ≤ c ∧ c ≤ 'f' then c.toNat - 0x57
    else if 'A' ≤ c ∧ c ≤ 'F' then c.toNat - 0x37
    else base
  if v < base then some v else none

/-- Why a text is no numeral in range. -/
inductive NumeralError where
  | empty
  | invalidDigit
  | tooLarge
  deriving DecidableEq, Repr

def NumeralError.message : NumeralError → Text
  | .empty => "cannot parse integer from empty string"
  | .invalidDigit => "invalid digit found in string"
  | .tooLarge => "number too large to fit in target type"

/-- Reads digits from the left onto `acc`; at each character the digit is checked before the
    limit. -/
def readDigits (base limit : Nat) : Nat → Text → Except NumeralError Nat
  | acc, [] => .ok acc
  | acc, c :: cs =>
    match digitValue? base c with
    | none => .error .invalidDigit
    | some d =>
      if acc * base + d ≤ limit then readDigits base limit (acc * base + d) cs
      else .error .tooLarge

/-- Reads a numeral of value at most `limit`. One plus sign may stand in front of the digits; a
    plus sign alone is an invalid digit. -/
def readNumeral (base limit : Nat) : Text → Except NumeralError Nat
  | [] => .error .empty
  | '+' :: c :: cs => readDigits base limit 0 (c :: cs)
  | t => readDigits base limit 0 t

end CpuIdentity.Text
