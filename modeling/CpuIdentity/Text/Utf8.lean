import CpuIdentity.Text.Numeral

/-!
# UTF-8

Bytes are read as a sequence of characters and faults. A fault covers the bytes that begin a
well-formed sequence without completing it, or one byte that cannot begin any, so the reading
resumes at the first byte that may begin a character. The lenient reading puts the replacement
character for each fault; the strict one refuses a text with a fault.
-/

namespace CpuIdentity.Utf8

/-- What the first byte of a sequence of several bytes promises: the value of its own bits, the
    range in which the second byte must lie, and how many bytes follow that one. -/
structure Lead where
  bits : Nat
  low : Nat
  high : Nat
  more : Nat

/-- The first bytes of well-formed sequences of two to four bytes. The range of the second byte
    keeps out overlong forms, surrogates and values past the last code point. -/
def lead? (b : UInt8) : Option Lead :=
  let n := b.toNat
  if n < 0xC2 then none
  else if n ≤ 0xDF then some ⟨n - 0xC0, 0x80, 0xBF, 0⟩
  else if n = 0xE0 then some ⟨0, 0xA0, 0xBF, 1⟩
  else if n = 0xED then some ⟨0xD, 0x80, 0x9F, 1⟩
  else if n ≤ 0xEF then some ⟨n - 0xE0, 0x80, 0xBF, 1⟩
  else if n = 0xF0 then some ⟨0, 0x90, 0xBF, 2⟩
  else if n ≤ 0xF3 then some ⟨n - 0xF0, 0x80, 0xBF, 2⟩
  else if n = 0xF4 then some ⟨4, 0x80, 0x8F, 2⟩
  else none

/-- Reads the bytes that complete a character whose bits so far are `acc`: the next one in the range
    from `low` to `high`, then `more` ordinary ones. The result is `none` at the first byte that does
    not fit, which is left unread. -/
def complete : (more acc low high : Nat) → List UInt8 → Option Char × List UInt8
  | _, _, _, _, [] => (none, [])
  | more, acc, low, high, b :: bs =>
    if low ≤ b.toNat ∧ b.toNat ≤ high then
      match more with
      | 0 => (some (Char.ofNat (acc * 64 + (b.toNat - 0x80))), bs)
      | more + 1 => complete more (acc * 64 + (b.toNat - 0x80)) 0x80 0xBF bs
    else (none, b :: bs)

/-- Reads the character or fault that starts with the byte `b`. -/
def readOne (b : UInt8) (bs : List UInt8) : Option Char × List UInt8 :=
  if b.toNat < 0x80 then (some (Char.ofNat b.toNat), bs)
  else
    match lead? b with
    | none => (none, bs)
    | some l => complete l.more l.bits l.low l.high bs

theorem length_complete_le (more acc low high : Nat) (bs : List UInt8) :
    (complete more acc low high bs).2.length ≤ bs.length := by
  induction bs generalizing more acc low high with
  | nil => simp [complete]
  | cons b bs ih =>
    unfold complete
    split
    · cases more with
      | zero => simp
      | succ more => exact Nat.le_succ_of_le (ih more _ _ _)
    · simp

theorem length_readOne_le (b : UInt8) (bs : List UInt8) : (readOne b bs).2.length ≤ bs.length := by
  unfold readOne
  split
  · simp
  · split
    · simp
    · exact length_complete_le ..

/-- The characters of a byte sequence, `none` for each fault. -/
@[semireducible]
def decode : List UInt8 → List (Option Char)
  | [] => []
  | b :: bs => (readOne b bs).1 :: decode (readOne b bs).2
termination_by bs => bs.length
decreasing_by exact Nat.lt_succ_of_le (length_readOne_le b bs)

/-- The lenient reading: each fault becomes the replacement character U+FFFD. -/
def decodeLossy (bs : List UInt8) : Text := (decode bs).map fun c => c.getD '\uFFFD'

/-- The strict reading: `none` if there is a fault. -/
def decode? (bs : List UInt8) : Option Text := (decode bs).mapM id

/-- Where the strict reading stops: the number of bytes before the fault, and the number of bytes that
    the fault covers, `none` if the bytes end inside a character. -/
structure Fault where
  index : Nat
  length : Option Nat
  deriving DecidableEq, Repr

def Fault.message (f : Fault) : Text :=
  match f.length with
  | some n =>
    "invalid utf-8 sequence of " ++ Text.decimal n ++ " bytes from index " ++ Text.decimal f.index
  | none => "incomplete utf-8 byte sequence from index " ++ Text.decimal f.index

/-- The first fault of a byte sequence whose first byte is at `index`; the end of the bytes counts as
    one. -/
def firstFault (index : Nat) : List UInt8 → Fault
  | [] => ⟨index, none⟩
  | b :: bs =>
    let consumed := bs.length + 1 - (readOne b bs).2.length
    match (readOne b bs).1 with
    | some _ => firstFault (index + consumed) (readOne b bs).2
    | none =>
      ⟨index, if (lead? b).isSome && (readOne b bs).2.isEmpty then none else some consumed⟩
termination_by bs => bs.length
decreasing_by exact Nat.lt_succ_of_le (length_readOne_le b bs)

/-- The text of a byte sequence, or its first fault. -/
def read (bs : List UInt8) : Except Fault Text :=
  match decode? bs with
  | some t => .ok t
  | none => .error (firstFault 0 bs)

def encode (t : Text) : List UInt8 := t.flatMap String.utf8EncodeChar

example : decode? [0xC3, 0xA9] = some ['é'] := by decide +kernel
example : decodeLossy [0xE2, 0x82, 0x41, 0xFF] = ['\uFFFD', 'A', '\uFFFD'] := by decide +kernel
example : decode [0xED, 0xA0, 0x80] = [none, none, none] := by decide +kernel

end CpuIdentity.Utf8
