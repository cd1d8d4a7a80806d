import CpuIdentity.Text.Utf8

/-!
# Reading what UTF-8 writes

`readOne` takes a character off the front of a byte sequence exactly where the bytes of the character
stand. So strict reading and writing are inverse to each other, and lenient reading changes nothing
but faults.
-/

namespace CpuIdentity.Utf8

/-- The first bytes of longer sequences. What is left of the range of the second byte rules out
    overlong forms, surrogates and values past the last code point. -/
theorem lead?_eq_some {b : UInt8} {l : Lead} (h : lead? b = some l) :
    (l.more = 0 ∧ 0xC2 ≤ b.toNat ∧ b.toNat ≤ 0xDF ∧ l.bits = b.toNat - 0xC0 ∧
      l.low = 0x80 ∧ l.high = 0xBF) ∨
    (l.more = 1 ∧ 0xE0 ≤ b.toNat ∧ b.toNat ≤ 0xEF ∧ l.bits = b.toNat - 0xE0 ∧
      0x80 ≤ l.low ∧ l.high ≤ 0xBF ∧ (b.toNat = 0xE0 → l.low = 0xA0) ∧
      (b.toNat = 0xED → l.high = 0x9F)) ∨
    (l.more = 2 ∧ 0xF0 ≤ b.toNat ∧ b.toNat ≤ 0xF4 ∧ l.bits = b.toNat - 0xF0 ∧
      0x80 ≤ l.low ∧ l.high ≤ 0xBF ∧ (b.toNat = 0xF0 → l.low = 0x90) ∧
      (b.toNat = 0xF4 → l.high = 0x8F)) := by
  obtain ⟨bits, low, high, more⟩ := l
  unfold lead? at h
  dsimp only at h ⊢
  repeat' split at h
  all_goals simp only [Option.some.injEq, Lead.mk.injEq, reduceCtorEq] at h
  all_goals omega

theorem lead?_two {n : Nat} (hl : 0x80 ≤ n) (hu : n ≤ 0x7FF) :
    lead? (UInt8.ofNat (n / 64 % 32 + 0xC0)) = some ⟨n / 64, 0x80, 0xBF, 0⟩ := by
  have hb : (UInt8.ofNat (n / 64 % 32 + 0xC0)).toNat = n / 64 + 0xC0 := by simp; omega
  unfold lead?
  simp only [hb]
  rw [if_neg (by omega), if_pos (by omega)]
  simp

/-- The first byte of three, and where it lets the second byte lie. -/
theorem lead?_three {n : Nat} (hl : 0x800 ≤ n) (hu : n ≤ 0xFFFF) (hs : n < 0xD800 ∨ 0xDFFF < n) :
    ∃ low high, lead? (UInt8.ofNat (n / 4096 % 16 + 0xE0)) = some ⟨n / 4096, low, high, 1⟩ ∧
      low ≤ n / 64 % 64 + 0x80 ∧ n / 64 % 64 + 0x80 ≤ high := by
  have hb : (UInt8.ofNat (n / 4096 % 16 + 0xE0)).toNat = n / 4096 + 0xE0 := by simp; omega
  unfold lead?
  simp only [hb]
  rw [if_neg (by omega), if_neg (by omega)]
  by_cases h0 : n / 4096 = 0
  · exact ⟨0xA0, 0xBF, by simp [h0], by omega, by omega⟩
  by_cases hd : n / 4096 = 0xD
  · exact ⟨0x80, 0x9F, by simp [hd], by omega, by omega⟩
  · refine ⟨0x80, 0xBF, ?_, by omega, by omega⟩
    rw [if_neg (by omega), if_neg (by omega), if_pos (by omega)]
    simp

/-- The first byte of four, and where it lets the second byte lie. -/
theorem lead?_four {n : Nat} (hl : 0x10000 ≤ n) (hu : n ≤ 0x10FFFF) :
    ∃ low high, lead? (UInt8.ofNat (n / 262144 % 8 + 0xF0)) = some ⟨n / 262144, low, high, 2⟩ ∧
      low ≤ n / 4096 % 64 + 0x80 ∧ n / 4096 % 64 + 0x80 ≤ high := by
  have hb : (UInt8.ofNat (n / 262144 % 8 + 0xF0)).toNat = n / 262144 + 0xF0 := by simp; omega
  unfold lead?
  simp only [hb]
  rw [if_neg (by omega), if_neg (by omega), if_neg (by omega), if_neg (by omega), if_neg (by omega)]
  by_cases h0 : n / 262144 = 0
  · exact ⟨0x90, 0xBF, by simp [h0], by omega, by omega⟩
  by_cases h4 : n / 262144 = 4
  · exact ⟨0x80, 0x8F, by simp [h4], by omega, by omega⟩
  · refine ⟨0x80, 0xBF, ?_, by omega, by omega⟩
    rw [if_neg (by omega), if_pos (by omega)]
    simp

/-- A byte after the first one, which carries six bits. -/
theorem toNat_continuation (n : Nat) : (UInt8.ofNat (n % 64 + 0x80)).toNat = n % 64 + 0x80 := by
  simp; omega

theorem complete_zero {acc low high n : Nat} (bs : List UInt8) (hl : low ≤ n % 64 + 0x80)
    (hh : n % 64 + 0x80 ≤ high) :
    complete 0 acc low high (UInt8.ofNat (n % 64 + 0x80) :: bs) =
      (some (Char.ofNat (acc * 64 + n % 64)), bs) := by
  unfold complete
  rw [toNat_continuation, if_pos ⟨hl, hh⟩]
  simp

theorem complete_succ {more acc low high n : Nat} (bs : List UInt8) (hl : low ≤ n % 64 + 0x80)
    (hh : n % 64 + 0x80 ≤ high) :
    complete (more + 1) acc low high (UInt8.ofNat (n % 64 + 0x80) :: bs) =
      complete more (acc * 64 + n % 64) 0x80 0xBF bs := by
  rw [complete, toNat_continuation, if_pos ⟨hl, hh⟩]
  simp

/-- A scalar value is no surrogate and not past the last code point. -/
theorem toNat_valid (c : Char) :
    c.val.toNat < 0xD800 ∨ (0xDFFF < c.val.toNat ∧ c.val.toNat ≤ 0x10FFFF) := by
  have h := c.valid
  simp only [UInt32.isValidChar, Nat.isValidChar] at h
  omega

/-- The bytes of a character are read as that character. -/
theorem readOne_encodeChar (c : Char) (bs : List UInt8) :
    ∃ b tail, String.utf8EncodeChar c = b :: tail ∧ readOne b (tail ++ bs) = (some c, bs) := by
  have valid := toNat_valid c
  have value : Char.ofNat c.val.toNat = c := Char.ofNat_toNat c
  unfold String.utf8EncodeChar readOne
  generalize c.val.toNat = n at valid value
  dsimp only
  split
  case isTrue h1 =>
    refine ⟨_, _, rfl, ?_⟩
    have hb : (UInt8.ofNat n).toNat = n := by simp; omega
    rw [hb, if_pos (by omega), value]
    rfl
  case isFalse h1 =>
    split
    case isTrue h2 =>
      refine ⟨_, _, rfl, ?_⟩
      have hb : ¬ (UInt8.ofNat (n / 64 % 32 + 0xC0)).toNat < 0x80 := by simp; omega
      rw [if_neg hb, lead?_two (by omega) h2]
      simp only [List.cons_append, List.nil_append]
      rw [complete_zero _ (by omega) (by omega), Nat.div_add_mod' n 64, value]
    case isFalse h2 =>
      split
      case isTrue h3 =>
        refine ⟨_, _, rfl, ?_⟩
        have hb : ¬ (UInt8.ofNat (n / 4096 % 16 + 0xE0)).toNat < 0x80 := by simp; omega
        obtain ⟨low, high, lead, hl, hh⟩ := lead?_three (n := n) (by omega) h3 (by omega)
        rw [if_neg hb, lead]
        simp only [List.cons_append, List.nil_append]
        have bits : (n / 4096 * 64 + n / 64 % 64) * 64 + n % 64 = n := by omega
        rw [complete_succ _ hl hh, complete_zero _ (by omega) (by omega), bits, value]
      case isFalse h3 =>
        refine ⟨_, _, rfl, ?_⟩
        have hb : ¬ (UInt8.ofNat (n / 262144 % 8 + 0xF0)).toNat < 0x80 := by simp; omega
        obtain ⟨low, high, lead, hl, hh⟩ := lead?_four (n := n) (by omega) (by omega)
        rw [if_neg hb, lead]
        simp only [List.cons_append, List.nil_append]
        have bits : ((n / 262144 * 64 + n / 4096 % 64) * 64 + n / 64 % 64) * 64 + n % 64 = n := by
          omega
        rw [complete_succ _ hl hh, complete_succ _ (by omega) (by omega),
          complete_zero _ (by omega) (by omega), bits, value]

/-- The last byte of a character lies in its range. -/
theorem complete_zero_eq_some {acc low high : Nat} {bs rest : List UInt8} {c : Char}
    (h : complete 0 acc low high bs = (some c, rest)) :
    ∃ b, bs = b :: rest ∧ low ≤ b.toNat ∧ b.toNat ≤ high ∧
      c = Char.ofNat (acc * 64 + (b.toNat - 0x80)) := by
  cases bs with
  | nil => simp [complete] at h
  | cons b bs =>
    unfold complete at h
    split at h
    case isTrue hb =>
      obtain ⟨rfl, rfl⟩ : Char.ofNat (acc * 64 + (b.toNat - 0x80)) = c ∧ bs = rest := by
        simpa using h
      exact ⟨b, rfl, hb.1, hb.2, rfl⟩
    case isFalse => simp at h

/-- A byte before the last lies in its range, and ordinary ones follow. -/
theorem complete_succ_eq_some {more acc low high : Nat} {bs rest : List UInt8} {c : Char}
    (h : complete (more + 1) acc low high bs = (some c, rest)) :
    ∃ b tail, bs = b :: tail ∧ low ≤ b.toNat ∧ b.toNat ≤ high ∧
      complete more (acc * 64 + (b.toNat - 0x80)) 0x80 0xBF tail = (some c, rest) := by
  cases bs with
  | nil => simp [complete] at h
  | cons b bs =>
    unfold complete at h
    split at h
    case isTrue hb => exact ⟨b, bs, rfl, hb.1, hb.2, h⟩
    case isFalse => simp at h

/-- A scalar value is the value of its character. -/
theorem toNat_ofNat {n : Nat} (h : n < 0xD800 ∨ (0xDFFF < n ∧ n ≤ 0x10FFFF)) :
    (Char.ofNat n).val.toNat = n := by
  have valid : n.isValidChar := by
    rcases h with h | h
    · exact Or.inl h
    · exact Or.inr ⟨h.1, by omega⟩
  rw [Char.ofNat, dif_pos valid]
  rfl

theorem ofNat_eq {b : UInt8} {n : Nat} (h : n = b.toNat) : UInt8.ofNat n = b := by
  subst h
  exact UInt8.ofNat_toNat

/-- A character is read only where its bytes stand. -/
theorem eq_encodeChar_of_readOne {b : UInt8} {bs rest : List UInt8} {c : Char}
    (h : readOne b bs = (some c, rest)) : b :: bs = String.utf8EncodeChar c ++ rest := by
  unfold readOne at h
  split at h
  case isTrue hb =>
    obtain ⟨rfl, rfl⟩ : Char.ofNat b.toNat = c ∧ bs = rest := by simpa using h
    unfold String.utf8EncodeChar
    rw [toNat_ofNat (by omega)]
    dsimp only
    rw [if_pos (by omega), ofNat_eq rfl]
    rfl
  case isFalse hb =>
    split at h
    case h_1 => simp at h
    case h_2 l lead =>
      rcases lead?_eq_some lead with ⟨more, hb⟩ | ⟨more, hb⟩ | ⟨more, hb⟩
      · rw [more] at h
        obtain ⟨b1, rfl, hl, hh, hc⟩ := complete_zero_eq_some h
        unfold String.utf8EncodeChar
        rw [hc, toNat_ofNat (by omega)]
        dsimp only
        rw [if_neg (by omega), if_pos (by omega), ofNat_eq (b := b) (by omega),
          ofNat_eq (b := b1) (by omega)]
        rfl
      · rw [more] at h
        obtain ⟨b1, bs1, rfl, hl, hh, h⟩ := complete_succ_eq_some h
        obtain ⟨b2, rfl, hl2, hh2, hc⟩ := complete_zero_eq_some h
        unfold String.utf8EncodeChar
        rw [hc, toNat_ofNat (by omega)]
        dsimp only
        rw [if_neg (by omega), if_neg (by omega), if_pos (by omega), ofNat_eq (b := b) (by omega),
          ofNat_eq (b := b1) (by omega), ofNat_eq (b := b2) (by omega)]
        rfl
      · rw [more] at h
        obtain ⟨b1, bs1, rfl, hl, hh, h⟩ := complete_succ_eq_some h
        obtain ⟨b2, bs2, rfl, hl2, hh2, h⟩ := complete_succ_eq_some h
        obtain ⟨b3, rfl, hl3, hh3, hc⟩ := complete_zero_eq_some h
        unfold String.utf8EncodeChar
        rw [hc, toNat_ofNat (by omega)]
        dsimp only
        rw [if_neg (by omega), if_neg (by omega), if_neg (by omega), ofNat_eq (b := b) (by omega),
          ofNat_eq (b := b1) (by omega), ofNat_eq (b := b2) (by omega),
          ofNat_eq (b := b3) (by omega)]
        rfl

/-- Reading goes on behind the bytes of a text. -/
theorem decode_encode_append (t : Text) (bs : List UInt8) :
    decode (encode t ++ bs) = t.map some ++ decode bs := by
  induction t with
  | nil => rfl
  | cons c t ih =>
    obtain ⟨b, tail, bytes, first⟩ := readOne_encodeChar c (encode t ++ bs)
    have split : encode (c :: t) ++ bs = b :: (tail ++ (encode t ++ bs)) := by
      simp [encode, bytes]
    rw [split, decode, first]
    simp [ih]

/-- Where reading meets no fault, the bytes are those of the text that is read. -/
theorem encode_of_decode {bs : List UInt8} {t : Text} (h : decode bs = t.map some) :
    encode t = bs := by
  fun_induction decode bs generalizing t with
  | case1 =>
    obtain rfl := List.map_eq_nil_iff.1 h.symm
    rfl
  | case2 b bs ih =>
    cases t with
    | nil => simp at h
    | cons c t =>
      obtain ⟨first, rest⟩ := List.cons.inj h
      have one : readOne b bs = (some c, (readOne b bs).2) := Prod.ext first rfl
      have bytes := eq_encodeChar_of_readOne one
      have tail := ih rest
      rw [bytes]
      exact congrArg (String.utf8EncodeChar c ++ ·) tail

theorem mapM_id_eq_some {α : Type} {l : List (Option α)} {as : List α} :
    l.mapM id = some as ↔ l = as.map some := by
  induction l generalizing as with
  | nil => cases as <;> simp
  | cons a l ih =>
    cases a with
    | none => cases as <;> simp
    | some a =>
      have unfolded : (some a :: l).mapM id = (l.mapM id).map (a :: ·) := by
        simp only [List.mapM_cons, Option.map_eq_bind]
        rfl
      rw [unfolded, Option.map_eq_some_iff]
      constructor
      · rintro ⟨as', h, rfl⟩
        rw [ih.1 h, List.map_cons]
      · intro h
        cases as with
        | nil => cases h
        | cons a' as =>
          obtain ⟨rfl, rest⟩ : a = a' ∧ l = as.map some := by simpa using h
          exact ⟨as, ih.2 rest, rfl⟩

/-- Strict reading accepts exactly the bytes of texts. -/
theorem decode?_eq_some_iff {bs : List UInt8} {t : Text} : decode? bs = some t ↔ encode t = bs := by
  unfold decode?
  rw [mapM_id_eq_some]
  constructor
  · exact encode_of_decode
  · rintro rfl
    have := decode_encode_append t []
    simpa [decode] using this

@[simp] theorem read_encode (t : Text) : read (encode t) = .ok t := by
  unfold read
  rw [decode?_eq_some_iff.2 rfl]

theorem encode_injective {t t' : Text} (h : encode t = encode t') : t = t' := by
  have := decode?_eq_some_iff.2 h
  rw [decode?_eq_some_iff.2 rfl] at this
  exact (Option.some.inj this).symm

/-- Lenient reading changes nothing where it shows no replacement character. -/
theorem encode_decodeLossy {bs : List UInt8} (h : '\uFFFD' ∉ decodeLossy bs) :
    encode (decodeLossy bs) = bs := by
  apply encode_of_decode
  unfold decodeLossy at h ⊢
  have kept : ∀ c ∈ decode bs, some (c.getD '\uFFFD') = c := by
    intro c hc
    cases c with
    | none => exact absurd (List.mem_map.2 ⟨none, hc, rfl⟩) h
    | some c => rfl
  rw [List.map_map]
  exact ((List.map_congr_left kept).trans (List.map_id _)).symm

end CpuIdentity.Utf8
