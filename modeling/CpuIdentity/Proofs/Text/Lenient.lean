import CpuIdentity.Proofs.Utf8

/-!
# What lenient reading shows

The rule of lenient reading speaks of the bytes of characters only: where those of a character stand,
the character is shown, and elsewhere one replacement character for the longest piece that begins the
bytes of some character, or for one byte if none does. Such a piece has one to three bytes and the
replacement character has three, so the text is at least as long in UTF-8 as what was read, and at
most three times as long.
-/

namespace CpuIdentity.Utf8

/-- Well-formed UTF-8: the bytes of some text. -/
def Valid (bs : List UInt8) : Prop := ∃ t, encode t = bs

/-- A piece begins the bytes of some character. -/
def Begins (piece : List UInt8) : Prop := ∃ c, piece <+: String.utf8EncodeChar c

/-- A piece is the fault that stands before `rest`. -/
structure IsFault (piece rest : List UInt8) : Prop where
  nonempty : piece ≠ []
  /-- No character stands there. -/
  ill : ∀ c, ¬String.utf8EncodeChar c <+: piece ++ rest
  begins : piece.length = 1 ∨ Begins piece
  /-- The piece with the next byte begins no character. -/
  longest : ∀ b, rest.head? = some b → ¬Begins (piece ++ [b])

/-- What bytes show to a lenient reader. -/
inductive Shows : List UInt8 → Text → Prop where
  | nil : Shows [] []
  | character (c : Char) {bs : List UInt8} {t : Text} :
      Shows bs t → Shows (String.utf8EncodeChar c ++ bs) (c :: t)
  | fault {piece bs : List UInt8} {t : Text} :
      IsFault piece bs → Shows bs t → Shows (piece ++ bs) ('\uFFFD' :: t)

variable {more acc low high : Nat} {b : UInt8} {bs rest piece : List UInt8} {c : Char} {t : Text}

theorem complete_cons_of_outside (bs : List UInt8) (h : ¬(low ≤ b.toNat ∧ b.toNat ≤ high)) :
    complete more acc low high (b :: bs) = (none, b :: bs) := by
  unfold complete
  exact if_neg h

theorem complete_cons_last (bs : List UInt8) (h : low ≤ b.toNat ∧ b.toNat ≤ high) :
    complete 0 acc low high (b :: bs) = (some (Char.ofNat (acc * 64 + (b.toNat - 0x80))), bs) := by
  unfold complete
  exact if_pos h

theorem complete_cons_more (bs : List UInt8) (h : low ≤ b.toNat ∧ b.toNat ≤ high) :
    complete (more + 1) acc low high (b :: bs) =
      complete more (acc * 64 + (b.toNat - 0x80)) 0x80 0xBF bs := by
  rw [complete, if_pos h]

theorem exists_inside (h : low ≤ high) (bound : high < 256) :
    ∃ b : UInt8, low ≤ b.toNat ∧ b.toNat ≤ high := by
  have small : low < 256 := Nat.lt_of_le_of_lt h bound
  refine ⟨UInt8.ofNat low, ?_⟩
  rw [UInt8.toNat_ofNat_of_lt' small]
  exact ⟨Nat.le_refl low, h⟩

/-- What is missing of a character can be supplied. -/
theorem exists_ending (h : low ≤ high) (bound : high < 256) :
    ∃ ending c, complete more acc low high ending = (some c, []) := by
  induction more generalizing acc low high with
  | zero =>
    obtain ⟨b, inside⟩ := exists_inside h bound
    exact ⟨[b], _, complete_cons_last [] inside⟩
  | succ more ih =>
    obtain ⟨b, inside⟩ := exists_inside h bound
    obtain ⟨ending, c, ends⟩ := ih (by decide : 0x80 ≤ 0xBF) (by decide)
    exact ⟨b :: ending, c, (complete_cons_more ending inside).trans ends⟩

/-- Where a character breaks off, what was taken of it could have been completed, and the byte at which
it breaks off stops it whatever follows. -/
theorem complete_eq_none (h : complete more acc low high bs = (none, rest)) (range : low ≤ high)
    (bound : high < 256) :
    ∃ taken, bs = taken ++ rest ∧
      (∃ ending c, complete more acc low high (taken ++ ending) = (some c, [])) ∧
      ∀ next, rest.head? = some next → ∀ tail,
        complete more acc low high (taken ++ next :: tail) = (none, next :: tail) := by
  induction bs generalizing more acc low high with
  | nil =>
    rw [complete] at h
    obtain rfl : [] = rest := congrArg Prod.snd h
    exact ⟨[], rfl, exists_ending range bound, fun next none => by cases none⟩
  | cons b bs ih =>
    by_cases inside : low ≤ b.toNat ∧ b.toNat ≤ high
    · cases more with
      | zero =>
        rw [complete_cons_last bs inside] at h
        cases h
      | succ more =>
        rw [complete_cons_more bs inside] at h
        obtain ⟨taken, rfl, ⟨ending, c, ends⟩, stops⟩ := ih h (by decide) (by decide)
        refine ⟨b :: taken, rfl, ⟨ending, c, ?_⟩, fun next first tail => ?_⟩
        · exact (complete_cons_more _ inside).trans ends
        · exact (complete_cons_more _ inside).trans (stops next first tail)
    · rw [complete_cons_of_outside bs inside] at h
      obtain rfl : b :: bs = rest := congrArg Prod.snd h
      refine ⟨[], rfl, exists_ending range bound, fun next first tail => ?_⟩
      obtain rfl : b = next := Option.some.inj first
      exact complete_cons_of_outside tail inside

theorem lead?_range {l : Lead} (h : lead? b = some l) : l.low ≤ l.high ∧ l.high < 256 := by
  obtain ⟨bits, low, high, more⟩ := l
  unfold lead? at h
  dsimp only at h ⊢
  repeat' split at h
  all_goals simp only [Option.some.injEq, Lead.mk.injEq, reduceCtorEq] at h
  all_goals omega

/-! ## Faults -/

theorem readOne_of_encodeChar {tail : List UInt8} (h : String.utf8EncodeChar c = b :: tail)
    (bs : List UInt8) : readOne b (tail ++ bs) = (some c, bs) := by
  obtain ⟨b', tail', bytes, read⟩ := readOne_encodeChar c bs
  obtain ⟨rfl, rfl⟩ := List.cons.inj (h.symm.trans bytes)
  exact read

/-- What is not read as a character does not start with one. -/
theorem not_encodeChar_prefix (h : readOne b bs = (none, rest)) (c : Char) :
    ¬String.utf8EncodeChar c <+: b :: bs := by
  rintro ⟨back, parts⟩
  obtain ⟨b', tail, bytes, read⟩ := readOne_encodeChar c back
  rw [bytes, List.cons_append] at parts
  obtain ⟨rfl, rfl⟩ := List.cons.inj parts
  rw [read] at h
  cases h

/-- Bytes that are not read as a character whatever follows them begin no character. -/
theorem not_begins {taken : List UInt8} {next : UInt8}
    (h : ∀ tail, ∃ rest, readOne b (taken ++ next :: tail) = (none, rest)) :
    ¬Begins (b :: taken ++ [next]) := by
  rintro ⟨c, tail, bytes⟩
  obtain ⟨rest, fault⟩ := h tail
  have whole : String.utf8EncodeChar c = b :: (taken ++ next :: tail) := by
    rw [← bytes, List.append_assoc]
    rfl
  have read := readOne_of_encodeChar whole []
  rw [List.append_nil, fault] at read
  cases read

theorem isFault_of_readOne (h : readOne b bs = (none, rest)) :
    ∃ piece, b :: bs = piece ++ rest ∧ IsFault piece rest := by
  have ill := not_encodeChar_prefix h
  unfold readOne at h
  split at h
  case isTrue => cases h
  case isFalse high =>
    split at h
    case h_1 lead =>
      obtain rfl : bs = rest := congrArg Prod.snd h
      refine ⟨[b], rfl, by simp, ill, .inl rfl, fun next _ => ?_⟩
      refine @not_begins b [] next fun tail => ⟨next :: tail, ?_⟩
      rw [List.nil_append, readOne, if_neg high, lead]
    case h_2 l lead =>
      obtain ⟨range, bound⟩ := lead?_range lead
      obtain ⟨taken, rfl, ⟨ending, c, ends⟩, stops⟩ := complete_eq_none h range bound
      refine ⟨b :: taken, rfl, by simp, ill, .inr ⟨c, ending, ?_⟩, fun next first => ?_⟩
      · have read : readOne b (taken ++ ending) = (some c, []) := by
          rw [readOne, if_neg high, lead]
          exact ends
        have bytes := eq_encodeChar_of_readOne read
        rw [List.append_nil] at bytes
        exact bytes
      · apply not_begins
        intro tail
        refine ⟨next :: tail, ?_⟩
        rw [readOne, if_neg high, lead]
        exact stops next first tail

/-- Lenient reading follows the rule. -/
theorem shows_decodeLossy (bs : List UInt8) : Shows bs (decodeLossy bs) := by
  unfold decodeLossy
  fun_induction decode bs with
  | case1 => exact .nil
  | case2 b bs ih =>
    rw [List.map_cons]
    cases read : readOne b bs with
    | mk first rest =>
      rw [read] at ih
      cases first with
      | some c =>
        rw [eq_encodeChar_of_readOne read]
        exact .character c ih
      | none =>
        obtain ⟨piece, bytes, fault⟩ := isFault_of_readOne read
        rw [bytes]
        exact .fault fault ih

theorem Begins.of_prefix {front : List UInt8} (h : Begins piece) (part : front <+: piece) :
    Begins front := by
  obtain ⟨c, whole⟩ := h
  exact ⟨c, part.trans whole⟩

/-- Of two faults in one place neither is longer, for the shorter one cannot be extended. -/
theorem IsFault.not_longer {piece' rest' : List UInt8} (h : IsFault piece rest)
    (h' : IsFault piece' rest') (same : piece ++ rest = piece' ++ rest') :
    ¬piece.length < piece'.length := by
  intro shorter
  have part : piece <+: piece' :=
    List.prefix_of_prefix_length_le (List.prefix_append piece rest)
      (same ▸ List.prefix_append piece' rest') (Nat.le_of_lt shorter)
  obtain ⟨more, rfl⟩ := part
  rw [List.append_assoc, List.append_cancel_left_eq] at same
  cases more with
  | nil => simp at shorter
  | cons b more =>
    have pos := List.length_pos_iff.2 h.nonempty
    rcases h'.begins with one | begins
    · rw [List.length_append, List.length_cons] at one
      omega
    · refine h.longest b (by rw [same]; rfl) (begins.of_prefix ⟨more, ?_⟩)
      rw [List.append_assoc]
      rfl

theorem IsFault.unique {piece' rest' : List UInt8} (h : IsFault piece rest)
    (h' : IsFault piece' rest') (same : piece ++ rest = piece' ++ rest') :
    piece = piece' ∧ rest = rest' := by
  have le := h.not_longer h' same
  have ge := h'.not_longer h same.symm
  exact List.append_inj same (by omega)

theorem decodeLossy_cons (b : UInt8) (bs : List UInt8) :
    decodeLossy (b :: bs) = (readOne b bs).1.getD '\uFFFD' :: decodeLossy (readOne b bs).2 := by
  rw [decodeLossy, decode]
  rfl

theorem decodeLossy_encodeChar_append (c : Char) (bs : List UInt8) :
    decodeLossy (String.utf8EncodeChar c ++ bs) = c :: decodeLossy bs := by
  obtain ⟨b, tail, bytes, read⟩ := readOne_encodeChar c bs
  rw [bytes, List.cons_append, decodeLossy_cons, read]
  rfl

theorem IsFault.decodeLossy_append (h : IsFault piece rest) :
    decodeLossy (piece ++ rest) = '\uFFFD' :: decodeLossy rest := by
  obtain ⟨b, tail, rfl⟩ := List.exists_cons_of_ne_nil h.nonempty
  rw [List.cons_append, decodeLossy_cons]
  cases read : readOne b (tail ++ rest) with
  | mk first rest' =>
    cases first with
    | some c =>
      have bytes := eq_encodeChar_of_readOne read
      exact absurd ⟨rest', bytes.symm⟩ (h.ill c)
    | none =>
      obtain ⟨piece', bytes, fault⟩ := isFault_of_readOne read
      obtain ⟨-, rfl⟩ := h.unique fault bytes
      rfl

/-- What bytes show to a lenient reader is what lenient reading gives. -/
theorem shows_iff : Shows bs t ↔ decodeLossy bs = t := by
  constructor
  · intro h
    induction h with
    | nil => rfl
    | character c rest ih => rw [decodeLossy_encodeChar_append, ih]
    | fault fault rest ih => rw [fault.decodeLossy_append, ih]
  · rintro rfl
    exact shows_decodeLossy bs

theorem IsFault.length_pos (h : IsFault piece rest) : 0 < piece.length :=
  List.length_pos_iff.2 h.nonempty

/-- A fault is shorter than the character that it begins. -/
theorem IsFault.length_le (h : IsFault piece rest) : piece.length ≤ 3 := by
  rcases h.begins with one | ⟨c, ending, bytes⟩
  · omega
  · have missing : ending ≠ [] := by
      rintro rfl
      rw [List.append_nil] at bytes
      exact h.ill c (bytes ▸ List.prefix_append piece rest)
    have size : (String.utf8EncodeChar c).length ≤ 4 := by
      rw [String.length_utf8EncodeChar]
      exact c.utf8Size_le_four
    have pos := List.length_pos_iff.2 missing
    rw [← bytes, List.length_append] at size
    omega

theorem encode_cons (c : Char) (t : Text) : encode (c :: t) = String.utf8EncodeChar c ++ encode t :=
  List.flatMap_cons

theorem Shows.length_bounds (h : Shows bs t) :
    bs.length ≤ (encode t).length ∧ (encode t).length ≤ 3 * bs.length := by
  induction h with
  | nil => decide
  | character c rest ih =>
    rw [encode_cons, List.length_append, List.length_append]
    omega
  | @fault piece bs t fault rest ih =>
    have replacement : (String.utf8EncodeChar '\uFFFD').length = 3 := by decide
    have pos := fault.length_pos
    have bound := fault.length_le
    rw [encode_cons, List.length_append, List.length_append, replacement]
    omega

theorem decodeLossy_encode (t : Text) : decodeLossy (encode t) = t := by
  induction t with
  | nil => rfl
  | cons c t ih => rw [encode_cons, decodeLossy_encodeChar_append, ih]

end CpuIdentity.Utf8
