import CpuIdentity.Proofs.Exporter.State
import CpuIdentity.Proofs.Utf8
import Mathlib.Computability.RegularExpressions

/-!
# The grammars of scopes and metric names

Scopes and metric names are checked character by character. The checks accept what two regular
expressions match, `[a-zA-Z_][a-zA-Z0-9_]*` for scopes and `[a-zA-Z_:][a-zA-Z0-9_:]*` for metric
names, and the first grammar lies within the second.
-/

namespace CpuIdentity.Grammar

/-- The characters from one to another. -/
def span (first last : Char) : List Char :=
  (List.range (last.toNat + 1 - first.toNat)).map fun i => Char.ofNat (first.toNat + i)

/-- The ASCII letters. -/
def letters : List Char := span 'a' 'z' ++ span 'A' 'Z'

/-- The decimal digits. -/
def digits : List Char := span '0' '9'

/-- The expression that matches any one of some characters. -/
def oneOf : List Char → RegularExpression Char
  | [] => 0
  | c :: cs => .char c + oneOf cs

/-- The expression that matches one character of a class and then any number of another. -/
def word (first rest : List Char) : RegularExpression Char := oneOf first * (oneOf rest).star

/-- The expression `[a-zA-Z_][a-zA-Z0-9_]*`. -/
def scope : RegularExpression Char := word (letters ++ ['_']) (letters ++ digits ++ ['_'])

/-- The expression `[a-zA-Z_:][a-zA-Z0-9_:]*`. -/
def metricName : RegularExpression Char :=
  word (letters ++ ['_', ':']) (letters ++ digits ++ ['_', ':'])

theorem mem_span {first last c : Char} (h : last.toNat < 0xD800) :
    c ∈ span first last ↔ first.toNat ≤ c.toNat ∧ c.toNat ≤ last.toNat := by
  -- Below the surrogates every number is a code point.
  unfold span
  rw [List.mem_map]
  constructor
  · rintro ⟨i, hi, rfl⟩
    rw [List.mem_range] at hi
    have value : (Char.ofNat (first.toNat + i)).toNat = first.toNat + i :=
      Utf8.toNat_ofNat (Or.inl (by omega))
    rw [value]
    omega
  · rintro ⟨low, high⟩
    refine ⟨c.toNat - first.toNat, List.mem_range.2 (by omega), ?_⟩
    rw [Nat.add_sub_cancel' low]
    exact Char.ofNat_toNat c

theorem matches_oneOf {cs : List Char} {t : Text} :
    t ∈ (oneOf cs).matches' ↔ ∃ c ∈ cs, t = [c] := by
  induction cs with
  | nil => simp [oneOf, Language.notMem_zero]
  | cons c cs ih =>
    rw [oneOf, RegularExpression.matches'_add, Language.mem_add, ih, RegularExpression.matches'_char]
    constructor
    · rintro (h | ⟨d, hd, ht⟩)
      · exact ⟨c, List.mem_cons_self, h⟩
      · exact ⟨d, List.mem_cons_of_mem c hd, ht⟩
    · rintro ⟨d, hd, ht⟩
      rcases List.mem_cons.1 hd with rfl | hd
      · exact Or.inl ht
      · exact Or.inr ⟨d, hd, ht⟩

theorem matches_star_oneOf {cs : List Char} {t : Text} :
    t ∈ (oneOf cs).star.matches' ↔ ∀ c ∈ t, c ∈ cs := by
  rw [RegularExpression.matches'_star, Language.mem_kstar]
  constructor
  · rintro ⟨parts, rfl, hp⟩ c hc
    obtain ⟨part, hm, hc⟩ := List.mem_flatten.1 hc
    obtain ⟨d, hd, rfl⟩ := matches_oneOf.1 (hp part hm)
    rw [List.mem_singleton.1 hc]
    exact hd
  · intro h
    refine ⟨t.map fun c => [c], ?_, ?_⟩
    · induction t with
      | nil => rfl
      | cons c t ih =>
        rw [List.map_cons, List.flatten_cons, ← ih fun d hd => h d (List.mem_cons_of_mem c hd)]
        rfl
    · intro part hp
      obtain ⟨c, hc, rfl⟩ := List.mem_map.1 hp
      exact matches_oneOf.2 ⟨c, h c hc, rfl⟩

theorem not_mem_matches_nil {first rest : List Char} : ([] : Text) ∉ (word first rest).matches' := by
  intro h
  obtain ⟨front, hf, back, -, joined⟩ := Language.mem_mul.1 h
  obtain ⟨c, -, rfl⟩ := matches_oneOf.1 hf
  cases joined

theorem matches_word_cons {first rest : List Char} {c : Char} {t : Text} :
    c :: t ∈ (word first rest).matches' ↔ c ∈ first ∧ ∀ d ∈ t, d ∈ rest := by
  rw [word, RegularExpression.matches'_mul, Language.mem_mul]
  constructor
  · rintro ⟨front, hf, back, hb, joined⟩
    obtain ⟨d, hd, rfl⟩ := matches_oneOf.1 hf
    obtain ⟨rfl, rfl⟩ := List.cons.inj joined
    exact ⟨hd, matches_star_oneOf.1 hb⟩
  · rintro ⟨hc, ht⟩
    exact ⟨[c], matches_oneOf.2 ⟨c, hc, rfl⟩, t, matches_star_oneOf.2 ht, rfl⟩

theorem isAlpha_iff (c : Char) : c.isAlpha = true ↔ c ∈ letters := by
  have upper : c.isUpper = decide (c.val ≥ 'A'.val ∧ c.val ≤ 'Z'.val) := rfl
  have lower : c.isLower = (decide (c.val ≥ 'a'.val) && decide (c.val ≤ 'z'.val)) := rfl
  have alpha : c.isAlpha = (c.isUpper || c.isLower) := rfl
  rw [letters, List.mem_append, mem_span (by decide), mem_span (by decide), or_comm, alpha, upper,
    lower]
  simp [UInt32.le_iff_toNat_le]

theorem isDigit_iff (c : Char) : c.isDigit = true ↔ c ∈ digits := by
  rw [digits, mem_span (by decide)]
  simp [Char.isDigit, UInt32.le_iff_toNat_le]

/-- A scope is what the expression for scopes matches. -/
theorem isScope_iff (t : Text) : Config.isScope t = true ↔ t ∈ scope.matches' := by
  cases t with
  | nil => exact iff_of_false (by decide) not_mem_matches_nil
  | cons c cs =>
    rw [scope, matches_word_cons]
    simp [Config.isScope, Config.startsScope, Config.continuesScope, Char.isAlphanum, isAlpha_iff,
      isDigit_iff, or_assoc]

/-- A metric name is what the expression for metric names matches. -/
theorem isMetricName_iff (t : Text) :
    Exposition.isMetricName t = true ↔ t ∈ metricName.matches' := by
  cases t with
  | nil => exact iff_of_false (by decide) not_mem_matches_nil
  | cons c cs =>
    rw [metricName, matches_word_cons]
    simp only [Exposition.isMetricName, Exposition.startsName, Exposition.continuesName,
      Bool.and_eq_true, Bool.or_eq_true, List.all_eq_true, decide_eq_true_eq, isAlpha_iff,
      isDigit_iff, List.mem_append, List.mem_cons, List.not_mem_nil, or_false]
    grind

/-- What the expression for scopes matches is a metric name. -/
theorem isMetricName_of_isScope {t : Text} (h : Config.isScope t = true) :
    Exposition.isMetricName t = true := by
  rw [isScope_iff] at h
  rw [isMetricName_iff]
  cases t with
  | nil => exact absurd h not_mem_matches_nil
  | cons c cs =>
    rw [scope, matches_word_cons] at h
    rw [metricName, matches_word_cons]
    refine ⟨?_, fun d hd => ?_⟩
    · have := h.1
      simp only [List.mem_append, List.mem_cons, List.not_mem_nil] at this ⊢
      tauto
    · have := h.2 d hd
      simp only [List.mem_append, List.mem_cons, List.not_mem_nil] at this ⊢
      tauto

/-- The scopes that make proper names of the names under them. -/
theorem fitsNames_iff (t : Text) :
    Exporter.fitsNames t = true ↔ t = [] ∨ t ∈ metricName.matches' := by
  rw [Exporter.fitsNames, Bool.or_eq_true, decide_eq_true_eq, isMetricName_iff]

theorem fitsNames_of_isScope {t : Text} (h : Config.isScope t = true) :
    Exporter.fitsNames t = true := by
  rw [Exporter.fitsNames, isMetricName_of_isScope h, Bool.or_true]

end CpuIdentity.Grammar
