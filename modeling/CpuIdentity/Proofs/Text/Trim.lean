import CpuIdentity.Text.Basic

/-!
# Trimmed texts

Trimming finds the one part of a text that has no blank at its ends and nothing but blanks around it.
What it leaves has nothing to trim.
-/

namespace CpuIdentity.Text

/-- A text without a blank at either end. -/
structure Trimmed (t : Text) : Prop where
  front : ∀ c, t.head? = some c → isBlank c = false
  back : ∀ c, t.getLast? = some c → isBlank c = false

theorem trimStart_append {front rest : Text} (blank : ∀ c ∈ front, isBlank c = true)
    (stops : ∀ c, rest.head? = some c → isBlank c = false) : trimStart (front ++ rest) = rest := by
  rw [trimStart, List.dropWhile_append_of_pos blank]
  cases rest with
  | nil => rfl
  | cons c rest => exact trimStart_cons_of_not_isBlank rest (stops c rfl)

theorem trimEnd_append {rest back : Text} (blank : ∀ c ∈ back, isBlank c = true)
    (stops : ∀ c, rest.getLast? = some c → isBlank c = false) : trimEnd (rest ++ back) = rest := by
  -- Read backwards, the blanks at the end are blanks at the front.
  have backwards : trimStart (back.reverse ++ rest.reverse) = rest.reverse := by
    apply trimStart_append
    · intro c hc
      exact blank c (List.mem_reverse.1 hc)
    · intro c hc
      exact stops c (List.head?_reverse.symm.trans hc)
  rw [trimStart, ← List.reverse_append] at backwards
  rw [trimEnd, backwards, List.reverse_reverse]

theorem exists_append_trimStart (t : Text) :
    ∃ front, t = front ++ trimStart t ∧ ∀ c ∈ front, isBlank c = true := by
  refine ⟨t.takeWhile isBlank, List.takeWhile_append_dropWhile.symm, ?_⟩
  exact List.all_eq_true.1 List.all_takeWhile

theorem exists_trimEnd_append (t : Text) :
    ∃ back, t = trimEnd t ++ back ∧ ∀ c ∈ back, isBlank c = true := by
  obtain ⟨front, parts, blank⟩ := exists_append_trimStart t.reverse
  refine ⟨front.reverse, ?_, fun c hc => blank c (List.mem_reverse.1 hc)⟩
  rw [trimEnd, ← List.reverse_append]
  exact List.reverse_eq_iff.1 parts

theorem not_isBlank_head_trimStart {t : Text} {c : Char} (h : (trimStart t).head? = some c) :
    isBlank c = false := by
  have first := List.head?_dropWhile_not isBlank t
  rw [trimStart] at h
  rw [h] at first
  exact first

theorem trimmed_trim (t : Text) : Trimmed (trim t) := by
  constructor
  · intro c hc
    obtain ⟨back, parts, -⟩ := exists_trimEnd_append (trimStart t)
    have first : (trimStart t).head? = some c := by
      rw [parts, List.head?_append]
      simp only [trim] at hc
      rw [hc]
      rfl
    exact not_isBlank_head_trimStart first
  · intro c hc
    rw [trim, trimEnd, List.getLast?_reverse] at hc
    exact not_isBlank_head_trimStart hc

/-- Trimming leaves the part of a text that has no blanks at its ends and only blanks around it. -/
theorem trim_eq_iff {t part : Text} :
    trim t = part ↔ Trimmed part ∧ ∃ front back, t = front ++ part ++ back ∧
      (∀ c ∈ front, isBlank c = true) ∧ ∀ c ∈ back, isBlank c = true := by
  constructor
  · rintro rfl
    obtain ⟨front, first, hf⟩ := exists_append_trimStart t
    obtain ⟨back, last, hb⟩ := exists_trimEnd_append (trimStart t)
    refine ⟨trimmed_trim t, front, back, ?_, hf, hb⟩
    rw [List.append_assoc, trim, ← last]
    exact first
  · rintro ⟨ends, front, back, rfl, hf, hb⟩
    cases part with
    | nil =>
      have nothing : trimStart (front ++ back ++ []) = [] :=
        trimStart_append (List.forall_mem_append.2 ⟨hf, hb⟩) fun c hc => by cases hc
      rw [List.append_nil] at nothing
      rw [trim, List.append_nil, nothing]
      rfl
    | cons c part =>
      have start : trimStart (front ++ (c :: part ++ back)) = c :: part ++ back :=
        trimStart_append hf fun d hd => ends.front d hd
      rw [trim, List.append_assoc, start]
      exact trimEnd_append hb ends.back

theorem trim_eq_self {t : Text} (h : Trimmed t) : trim t = t := by
  have nothing : ∀ c ∈ ([] : Text), isBlank c = true := fun c hc => by cases hc
  exact trim_eq_iff.2 ⟨h, [], [], (List.append_nil t).symm, nothing, nothing⟩

/-- Trimming twice is trimming once. -/
@[simp] theorem trim_trim (t : Text) : trim (trim t) = trim t := trim_eq_self (trimmed_trim t)

end CpuIdentity.Text
