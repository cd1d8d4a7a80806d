import CpuIdentity.Text.Basic

/-!
# The order of texts

Texts are ordered like the words of a dictionary, with their characters by code point. Lists of
texts are ordered in the same way, text by text.
-/

namespace CpuIdentity

variable {α β : Type}

/-- A comparison that puts one of any two different things before the other. -/
structure StrictOrder (before : α → α → Bool) : Prop where
  irrefl : ∀ a, before a a = false
  trans : ∀ a b c, before a b = true → before b c = true → before a c = true
  total : ∀ a b, before a b = false → before b a = false → a = b

/-- Whether a list comes before another in the order of a dictionary. -/
def lexBefore [DecidableEq α] (before : α → α → Bool) : List α → List α → Bool
  | _, [] => false
  | [], _ :: _ => true
  | a :: as, b :: bs => before a b || (decide (a = b) && lexBefore before as bs)

def Text.before : Text → Text → Bool := lexBefore fun a b => decide (a.toNat < b.toNat)

/-- A list by rising keys; what has equal keys keeps its order. -/
def sortBy (before : β → β → Bool) (key : α → β) (l : List α) : List α :=
  l.mergeSort fun a b => !before (key b) (key a)

namespace StrictOrder

variable {before : α → α → Bool}

theorem lex [DecidableEq α] (h : StrictOrder before) : StrictOrder (lexBefore before) where
  irrefl as := by
    induction as with
    | nil => rfl
    | cons a as ih => simp [lexBefore, h.irrefl, ih]
  trans as := by
    induction as with
    | nil =>
      intro bs cs hab hbc
      cases cs with
      | nil => cases bs <;> simp [lexBefore] at hbc
      | cons c cs => rfl
    | cons a as ih =>
      intro bs cs hab hbc
      cases bs with
      | nil => simp [lexBefore] at hab
      | cons b bs =>
        cases cs with
        | nil => simp [lexBefore] at hbc
        | cons c cs =>
          simp only [lexBefore, Bool.or_eq_true, Bool.and_eq_true, decide_eq_true_eq] at hab hbc ⊢
          rcases hab with hab | ⟨rfl, hab⟩
          · rcases hbc with hbc | ⟨rfl, -⟩
            · exact Or.inl (h.trans _ _ _ hab hbc)
            · exact Or.inl hab
          · rcases hbc with hbc | ⟨rfl, hbc⟩
            · exact Or.inl hbc
            · exact Or.inr ⟨rfl, ih _ _ hab hbc⟩
  total as := by
    induction as with
    | nil =>
      intro bs hab _
      cases bs with
      | nil => rfl
      | cons b bs => simp [lexBefore] at hab
    | cons a as ih =>
      intro bs hab hba
      cases bs with
      | nil => simp [lexBefore] at hba
      | cons b bs =>
        simp only [lexBefore, Bool.or_eq_false_iff] at hab hba
        obtain rfl := h.total a b hab.1 hba.1
        have heads : decide (a = a) = true := decide_eq_true rfl
        rw [heads, Bool.true_and] at hab hba
        rw [ih bs hab.2 hba.2]

theorem asymm (h : StrictOrder before) {a b : α} (hab : before a b = true) :
    before b a = false := by
  cases hba : before b a with
  | false => rfl
  | true => exact absurd (h.trans _ _ _ hab hba) (by simp [h.irrefl])

/-- Not coming later is transitive too. -/
theorem not_before_trans (h : StrictOrder before) {a b c : α} (hba : before b a = false)
    (hcb : before c b = false) : before c a = false := by
  cases hca : before c a with
  | false => rfl
  | true =>
    cases hab : before a b with
    | true => rw [h.trans _ _ _ hca hab] at hcb; cases hcb
    | false =>
      obtain rfl := h.total _ _ hab hba
      rw [hca] at hcb; cases hcb

end StrictOrder

theorem Text.strictOrder_before : StrictOrder Text.before := by
  refine StrictOrder.lex ⟨fun a => by simp, fun a b c => ?_, fun a b hab hba => ?_⟩
  · simp only [decide_eq_true_eq]
    exact Nat.lt_trans
  · simp only [decide_eq_false_iff_not, Nat.not_lt] at hab hba
    exact Char.toNat_inj.1 (Nat.le_antisymm hba hab)

/-- What stands first in both texts does not count. -/
theorem Text.before_append_left (lead a b : Text) :
    Text.before (lead ++ a) (lead ++ b) = Text.before a b := by
  unfold Text.before
  induction lead with
  | nil => rfl
  | cons c lead ih => simp [lexBefore, ih]

section sortBy

variable {before : β → β → Bool} {key : α → β} {l : List α}

theorem perm_sortBy : (sortBy before key l).Perm l := List.mergeSort_perm ..

/-- Where the keys rise, no two items have one key. -/
theorem StrictOrder.eq_of_key_eq (h : StrictOrder before)
    (hs : l.Pairwise fun a b => before (key a) (key b) = true) {a b : α} (ha : a ∈ l) (hb : b ∈ l)
    (same : key a = key b) : a = b := by
  induction l with
  | nil => cases ha
  | cons c l ih =>
    obtain ⟨hc, hl⟩ := List.pairwise_cons.1 hs
    have apart : ∀ d ∈ l, key c ≠ key d := by
      intro d hd heq
      have hcd := hc d hd
      rw [heq, h.irrefl] at hcd
      cases hcd
    rcases List.mem_cons.1 ha with rfl | hal
    · rcases List.mem_cons.1 hb with rfl | hbl
      · rfl
      · exact absurd same (apart b hbl)
    · rcases List.mem_cons.1 hb with rfl | hbl
      · exact absurd same.symm (apart a hal)
      · exact ih hl hal hbl

/-- Sorting gives the one arrangement in which the keys rise, if there is one. -/
theorem sortBy_eq_of_perm (h : StrictOrder before) {l' : List α} (hp : l'.Perm l)
    (hs : l'.Pairwise fun a b => before (key a) (key b) = true) : sortBy before key l = l' := by
  have sorted : l'.Pairwise fun a b => (!before (key b) (key a)) = true :=
    hs.imp fun hab => by simp [h.asymm hab]
  refine List.Perm.eq_of_pairwise ?_ (List.pairwise_mergeSort ?_ ?_ l) sorted
    (perm_sortBy.trans hp.symm)
  · intro a b ha hb hab hba
    have same : key a = key b := h.total _ _ (by simpa using hba) (by simpa using hab)
    exact h.eq_of_key_eq hs (hp.symm.subset (perm_sortBy.subset ha)) hb same
  · intro a b c hab hbc
    simp only [Bool.not_eq_true'] at hab hbc ⊢
    exact h.not_before_trans hab hbc
  · intro a b
    cases hab : before (key a) (key b) with
    | false => simp
    | true => simp [h.asymm hab]

end sortBy

end CpuIdentity
