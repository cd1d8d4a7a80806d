import CpuIdentity.Catalogue.Classify
import Mathlib.Data.List.Nodup
import Mathlib.Logic.Function.Iterate

/-!
# Looking up a byte

A table filled from a list answers a byte as a search of the list from its front would: with the first
item that has the byte for its key. For the catalogue this is the only model with the number. A list
fills a table exactly if its keys are distinct, and then the order of the list makes no difference.
-/

namespace CpuIdentity

namespace Table

variable {α : Type} {key : α → UInt8} {t t' filled : Table α} {a : α} {as done : List α} {b : UInt8}

/-- Filling leaves taken slots as they are and puts into a free one the first item that has its key. -/
theorem get?_fill? (h : fill? key t as = some filled) (b : UInt8) :
    filled.get? b = (t.get? b).or (as.find? fun a => key a = b) := by
  induction as generalizing t with
  | nil =>
    obtain rfl : t = filled := Option.some.inj h
    exact (Option.or_none).symm
  | cons a as ih =>
    rw [fill?] at h
    split at h
    case isTrue => cases h
    case isFalse free =>
      have empty : t.get? (key a) = none := by simpa using free
      rw [ih h, get?_put]
      by_cases same : key a = b
      · subst same
        rw [if_pos rfl, empty, Option.none_or, List.find?_cons_of_pos (by simp), Option.some_or]
      · rw [if_neg same, List.find?_cons_of_neg (by simpa using same)]

/-- A filled table answers as a search through the list does. -/
theorem get?_ofList? (h : ofList? key as = some t) (b : UInt8) :
    t.get? b = as.find? fun a => key a = b := by
  rw [get?_fill? h, get?_empty, Option.none_or]

/-- A table holds a list: no two items have one key, and each slot has the item with its key, if there
    is one, and nothing else. -/
structure Holds (key : α → UInt8) (t : Table α) (as : List α) : Prop where
  distinct : (as.map key).Nodup
  slots : ∀ b a, t.get? b = some a ↔ a ∈ as ∧ key a = b

/-- Tables that answer alike are the same. -/
theorem eq_of_get? (h : ∀ b, t.get? b = t'.get? b) : t = t' := by
  obtain ⟨slots⟩ := t
  obtain ⟨slots'⟩ := t'
  congr 1
  apply Vector.ext
  intro i hi
  have same := h (UInt8.ofNat i)
  simp only [get?, UInt8.toNat_ofNat_of_lt' hi] at same
  exact same

theorem holds_empty (key : α → UInt8) : Holds key empty [] where
  distinct := List.nodup_nil
  slots b a := by simp

theorem Holds.get?_eq_none_iff (h : Holds key t as) : t.get? b = none ↔ ∀ a ∈ as, key a ≠ b := by
  rw [Option.eq_none_iff_forall_ne_some]
  constructor
  · intro free a ha same
    exact free a ((h.slots b a).2 ⟨ha, same⟩)
  · intro other a taken
    obtain ⟨ha, same⟩ := (h.slots b a).1 taken
    exact other a ha same

/-- What a table holds does not depend on the order of the list. -/
theorem Holds.perm {as' : List α} (h : Holds key t as) (p : as'.Perm as) : Holds key t as' where
  distinct := (p.map key).nodup_iff.2 h.distinct
  slots b a := by rw [h.slots, p.mem_iff]

/-- A list has one table at most. -/
theorem Holds.unique (h : Holds key t as) (h' : Holds key t' as) : t = t' := by
  refine eq_of_get? fun b => Option.ext fun a => ?_
  rw [h.slots, h'.slots]

/-- Putting an item into its free slot, the table holds the item too. -/
theorem Holds.put (h : Holds key t done) (free : t.get? (key a) = none) :
    Holds key (t.put (key a) a) (done ++ [a]) := by
  have new : ∀ d ∈ done, key d ≠ key a := h.get?_eq_none_iff.1 free
  constructor
  · rw [List.map_append, List.nodup_append]
    refine ⟨h.distinct, List.nodup_singleton _, ?_⟩
    intro k hk k' hk'
    obtain ⟨d, hd, rfl⟩ := List.mem_map.1 hk
    rw [List.map_singleton, List.mem_singleton] at hk'
    rw [hk']
    exact new d hd
  · intro b c
    rw [get?_put, List.mem_append, List.mem_singleton]
    by_cases same : key a = b
    · subst same
      rw [if_pos rfl, Option.some.injEq]
      constructor
      · rintro rfl
        exact ⟨.inr rfl, rfl⟩
      · rintro ⟨hc | rfl, hk⟩
        · exact absurd hk (new c hc)
        · rfl
    · rw [if_neg same, h.slots]
      refine and_congr_left fun hk => (or_iff_left ?_).symm
      rintro rfl
      exact same hk

/-- Filling goes on to the end of the list and holds all of it, or ends at an item whose key an earlier
    one has. -/
theorem fill?_cases (h : Holds key t done) (as : List α) :
    (∃ filled, fill? key t as = some filled ∧ Holds key filled (done ++ as)) ∨
      fill? key t as = none ∧ ¬((done ++ as).map key).Nodup := by
  -- What is put so far is the part of the list that is behind; each free slot moves one item over.
  induction as generalizing t done with
  | nil => exact .inl ⟨t, rfl, (List.append_nil done).symm ▸ h⟩
  | cons a as ih =>
    rw [fill?]
    cases slot : t.get? (key a) with
    | none =>
      have step := ih (h.put slot)
      rw [List.append_assoc, List.singleton_append] at step
      exact step
    | some d =>
      obtain ⟨hd, same⟩ := (h.slots _ d).1 slot
      refine .inr ⟨rfl, ?_⟩
      rw [List.map_append, List.map_cons]
      intro distinct
      have apart := (List.nodup_append.1 distinct).2.2 _ (List.mem_map_of_mem hd) _ List.mem_cons_self
      exact apart same

/-- A table is filled from a list exactly if it holds it. -/
theorem ofList?_eq_some_iff : ofList? key as = some t ↔ Holds key t as := by
  constructor
  · intro h
    rcases fill?_cases (holds_empty key) as with ⟨filled, full, holds⟩ | ⟨clash, -⟩
    · rw [ofList?, full] at h
      obtain rfl := Option.some.inj h
      exact holds
    · rw [ofList?, clash] at h
      cases h
  · intro h
    rcases fill?_cases (holds_empty key) as with ⟨filled, full, holds⟩ | ⟨-, twice⟩
    · rw [ofList?, full, holds.unique h]
    · exact absurd h.distinct twice

/-- Filling a table fails exactly if two items share a key. -/
theorem ofList?_eq_none_iff : ofList? key as = none ↔ ¬(as.map key).Nodup := by
  rcases fill?_cases (holds_empty key) as with ⟨filled, full, holds⟩ | ⟨clash, twice⟩
  · rw [ofList?, full]
    exact iff_of_false nofun (not_not_intro holds.distinct)
  · rw [ofList?, clash]
    exact iff_of_true rfl twice

/-- The keys of a list are not distinct exactly if two of its places have the same. -/
theorem not_nodup_map_iff :
    ¬(as.map key).Nodup ↔ ∃ i j : Fin as.length, i < j ∧ key as[i] = key as[j] := by
  rw [List.Nodup, List.pairwise_map, List.pairwise_iff_getElem]
  constructor
  · intro twice
    by_contra apart
    refine twice fun i j hi hj hij same => apart ?_
    exact ⟨⟨i, hi⟩, ⟨j, hj⟩, hij, same⟩
  · rintro ⟨i, j, hij, same⟩ apart
    exact apart i j i.isLt j.isLt hij same

/-! ## Filling item by item -/

/-- Where the filling of a table stands: before the item at a place of the list, with what is filled so
    far, or at its end, with the table or without one. -/
inductive Filling (α : Type) where
  | before (place : Nat) (t : Table α)
  | over (result : Option (Table α))

/-- One round of filling: the slot of the item at the place is looked at and then taken. -/
def Filling.next (key : α → UInt8) (as : List α) : Filling α → Filling α
  | .before i t =>
    match as[i]? with
    | none => .over (some t)
    | some a => if (t.get? (key a)).isSome then .over none else .before (i + 1) (t.put (key a) a)
  | .over result => .over result

theorem iterate_next_over (key : α → UInt8) (as : List α) (result : Option (Table α)) (n : Nat) :
    (Filling.next key as)^[n] (.over result) = .over result :=
  Function.iterate_fixed rfl n

/-- Filling is over after one round for each item that is left, and one more. -/
theorem iterate_next (key : α → UInt8) (t : Table α) (behind rest : List α) :
    (Filling.next key (behind ++ rest))^[rest.length + 1] (.before behind.length t) =
      .over (fill? key t rest) := by
  induction rest generalizing t behind with
  | nil => simp [Filling.next, fill?]
  | cons a rest ih =>
    have here : (behind ++ a :: rest)[behind.length]? = some a := by simp
    rw [List.length_cons, Function.iterate_succ_apply, fill?, Filling.next, here]
    dsimp only
    by_cases taken : (t.get? (key a)).isSome = true
    · rw [if_pos taken, if_pos taken]
      exact iterate_next_over ..
    · rw [if_neg taken, if_neg taken]
      have tail := ih (t.put (key a) a) (behind ++ [a])
      rwa [List.append_assoc, List.singleton_append, List.length_append, List.length_singleton] at tail

/-- Whatever list a table is to be filled from, filling is over after one round for each item and one
    more. It ends without a table exactly if two places of the list have one key. Otherwise each slot
    has the item with its key, or is empty if there is none; every other order of the list fills the
    same table; and looking up a byte in it is searching the list. -/
theorem filling_ends (key : α → UInt8) (as : List α) :
    (Filling.next key as)^[as.length + 1] (.before 0 empty) = .over (ofList? key as) ∧
    (ofList? key as = none ↔ ∃ i j : Fin as.length, i < j ∧ key as[i] = key as[j]) ∧
    ∀ t, ofList? key as = some t →
      (∀ b a, t.get? b = some a ↔ a ∈ as ∧ key a = b) ∧
      (∀ b, t.get? b = none ↔ ∀ a ∈ as, key a ≠ b) ∧
      (∀ as', as'.Perm as → ofList? key as' = some t) ∧
      ∀ b, t.get? b = as.find? fun a => key a = b := by
  refine ⟨iterate_next key empty [] as, ofList?_eq_none_iff.trans not_nodup_map_iff, ?_⟩
  intro t full
  have holds := ofList?_eq_some_iff.1 full
  refine ⟨holds.slots, fun b => holds.get?_eq_none_iff, fun as' p => ?_, get?_ofList? full⟩
  exact ofList?_eq_some_iff.2 (holds.perm p)

/-- A model that is listed twice, with another between, leaves no table; listed once it is found, in
    either order of the two. -/
theorem filling_ends_models :
    ofList? Model.number [.skylakeX, .coreYonah, .skylakeX] = none ∧
      ∃ t, ofList? Model.number [.skylakeX, .coreYonah] = some t ∧
        ofList? Model.number [.coreYonah, .skylakeX] = some t ∧
        t.get? 0x55 = some .skylakeX ∧ t.get? 0x56 = none := by
  obtain ⟨-, clash, -⟩ := filling_ends Model.number [.skylakeX, .coreYonah, .skylakeX]
  obtain ⟨-, clash', answers⟩ := filling_ends Model.number [.skylakeX, .coreYonah]
  refine ⟨clash.2 ⟨0, 2, by decide, rfl⟩, ?_⟩
  have apart : ofList? Model.number [.skylakeX, .coreYonah] ≠ none := by
    rw [Ne, clash']
    decide
  obtain ⟨t, full⟩ := Option.ne_none_iff_exists'.1 apart
  obtain ⟨taken, free, orders, -⟩ := answers t full
  exact ⟨t, full, orders _ (List.Perm.swap ..), (taken _ _).2 (by decide), (free _).2 (by decide)⟩

end Table

namespace Model

/-- A number is looked up in the table as by a search through all models. -/
theorem ofNumber?_eq_find? (n : UInt8) : ofNumber? n = all.find? fun m => m.number = n := by
  obtain ⟨t, filled⟩ := Option.isSome_iff_exists.1 isSome_ofList?_all
  rw [ofNumber?, table, filled]
  exact Table.get?_ofList? filled n

/-- The look-up finds the only model with a number. -/
theorem ofNumber?_eq_some_iff {n : UInt8} {m : Model} : ofNumber? n = some m ↔ m.number = n := by
  constructor
  · intro found
    rw [ofNumber?_eq_find?] at found
    simpa using List.find?_some found
  · rintro rfl
    exact ofNumber?_number m

end Model

end CpuIdentity
