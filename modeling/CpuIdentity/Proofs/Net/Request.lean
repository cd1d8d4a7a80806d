import CpuIdentity.Net.Http
import CpuIdentity.Proofs.Exposition.Scanning
import Mathlib.Data.List.TakeWhile

/-!
# The path of a request

A target has its path between what may stand before it, a scheme and a server, and what may follow it,
a query or a fragment. The path that a request asks for is the one that stands there.
-/

namespace CpuIdentity

namespace Request

open Exposition.Reader (Stops takeWhile_of_stops dropWhile_of_stops)

variable {r : Request} {target path front back : Text}

/-- What may stand before the path of a target: nothing, or a scheme and a server. -/
def Front (front : Text) : Prop :=
  front = [] ∨ ∃ scheme server : Text, front = scheme ++ "://" ++ server ∧
    (∀ c ∈ scheme, c.isAlphanum = true ∨ c ∈ ['+', '-', '.']) ∧ ∀ c ∈ server, c ∉ ['/', '?', '#']

/-- What may follow the path of a target: nothing, or a query or a fragment. -/
def Back (back : Text) : Prop := ∀ c, back.head? = some c → c ∈ ['?', '#']

/-- A request asks for a path that begins at the root. -/
structure AsksFor (r : Request) (path : Text) : Prop where
  rooted : path.head? = some '/'
  bare : ∀ c ∈ path, c ∉ ['?', '#']
  parts : ∃ front back, r.target = front ++ (path ++ back) ∧ Front front ∧ Back back

theorem inScheme_iff {c : Char} :
    inScheme c = true ↔ c.isAlphanum = true ∨ c ∈ ['+', '-', '.'] := by
  rw [inScheme, Bool.or_eq_true_iff, decide_eq_true_iff]

theorem not_endsAuthority_iff {c : Char} : (!endsAuthority c) = true ↔ c ∉ ['/', '?', '#'] := by
  rw [endsAuthority, Bool.not_eq_true', decide_eq_false_iff_not]

theorem not_endsPath_iff {c : Char} : (!endsPath c) = true ↔ c ∉ ['?', '#'] := by
  rw [endsPath, Bool.not_eq_true', decide_eq_false_iff_not]

theorem fromPath_of_rooted (rooted : target.head? = some '/') : fromPath target = target := by
  cases target with
  | nil => cases rooted
  | cons c cs =>
    cases rooted
    rfl

/-- What stands before the path is taken off a target. -/
theorem fromPath_append (h : Front front) (rooted : target.head? = some '/') :
    fromPath (front ++ target) = target := by
  rcases h with rfl | ⟨scheme, server, rfl, inside, outside⟩
  · exact fromPath_of_rooted rooted
  · have named : ∀ c ∈ scheme, inScheme c = true := fun c hc => inScheme_iff.2 (inside c hc)
    have inServer : ∀ c ∈ server, (!endsAuthority c) = true := fun c hc =>
      not_endsAuthority_iff.2 (outside c hc)
    have ends : Stops (fun c => !endsAuthority c) target := by
      intro c hc
      rw [rooted] at hc
      cases hc
      rfl
    have colon : Stops inScheme ("://" ++ (server ++ target)) := by
      rintro _ ⟨⟩
      rfl
    have rest : (scheme ++ "://" ++ server ++ target).dropWhile inScheme =
        "://" ++ (server ++ target) := by
      rw [List.append_assoc, List.append_assoc]
      exact dropWhile_of_stops named colon
    rw [fromPath, rest, Text.dropLead?_append]
    exact dropWhile_of_stops inServer ends

/-- Every target is what stands before its path, and the rest. -/
theorem exists_front (target : Text) : ∃ front, Front front ∧ target = front ++ fromPath target := by
  unfold fromPath
  split
  case h_1 rest found =>
    have scheme := List.takeWhile_append_dropWhile (p := inScheme) (l := target)
    have server := List.takeWhile_append_dropWhile (p := fun c => !endsAuthority c) (l := rest)
    refine ⟨_, .inr ⟨target.takeWhile inScheme, rest.takeWhile fun c => !endsAuthority c, rfl, ?_, ?_⟩,
      ?_⟩
    · exact fun c hc => inScheme_iff.1 (List.mem_takeWhile_imp hc)
    · intro c hc
      have inside := List.mem_takeWhile_imp (p := fun c => !endsAuthority c) hc
      exact not_endsAuthority_iff.1 inside
    · rw [List.append_assoc, server, List.append_assoc, ← Text.eq_append_of_dropLead? found, scheme]
  case h_2 => exact ⟨[], .inl rfl, rfl⟩

/-- The path of a request is the one that it asks for. -/
theorem AsksFor.path_eq (h : r.AsksFor path) : r.path = path := by
  obtain ⟨front, back, target, hf, hb⟩ := h.parts
  have rooted : (path ++ back).head? = some '/' := by
    rw [List.head?_append, h.rooted]
    rfl
  have bare : ∀ c ∈ path, (!endsPath c) = true := fun c hc =>
    not_endsPath_iff.2 (h.bare c hc)
  have ends : Stops (fun c => !endsPath c) back := fun c hc =>
    congrArg not (decide_eq_true (hb c hc))
  unfold Request.path
  rw [target, fromPath_append hf rooted, takeWhile_of_stops bare ends]
  cases path with
  | nil => cases h.rooted
  | cons c cs => rfl

/-- A request asks for a path below the root exactly if that is its path. -/
theorem asksFor_iff (rooted : path.head? = some '/') (below : path ≠ ("/" : Text)) :
    r.AsksFor path ↔ r.path = path := by
  constructor
  · exact AsksFor.path_eq
  · intro same
    obtain ⟨front, hf, target⟩ := exists_front r.target
    have parts := List.takeWhile_append_dropWhile (p := fun c => !endsPath c) (l := fromPath r.target)
    have first := List.head?_dropWhile_not (fun c => !endsPath c) (fromPath r.target)
    unfold Request.path at same
    have taken : (fromPath r.target).takeWhile (fun c => !endsPath c) = path := by
      split at same
      · exact absurd same.symm below
      · exact same
    refine ⟨rooted, fun c hc => ?_, front, (fromPath r.target).dropWhile fun c => !endsPath c, ?_, hf,
      fun c hc => ?_⟩
    · rw [← taken] at hc
      have inside := List.mem_takeWhile_imp (p := fun c => !endsPath c) hc
      exact not_endsPath_iff.1 inside
    · rw [← taken, parts]
      exact target
    · rw [hc] at first
      exact of_decide_eq_true (Bool.not_eq_false' _ ▸ first)

end Request

end CpuIdentity
