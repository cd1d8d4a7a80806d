import CpuIdentity.Proofs.Catalogue.Listing
import CpuIdentity.Proofs.Program.Failures
import CpuIdentity.Proofs.Program.Faults

/-!
# Listings under a lineage

A run that lists the catalogue under a lineage text either refuses the text, as it was given, or leaves
those lines of the whole listing that end in the lineage that the text names.
-/

namespace CpuIdentity.Program

open Exposition.Reader (lines?)
open Model (Tells restricted row)
open Text (SameUpToCase small words trim)

variable {b : Version} {m : Machine} {network : Network} {args : List Text} {lineage : Option Text}
  {s : Text}

/-- A command line asks for a listing, under a lineage text or under none, and for no classification. -/
def AsksListing (args : List Text) (lineage : Option Text) : Prop :=
  ∃ a, Arguments.parse args = .ok a ∧ a.model = none ∧ a.list = true ∧ a.lineage = lineage

/-- A run ended well, and these are the lines that it wrote. -/
structure Lists (r : Report) (ls : List Text) : Prop where
  status : r.status = 0
  fault : r.fault = none
  lines : lines? r.output = some ls

/-- Every text can be given as the lineage. -/
theorem asksListing_attached (s : Text) : AsksListing ["--list", "--lineage=" ++ s] (some s) := by
  have switch : Arguments.Form.of "--list" = .long "list" none := rfl
  have setting : Arguments.Form.of ("--lineage=" ++ s) = .long "lineage" (some s) := by
    simp [Arguments.Form.of]
  let entered : Arguments.Draft := { list := true }
  have listed : Arguments.readLong {} none "list" none = .ok (entered, none) := rfl
  refine ⟨⟨true, some s, none, false, none, Config.defaultScope, false⟩, ?_, rfl, rfl, rfl⟩
  unfold Arguments.parse
  simp only [Arguments.read, switch, listed, setting]
  rfl

theorem output_of_restriction {l : Option Lineage} (asks : AsksListing args lineage)
    (known : restriction lineage = .ok l) (b : Version) (m : Machine) (network : Network) :
    (execute b m network args).output = listing l := by
  obtain ⟨a, parsed, model, list, rfl⟩ := asks
  rw [execute_of_parse parsed, run_list model list, list_of_ok known]
  show Effect.output (opening b ++ _) = _
  rw [(silent_opening b).output_append]
  exact List.append_nil _

theorem lists_of_restriction {l : Option Lineage} (asks : AsksListing args lineage)
    (known : restriction lineage = .ok l) (b : Version) (m : Machine) (network : Network) :
    Lists (execute b m network args) ((restricted l).map row) := by
  have output := output_of_restriction asks known b m network
  obtain ⟨a, parsed, model, list, rfl⟩ := asks
  have well : (run b m network a).run.value = .ok () := by
    rw [run_list model list, list_of_ok known]
  obtain ⟨status, fault⟩ :
      (execute b m network args).status = 0 ∧ (execute b m network args).fault = none := by
    rw [execute_of_parse parsed]
    exact report_of_ok well
  exact ⟨status, fault, output ▸ Model.lines?_listing l⟩

/-- A run for a listing ends with an error exactly if its lineage text does. -/
theorem endsWith_iff {e : Error} (asks : AsksListing args lineage) :
    EndsWith b m network args e ↔ restriction lineage = .error e := by
  obtain ⟨a, parsed, model, list, rfl⟩ := asks
  have value : (run b m network a).run.value = (Program.list a.lineage).run.value := by
    rw [run_list model list]
  constructor
  · rintro ⟨a', parsed', failed⟩
    rw [parsed] at parsed'
    cases parsed'
    rw [value] at failed
    cases restricted : restriction a.lineage with
    | ok l =>
      rw [list_of_ok restricted] at failed
      cases failed
    | error cause =>
      rw [list_of_error restricted] at failed
      cases failed
      rfl
  · intro refused
    refine ⟨a, parsed, ?_⟩
    rw [value, list_of_error refused]

/-- The words that name lineages. -/
def lineageWords : List Text := ["core", "hybrid", "atom", "xeon-phi"]

theorem mem_lineageWords {word : Text} : word ∈ lineageWords ↔ ∃ l : Lineage, word = l.name := by
  constructor
  · intro member
    obtain ⟨l, -, rfl⟩ := List.mem_map.1 (show word ∈ Lineage.all.map Lineage.name from member)
    exact ⟨l, rfl⟩
  · rintro ⟨l, rfl⟩
    cases l <;> decide

theorem refused_iff :
    restriction (some s) = .error (.catalogue (.unknownLineage s)) ↔
      ∀ word ∈ lineageWords, ¬SameUpToCase (trim s) word := by
  rw [restriction_eq_error_iff]
  constructor
  · rintro ⟨_, ⟨⟩, unknown, -⟩ word member same
    obtain ⟨l, rfl⟩ := mem_lineageWords.1 member
    exact unknown l (Lineage.ofName_eq_ok_iff.2 same)
  · intro other
    refine ⟨s, rfl, fun l known => ?_, rfl⟩
    exact other l.name (mem_lineageWords.2 ⟨l, rfl⟩) (Lineage.ofName_eq_ok_iff.1 known)

/-- There is one list of lines that every run for the whole listing leaves, in any build. Each line
    tells one model: a number of two digits, the name and the lineage, and the number and the name are
    read as the model's number; and each model is told by one line and no other. A lineage text is
    refused, as it was given, exactly if what stands between its blanks is none of the four words but
    for the case of ASCII letters. If it is not refused, the run leaves the listing of the lineage
    that the text is read as, and this has just those of the lines, in their order, whose last word is
    the trimmed text in small letters. -/
theorem listing_filters :
    AsksListing ["--list"] none ∧ (∀ s : Text, AsksListing ["--list", "--lineage=" ++ s] (some s)) ∧
    ∃ ls : List Text,
      (∀ b m network args, AsksListing args none → Lists (execute b m network args) ls) ∧
      (∀ line ∈ ls, ∃! model, Tells line model) ∧
      (∀ model, ∃ before line after, ls = before ++ line :: after ∧ Tells line model ∧
        ∀ other ∈ before ++ after, ¬Tells other model) ∧
      ∀ b m network s args, AsksListing args (some s) →
        (EndsWith b m network args (.catalogue (.unknownLineage s)) ↔
          ∀ word ∈ lineageWords, ¬SameUpToCase (trim s) word) ∧
        ((∃ word ∈ lineageWords, SameUpToCase (trim s) word) →
          ∃ l, Lineage.ofName s = .ok l ∧ (execute b m network args).output = listing (some l) ∧
            Lists (execute b m network args)
              (ls.filter fun line => (words line).getLast? = some ((trim s).map small))) := by
  have whole : AsksListing ["--list"] none :=
    ⟨⟨true, none, none, false, none, Config.defaultScope, false⟩, rfl, rfl, rfl, rfl⟩
  refine ⟨whole, asksListing_attached, (restricted none).map row, ?_, ?_, Model.exists_row, ?_⟩
  · intro b m network args asks
    exact lists_of_restriction asks rfl b m network
  · intro line member
    obtain ⟨model, -, rfl⟩ := List.mem_map.1 member
    exact ⟨model, Model.tells_row model, fun other tells => tells.unique (Model.tells_row model)⟩
  · intro b m network s args asks
    refine ⟨(endsWith_iff asks).trans refused_iff, ?_⟩
    rintro ⟨word, member, same⟩
    obtain ⟨l, rfl⟩ := mem_lineageWords.1 member
    have read := Lineage.ofName_eq_ok_iff.2 same
    have known : restriction (some s) = .ok (some l) := by
      rw [restriction, read]
      rfl
    refine ⟨l, read, output_of_restriction asks known b m network, ?_⟩
    have lists := lists_of_restriction asks known b m network
    have folded : (trim s).map small = l.name := same.trans (Lineage.map_small_name l)
    rw [folded]
    rw [restricted, Lineage.models, Model.map_row_filter] at lists
    exact lists

/-- A lineage in mixed case and between blanks is listed, and one with a blank inside is refused. -/
theorem listing_filters_blanks :
    let b : Version := .ofBuild "1.0" "" ""
    let m : Machine := ⟨fun _ _ => ⟨0, 0, 0, 0⟩, .error .notPermitted⟩
    let network : Network := fun _ => .error (.os .addressInUse)
    let args (s : Text) : List Text := ["--list", "--lineage=" ++ s]
    (execute b m network (args " Xeon-PHI\u2003")).output =
      ("0x57  INTEL_FAM6_XEON_PHI_KNL                  xeon-phi\n" ++
        "0x85  INTEL_FAM6_XEON_PHI_KNM                  xeon-phi\n" : Text) ∧
    EndsWith b m network (args " xeon phi") (.catalogue (.unknownLineage " xeon phi")) := by
  intro b m network args
  obtain ⟨-, given, ls, -, -, -, outcomes⟩ := listing_filters
  obtain ⟨-, listed⟩ := outcomes b m network " Xeon-PHI\u2003" _ (given _)
  obtain ⟨refused, -⟩ := outcomes b m network " xeon phi" _ (given _)
  obtain ⟨l, read, output, -⟩ := listed ⟨"xeon-phi", by decide, by decide⟩
  have found : Lineage.ofName " Xeon-PHI\u2003" = .ok .xeonPhi := by decide
  rw [found] at read
  cases read
  refine ⟨output.trans ?_, refused.2 (by decide)⟩
  decide +kernel

end CpuIdentity.Program
