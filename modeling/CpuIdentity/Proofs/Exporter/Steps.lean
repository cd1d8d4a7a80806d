import CpuIdentity.Metrics.Pool
import CpuIdentity.Proofs.Exporter.State

/-!
# Exporters in use

A step records a build, observes the host of a signature, or reads. After any number of steps in any
order an exporter shows the build recorded last, or the running one if none was, and the host
identified last, if one was; nothing else of its past shows.
-/

namespace CpuIdentity.Exporter

open Exposition

/-- What can be done with an exporter. -/
inductive Step where
  | recordBuild (number branch commit : Text)
  | observe (signature : Signature)
  | encode
  | gather

/-- What a step asks of its exporter. -/
def Step.use : Step → Pool.Use
  | .recordBuild number branch commit => .recordBuild (.ofBuild number branch commit)
  | .observe signature => .observe signature
  | .encode => .encode
  | .gather => .gather

/-- The exporter after a step. -/
def step (x : Exporter) (s : Step) : Exporter :=
  (s.use.act x).value.1.getD x

/-- The exporter after steps, taken first to last. -/
def steps (x : Exporter) (ss : List Step) : Exporter := ss.foldl step x

/-- The build that a step records. -/
def Step.build? : Step → Option Version
  | .recordBuild number branch commit => some (.ofBuild number branch commit)
  | _ => none

/-- The host that a step identifies. -/
def Step.host? : Step → Option Host
  | .observe signature => (Host.identify signature).run.value.toOption
  | _ => none

/-- The build recorded last, or the running one. -/
def lastBuild (build : Version) (ss : List Step) : Version :=
  (ss.filterMap Step.build?).getLast?.getD build

/-- The host identified last. -/
def lastHost (ss : List Step) : Option Host := (ss.filterMap Step.host?).getLast?

/-- A step replaces what it brings and keeps the rest. -/
theorem step_showing (c : Config) (v : Version) (h : Option Host) (s : Step) :
    (showing c v h).step s = showing c (s.build?.getD v) (s.host?.or h) := by
  cases s with
  | recordBuild number branch commit => exact recordBuild_showing c v _ h
  | encode => rfl
  | gather => rfl
  | observe signature =>
    unfold step Step.use Step.build? Step.host? Pool.Use.act
    simp only [Traced.value_bind]
    cases (Host.identify signature).run.value with
    | ok h' => exact observe_showing c v h h'
    | error cause => rfl

/-- Steps leave what the last of them brought, each of the two for itself. -/
theorem steps_showing (c : Config) (v : Version) (h : Option Host) (ss : List Step) :
    (showing c v h).steps ss =
      showing c ((ss.filterMap Step.build?).getLast?.getD v)
        ((ss.filterMap Step.host?).getLast?.or h) := by
  -- The exporter is a showing before and after each step, so the build and the host generalise.
  induction ss generalizing v h with
  | nil => rfl
  | cons s ss ih =>
    have rest := ih (s.build?.getD v) (s.host?.or h)
    rw [steps, List.foldl_cons, step_showing]
    rw [steps] at rest
    rw [rest]
    congr 1
    · cases hs : s.build? with
      | none => rw [List.filterMap_cons_none hs]; rfl
      | some v' => rw [List.filterMap_cons_some hs, List.getLast?_cons]; rfl
    · cases hs : s.host? with
      | none => rw [List.filterMap_cons_none hs]; rfl
      | some h' =>
        rw [List.filterMap_cons_some hs, List.getLast?_cons]
        cases (ss.filterMap Step.host?).getLast? <;> rfl

/-- An exporter that was created and used shows the last build and the last host. -/
theorem steps_of_create {b : Version} {c : Config} {x : Exporter}
    (created : (create b c).run.value = .ok x) (ss : List Step) :
    x.steps ss = showing c (lastBuild b ss) (lastHost ss) := by
  obtain ⟨-, rfl⟩ := value_create_eq_ok_iff.1 created
  rw [steps_showing, Option.or_none]
  rfl

/-- An exporter that was created is encoded after any steps. -/
theorem encode_steps {b : Version} {c : Config} {x : Exporter}
    (created : (create b c).run.value = .ok x) (ss : List Step) : ∃ t, (x.steps ss).encode = .ok t := by
  rw [steps_of_create created]
  exact ⟨_, encode_showing _ _ _⟩

theorem mem_fixedLabels {c : Config} {l : Label} :
    l ∈ fixedLabels c ↔ ∃ host, c.hostname = some host ∧ l = ⟨"host", host⟩ := by
  unfold fixedLabels
  cases c.hostname <;> simp

/-- Among labels of other names the host's is there exactly if it is known. -/
theorem host_mem_iff {c : Config} {front back : List Label} {host : Text}
    (hf : ("host" : Text) ∉ front.map Label.name) (hb : ("host" : Text) ∉ back.map Label.name) :
    (⟨"host", host⟩ : Label) ∈ front ++ fixedLabels c ++ back ↔ c.hostname = some host := by
  rw [List.mem_append, List.mem_append, mem_fixedLabels]
  constructor
  · rintro ((h | ⟨host', known, same⟩) | h)
    · exact absurd (List.mem_map_of_mem h) hf
    · rw [known, (Label.mk.inj same).2]
    · exact absurd (List.mem_map_of_mem h) hb
  · intro known
    exact Or.inl (Or.inr ⟨host, known, rfl⟩)

theorem mem_shownFamilies {c : Config} {v : Version} {h : Option Host} {f : Family} :
    f ∈ shownFamilies c v h ↔ f = buildFamily c v ∨ ∃ h', h = some h' ∧ f = hostFamily c h' := by
  rw [shownFamilies, List.mem_cons, Option.mem_toList, Option.map_eq_some_iff]
  simp only [eq_comm]

/-- Every series that is shown has the value one, its labels by name, and the host's name among
    them exactly if it is known. -/
theorem series_of_mem_shownFamilies {c : Config} {v : Version} {h : Option Host} {f : Family}
    (hf : f ∈ shownFamilies c v h) {s : Series} (hs : s ∈ f.series) :
    s.value = 1 ∧ LabelsByName s.labels ∧
      ∀ host, (⟨"host", host⟩ : Label) ∈ s.labels ↔ c.hostname = some host := by
  rcases mem_shownFamilies.1 hf with rfl | ⟨h', -, rfl⟩
  · obtain rfl := List.mem_singleton.1 hs
    refine ⟨rfl, labelsByName_build c v, fun host => ?_⟩
    exact host_mem_iff (by simp only [List.map_cons, List.map_nil]; decide)
      (by simp only [List.map_cons, List.map_nil]; decide)
  · obtain rfl := List.mem_singleton.1 hs
    refine ⟨rfl, labelsByName_host c h', fun host => ?_⟩
    have nothing : ("host" : Text) ∉ ([] : List Label).map Label.name := List.not_mem_nil
    exact host_mem_iff nothing (by simp only [List.map_cons, List.map_nil]; decide)

/-- An exporter in use gathers the family of the last build, with one series, and that of the last
    host, if there is one, with one series as well, by name. So its text depends on its configuration
    and these two alone. -/
theorem gather_steps {b : Version} {c : Config} {x : Exporter}
    (created : (create b c).run.value = .ok x) (ss : List Step) :
    (x.steps ss).gather =
        buildFamily c (lastBuild b ss) :: ((lastHost ss).map (hostFamily c)).toList ∧
      (x.steps ss).gather.Pairwise (fun f g => Text.before f.name g.name = true) ∧
      (∀ f ∈ (x.steps ss).gather, ∀ s ∈ f.series, s.value = 1 ∧ LabelsByName s.labels ∧
        ∀ host, (⟨"host", host⟩ : Label) ∈ s.labels ↔ c.hostname = some host) ∧
      ∀ ss', lastBuild b ss' = lastBuild b ss → lastHost ss' = lastHost ss →
        (x.steps ss').encode = (x.steps ss).encode := by
  have shown := steps_of_create created ss
  rw [shown, gather_showing]
  refine ⟨rfl, familiesByName _ _ _, fun f hf s hs => series_of_mem_shownFamilies hf hs, ?_⟩
  intro ss' sameBuild sameHost
  rw [steps_of_create created ss', sameBuild, sameHost]

/-- The detached head of a recorded build is shown as unknown, and a processor of another vendor that
    is observed last leaves the host before it in place. -/
theorem gather_steps_afterRejection :
    let b : Version := .ofBuild "1.0" "main" ""
    let c : Config := ⟨"node", some "n\"1"⟩
    let intel : Signature := ⟨intelVendor, 6, 0x55, 7⟩
    let amd : Signature := ⟨"AuthenticAMD", 25, 0x21, 2⟩
    let ss : List Step := [.observe intel, .recordBuild "2.0" "HEAD\n" "a1b2", .encode, .observe amd]
    let x := showing c b none
    (create b c).run.value = .ok x ∧
      (x.steps ss).gather =
        [buildFamily c ⟨"2.0", [], "a1b2"⟩,
          hostFamily c ⟨intel, some .skylakeX, some .cascadeLakeX⟩] := by
  intro b c intel amd ss x
  have created : (create b c).run.value = .ok x :=
    value_create_eq_ok_iff.2 ⟨by decide, rfl⟩
  have builds : lastBuild b ss = ⟨"2.0", [], "a1b2"⟩ := by decide
  have hosts : lastHost ss = some ⟨intel, some .skylakeX, some .cascadeLakeX⟩ := by
    decide +kernel
  refine ⟨created, ?_⟩
  rw [(gather_steps created ss).1, builds, hosts]
  rfl

end CpuIdentity.Exporter
