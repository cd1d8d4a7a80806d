import CpuIdentity.Proofs.Exporter.Steps
import CpuIdentity.Proofs.Exposition.RoundTrip

/-!
# Reading what an exporter publishes

The families of an exporter keep to what a reader needs, whatever the names, builds and hosts behind
their label values are. So the text of an exporter in use is read back as the families that it
gathers, and no value can forge a label, a series or a line.
-/

namespace CpuIdentity.Exporter

open Exposition

theorem isLabelName_build (c : Config) (v : Version) :
    ∀ l ∈ buildSeriesLabels c v, isLabelName l.name = true := by
  have names : ∀ n ∈ (buildSeriesLabels c v).map Label.name, isLabelName n = true := by
    rw [names_build, fixedNames]
    cases c.hostname.isSome <;> decide
  intro l hl
  exact names l.name (List.mem_map_of_mem hl)

theorem isLabelName_host (c : Config) (h : Host) :
    ∀ l ∈ hostSeriesLabels c h, isLabelName l.name = true := by
  have names : ∀ n ∈ (hostSeriesLabels c h).map Label.name, isLabelName n = true := by
    rw [names_host, fixedNames]
    cases c.hostname.isSome <;> decide
  intro l hl
  exact names l.name (List.mem_map_of_mem hl)

theorem readable_shownFamilies {c : Config} (fits : fitsNames c.scope = true) (v : Version)
    (h : Option Host) : ∀ f ∈ shownFamilies c v h, Reader.Readable f := by
  intro f hf
  rcases mem_shownFamilies.1 hf with rfl | ⟨h', -, rfl⟩
  · refine ⟨(isMetricName_buildMetric c.scope).trans fits, Reader.stops_cons (by decide), ?_⟩
    intro s hs
    obtain rfl := List.mem_singleton.1 hs
    exact isLabelName_build c v
  · refine ⟨(isMetricName_hostMetric c.scope).trans fits, Reader.stops_cons (by decide), ?_⟩
    intro s hs
    obtain rfl := List.mem_singleton.1 hs
    exact isLabelName_host c h'

theorem nodup_names_shownFamilies (c : Config) (v : Version) (h : Option Host) :
    ((shownFamilies c v h).map Family.name).Nodup := by
  refine List.pairwise_map.2 ((familiesByName c v h).imp fun {f g} before same => ?_)
  rw [same, Text.strictOrder_before.irrefl] at before
  cases before

/-- The lines of a family that an exporter shows: its help, its type and its one series. -/
theorem said_of_mem_shownFamilies {c : Config} {v : Version} {h : Option Host} {f : Family}
    (hf : f ∈ shownFamilies c v h) :
    ∃ s, f.series = [s] ∧
      Reader.said f = [.help f.name f.help, .kind f.name .gauge, .series f.name s] := by
  rcases mem_shownFamilies.1 hf with rfl | ⟨h', -, rfl⟩
  · refine ⟨⟨buildSeriesLabels c v, 1⟩, rfl, ?_⟩
    have told : (buildFamily c v).help ≠ [] := List.cons_ne_nil _ _
    rw [Reader.said, if_neg told]
    rfl
  · refine ⟨⟨hostSeriesLabels c h', 1⟩, rfl, ?_⟩
    have told : (hostFamily c h').help ≠ [] := List.cons_ne_nil _ _
    rw [Reader.said, if_neg told]
    rfl

theorem length_flatMap_said {fs : List Family} (h : ∀ f ∈ fs, (Reader.said f).length = 3) :
    (fs.flatMap Reader.said).length = 3 * fs.length := by
  induction fs with
  | nil => rfl
  | cons f fs ih =>
    have first := h f List.mem_cons_self
    have rest := ih fun g hg => h g (List.mem_cons_of_mem f hg)
    rw [List.flatMap_cons, List.length_append, first, rest, List.length_cons]
    omega

/-- The text of an exporter in use is read back as the families that it gathers. It has a help line, a
    type line and one line of a series for each of them, the last of which ends it, and no exporter that
    gathers anything else has the same text. -/
theorem read_encode_steps {b : Version} {c : Config} {x : Exporter}
    (created : (create b c).run.value = .ok x) (ss : List Step) :
    ∃ t, (x.steps ss).encode = .ok t ∧
      Reader.read t = some (x.steps ss).gather ∧
      (∃ ls, Reader.lines? t = some ls ∧
        ls.mapM Reader.readLine = some ((x.steps ss).gather.flatMap Reader.said) ∧
        ls.length = 3 * (x.steps ss).gather.length) ∧
      (∀ f ∈ (x.steps ss).gather, ∃ s, f.series = [s] ∧
        Reader.said f = [.help f.name f.help, .kind f.name .gauge, .series f.name s]) ∧
      t.count '\n' = 3 * (x.steps ss).gather.length ∧ t.getLast? = some '\n' ∧
      ∀ {b' : Version} {c' : Config} {x' : Exporter}, (create b' c').run.value = .ok x' →
        ∀ ss' : List Step, (x'.steps ss').gather ≠ (x.steps ss).gather →
          (x'.steps ss').encode ≠ .ok t := by
  obtain ⟨fits, -⟩ := value_create_eq_ok_iff.1 created
  have shown := steps_of_create created ss
  let fs := shownFamilies c (lastBuild b ss) (lastHost ss)
  have readable : ∀ f ∈ fs, Reader.Readable f := readable_shownFamilies fits _ _
  have read : Reader.read (fs.flatMap Family.text) = some fs :=
    Reader.read_text readable (nodup_names_shownFamilies c _ _)
  have said : ∀ f ∈ fs, ∃ s, f.series = [s] ∧
      Reader.said f = [.help f.name f.help, .kind f.name .gauge, .series f.name s] :=
    fun f hf => said_of_mem_shownFamilies hf
  have length : (fs.flatMap Reader.said).length = 3 * fs.length := by
    apply length_flatMap_said
    intro f hf
    obtain ⟨s, -, lines⟩ := said f hf
    rw [lines]
    rfl
  let ls := (fs.flatMap Reader.said).map Reader.Line.text
  have lines : Reader.lines? (fs.flatMap Family.text) = some ls := Reader.lines?_text readable
  have lineCount : ls.length = 3 * fs.length := by rw [List.length_map, length]
  have present : ls ≠ [] := by
    apply List.ne_nil_of_length_pos
    rw [lineCount]
    exact Nat.mul_pos (by decide) (Nat.succ_pos _)
  have flat : fs.flatMap Family.text = ls.flatMap Text.line := Reader.flatMap_text fs
  rw [shown, gather_showing, encode_showing]
  refine ⟨fs.flatMap Family.text, rfl, read, ⟨ls, lines, Reader.mapM_readLine_text readable, lineCount⟩,
    said, ?_, ?_, ?_⟩
  · rw [flat, Reader.count_newline_flatMap_line (Reader.newline_not_mem_lines readable), lineCount]
  · rw [flat, Reader.getLast?_flatMap_line present]
  -- Equal texts would be read back as the same families.
  · intro b' c' x' created' ss' other same
    obtain ⟨fits', -⟩ := value_create_eq_ok_iff.1 created'
    rw [steps_of_create created' ss', gather_showing] at other
    rw [steps_of_create created' ss', encode_showing] at same
    have read' := Reader.read_text (readable_shownFamilies fits' (lastBuild b' ss') (lastHost ss'))
      (nodup_names_shownFamilies c' _ _)
    rw [Except.ok.inj same, read] at read'
    exact other (Option.some.inj read').symm

/-- A name of a host that spells a whole series of its own, and a branch that spells a comment, are
    told as label values and make no line. -/
theorem read_encode_steps_forged :
    let b : Version := ⟨"1.0", [], []⟩
    let c : Config := ⟨"node", some "a\"\x7d 1\nnode_cpu_model_info 1\n\\"⟩
    let ss : List Step :=
      [.recordBuild "2.0" "x\"\n# TYPE y counter\n" "\\n", .observe ⟨intelVendor, 6, 0x55, 7⟩]
    let x := showing c b none
    (create b c).run.value = .ok x ∧
      ∃ t, (x.steps ss).encode = .ok t ∧ Reader.read t = some (x.steps ss).gather ∧
        t.count '\n' = 6 := by
  intro b c ss x
  have created : (create b c).run.value = .ok x := value_create_eq_ok_iff.2 ⟨by decide, rfl⟩
  have hosts : lastHost ss = some ⟨⟨intelVendor, 6, 0x55, 7⟩, some .skylakeX, some .cascadeLakeX⟩ := by
    decide +kernel
  obtain ⟨t, told, read, -, -, count, -⟩ := read_encode_steps created ss
  have length : (x.steps ss).gather.length = 2 := by
    rw [steps_of_create created, gather_showing, hosts]
    rfl
  rw [length] at count
  exact ⟨created, t, told, read, count⟩

end CpuIdentity.Exporter
