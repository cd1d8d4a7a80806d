import CpuIdentity.Metrics.Exporter
import CpuIdentity.Proofs.Run
import CpuIdentity.Proofs.Utf8

/-!
# What an exporter holds and shows

The name of a metric under a scope is a metric name exactly when the scope is empty or a metric name
itself, so the two metrics of an exporter have proper names or neither has.

An exporter in use has both registered, and holds one gauge for the build recorded last and at most one
for a host, the one observed last. `showing` is the exporter that holds just these, and every operation
on it gives a `showing` again, so whatever was recorded or observed before leaves nothing behind.
-/

namespace CpuIdentity

namespace Exporter

open Exposition

/-- Whether a scope makes metric names of the names under it. -/
def fitsNames (scope : Text) : Bool := decide (scope = []) || isMetricName scope

/-- A name that is a metric name already needs nothing more of its scope than that it starts one. -/
theorem isMetricName_metricName {scope name : Text} (h : isMetricName name = true) :
    isMetricName (metricName scope name) = fitsNames scope := by
  have rest : name.all continuesName = true := List.all_eq_true.2 (all_of_isMetricName h)
  unfold metricName fitsNames
  by_cases hs : scope = []
  · rw [if_pos hs, h]
    simp [hs]
  · rw [if_neg hs]
    cases scope with
    | nil => exact absurd rfl hs
    | cons c cs =>
      have joint : continuesName '_' = true := by decide
      simp [isMetricName, rest, joint]

theorem isMetricName_buildMetric (scope : Text) :
    isMetricName (metricName scope buildMetric) = fitsNames scope :=
  isMetricName_metricName (by decide)

theorem isMetricName_hostMetric (scope : Text) :
    isMetricName (metricName scope hostMetric) = fitsNames scope :=
  isMetricName_metricName (by decide)

theorem metricName_ne_nil {scope name : Text} (h : name ≠ []) : metricName scope name ≠ [] := by
  unfold metricName
  split <;> simp [h]

/-- Below a scope the first letters of the names decide which comes first. -/
theorem buildMetric_before_hostMetric (scope : Text) :
    Text.before (metricName scope buildMetric) (metricName scope hostMetric) = true := by
  unfold metricName
  split
  · decide
  · rw [Text.before_append_left]
    decide

theorem hostMetric_ne_buildMetric (scope : Text) :
    metricName scope hostMetric ≠ metricName scope buildMetric := by
  intro same
  have first := buildMetric_before_hostMetric scope
  rw [same, Text.strictOrder_before.irrefl] at first
  cases first

end Exporter

namespace GaugeVector

variable {n : Nat}

theorem create_eq_ok {name help : Text} {fixed : List Exposition.Label} {labelNames : Vector Text n}
    (h : Exposition.isMetricName name = true) :
    create name help fixed labelNames = .ok ⟨name, help, fixed, labelNames, []⟩ := by
  rw [create, if_pos h]

theorem create_eq_error {name help : Text} {fixed : List Exposition.Label}
    {labelNames : Vector Text n} (h : Exposition.isMetricName name = false) :
    create name help fixed labelNames =
      .error (.metric (.other ("'" ++ name ++ "' is not a valid metric name"))) := by
  rw [create, if_neg (by simp [h])]

end GaugeVector

namespace Exporter

open Exposition

/-- The exporter that shows a build and, if there is one, a host. -/
def showing (c : Config) (v : Version) (h : Option Host) : Exporter where
  config := c
  registry := ⟨[metricName c.scope buildMetric, metricName c.scope hostMetric]⟩
  buildInfo := {
    name := metricName c.scope buildMetric
    help := buildHelp
    fixed := fixedLabels c
    labelNames := buildLabels
    gauges := [(buildValues v, 1)] }
  modelInfo := {
    name := metricName c.scope hostMetric
    help := hostHelp
    fixed := fixedLabels c
    labelNames := hostLabels
    gauges := (h.map fun h => (hostValues h, 1)).toList }

@[simp] theorem recordBuild_showing (c : Config) (v v' : Version) (h : Option Host) :
    (showing c v h).recordBuild v' = showing c v' h := rfl

@[simp] theorem observe_showing (c : Config) (v : Version) (h : Option Host) (h' : Host) :
    (showing c v h).observe h' = showing c v (some h') := rfl

/-- The labels that tell a build, by name. -/
def buildSeriesLabels (c : Config) (v : Version) : List Label :=
  [⟨"branch", Version.shown v.branch⟩, ⟨"commit", Version.shown v.commit⟩] ++ fixedLabels c ++
    [⟨"lib", Version.programName⟩, ⟨"version", Version.shown v.number⟩]

/-- The labels that tell a host's model, by name. -/
def hostSeriesLabels (c : Config) (h : Host) : List Label :=
  fixedLabels c ++
    [⟨"lineage", h.lineageName⟩, ⟨"model", numberLabel h.signature.model⟩, ⟨"name", h.name⟩,
     ⟨"variant", h.variantName⟩]

/-- The family that tells the build. -/
def buildFamily (c : Config) (v : Version) : Family :=
  ⟨metricName c.scope buildMetric, buildHelp, .gauge, [⟨buildSeriesLabels c v, 1⟩]⟩

/-- The family that tells the host's model. -/
def hostFamily (c : Config) (h : Host) : Family :=
  ⟨metricName c.scope hostMetric, hostHelp, .gauge, [⟨hostSeriesLabels c h, 1⟩]⟩

/-- The families of an exporter that shows a build and perhaps a host, by name. -/
def shownFamilies (c : Config) (v : Version) (h : Option Host) : List Family :=
  buildFamily c v :: (h.map (hostFamily c)).toList

/-- Whether the labels of a series stand by rising names, so no two have one name. -/
def LabelsByName (ls : List Label) : Prop :=
  ls.Pairwise fun a b => Text.before a.name b.name = true

theorem labelsByName_iff (ls : List Label) :
    LabelsByName ls ↔ (ls.map Label.name).Pairwise fun a b => Text.before a b = true := by
  rw [LabelsByName, List.pairwise_map]

/-- The names of the fixed labels. -/
def fixedNames (c : Config) : List Text := if c.hostname.isSome then ["host"] else []

theorem names_fixedLabels (c : Config) : (fixedLabels c).map Label.name = fixedNames c := by
  unfold fixedLabels fixedNames
  cases c.hostname <;> rfl

theorem names_build (c : Config) (v : Version) :
    (buildSeriesLabels c v).map Label.name =
      (["branch", "commit"] : List Text) ++ fixedNames c ++ (["lib", "version"] : List Text) := by
  rw [buildSeriesLabels, List.map_append, List.map_append, names_fixedLabels]
  rfl

theorem names_host (c : Config) (h : Host) :
    (hostSeriesLabels c h).map Label.name =
      fixedNames c ++ (["lineage", "model", "name", "variant"] : List Text) := by
  rw [hostSeriesLabels, List.map_append, names_fixedLabels]
  rfl

theorem labelsByName_build (c : Config) (v : Version) : LabelsByName (buildSeriesLabels c v) := by
  rw [labelsByName_iff, names_build, fixedNames]
  cases c.hostname.isSome <;> decide

theorem labelsByName_host (c : Config) (h : Host) : LabelsByName (hostSeriesLabels c h) := by
  rw [labelsByName_iff, names_host, fixedNames]
  cases c.hostname.isSome <;> decide

theorem labels_build (c : Config) (v : Version) (h : Option Host) (v' : Version) :
    (showing c v h).buildInfo.labels (buildValues v') = buildSeriesLabels c v' := by
  refine sortBy_eq_of_perm Text.strictOrder_before ?_ (labelsByName_build c v')
  rw [Vector.toList_zipWith]
  let position : List Label :=
    [⟨"branch", Version.shown v'.branch⟩, ⟨"commit", Version.shown v'.commit⟩]
  let program : List Label :=
    [⟨"lib", Version.programName⟩, ⟨"version", Version.shown v'.number⟩]
  show (position ++ fixedLabels c ++ program).Perm (fixedLabels c ++ (program ++ position))
  rw [List.append_assoc, ← List.append_assoc (fixedLabels c)]
  exact List.perm_append_comm

theorem labels_host (c : Config) (v : Version) (h : Option Host) (h' : Host) :
    (showing c v h).modelInfo.labels (hostValues h') = hostSeriesLabels c h' := by
  refine sortBy_eq_of_perm Text.strictOrder_before ?_ (labelsByName_host c h')
  rw [Vector.toList_zipWith]
  apply List.Perm.append_left
  exact (List.Perm.swap ..).trans ((List.Perm.swap ..).cons _)

theorem collect_build (c : Config) (v : Version) (h : Option Host) :
    (showing c v h).buildInfo.collect = buildFamily c v := by
  have labels := labels_build c v h v
  simp only [GaugeVector.collect, showing, List.map_cons, List.map_nil] at labels ⊢
  rw [labels]
  rfl

theorem collect_host (c : Config) (v : Version) (h : Option Host) :
    (showing c v h).modelInfo.collect =
      ⟨metricName c.scope hostMetric, hostHelp, .gauge,
        (h.map fun h => (⟨hostSeriesLabels c h, 1⟩ : Series)).toList⟩ := by
  cases h with
  | none => rfl
  | some h =>
    have labels := labels_host c v (some h) h
    simp only [GaugeVector.collect, showing, Option.map_some, Option.toList_some, List.map_cons,
      List.map_nil] at labels ⊢
    rw [labels]

theorem sortSeries_singleton (name help : Text) (kind : Kind) (s : Series) :
    Registry.sortSeries ⟨name, help, kind, [s]⟩ = ⟨name, help, kind, [s]⟩ := by
  simp [Registry.sortSeries, sortBy]

/-- The families of an exporter stand by rising names. -/
theorem familiesByName (c : Config) (v : Version) (h : Option Host) :
    (shownFamilies c v h).Pairwise fun f g => Text.before f.name g.name = true := by
  cases h with
  | none => exact List.pairwise_singleton ..
  | some h => exact List.pairwise_pair.2 (buildMetric_before_hostMetric c.scope)

/-- A registry collects the two families whose metrics are registered, in the order of their
    registration. -/
theorem collected_pair {name name' : Text} {f g : Family} (hf : f.name = name) (hg : g.name = name')
    (apart : name' ≠ name) : Registry.collected ⟨[name, name']⟩ [f, g] = [f, g] := by
  subst hf hg
  have first : ([f, g] : List Family).find? (fun k => k.name = f.name) = some f := by simp
  have second : ([f, g] : List Family).find? (fun k => k.name = g.name) = some g := by
    simp [apart.symm]
  unfold Registry.collected
  rw [List.filterMap_cons, first, List.filterMap_cons, second]
  rfl

/-- What an exporter gathers is what it shows. -/
theorem gather_showing (c : Config) (v : Version) (h : Option Host) :
    (showing c v h).gather = shownFamilies c v h := by
  have registered : (showing c v h).registry =
      ⟨[metricName c.scope buildMetric, metricName c.scope hostMetric]⟩ := rfl
  have apart := hostMetric_ne_buildMetric c.scope
  unfold gather Registry.gather
  rw [collect_build, collect_host, registered, collected_pair (by rfl) (by rfl) apart]
  refine sortBy_eq_of_perm Text.strictOrder_before (List.Perm.of_eq ?_) (familiesByName c v h)
  cases h with
  | none => simp [shownFamilies, buildFamily, sortSeries_singleton]
  | some h => simp [shownFamilies, buildFamily, hostFamily, sortSeries_singleton]

/-! ## Creation and text -/

/-- A new exporter shows the running build and no host. -/
theorem run_create_of_fitsNames {c : Config} (h : fitsNames c.scope = true) (b : Version) :
    (create b c).run =
      ⟨[.logged (.exporterRegistered c.scope)], .ok (showing c b none)⟩ := by
  have hb := (isMetricName_buildMetric c.scope).trans h
  have hh := (isMetricName_hostMetric c.scope).trans h
  have apart : metricName c.scope hostMetric ∉ [metricName c.scope buildMetric] := by
    simpa using hostMetric_ne_buildMetric c.scope
  unfold create
  simp only [GaugeVector.create_eq_ok hb, GaugeVector.create_eq_ok hh, Registry.register,
    Registry.empty, Run.liftM_ok, pure_bind, List.not_mem_nil, if_false, List.nil_append,
    if_neg apart]
  rfl

/-- Without proper names creation fails at the first metric, before anything is logged. -/
theorem run_create_of_not_fitsNames {c : Config} (h : fitsNames c.scope = false) (b : Version) :
    (create b c).run =
      ⟨[], .error (.metric (.other
        ("'" ++ metricName c.scope buildMetric ++ "' is not a valid metric name")))⟩ := by
  have hb := (isMetricName_buildMetric c.scope).trans h
  unfold create
  rw [GaugeVector.create_eq_error hb, Run.liftM_error, Run.throw_bind]
  rfl

/-- An exporter that was created shows the build that it was created for. -/
theorem value_create_eq_ok_iff {b : Version} {c : Config} {x : Exporter} :
    (create b c).run.value = .ok x ↔ fitsNames c.scope = true ∧ x = showing c b none := by
  cases h : fitsNames c.scope with
  | true => rw [run_create_of_fitsNames h]; simp [eq_comm]
  | false => rw [run_create_of_not_fitsNames h]; simp

theorem encode_eq_ok {fs : List Family} (h : ∀ f ∈ fs, f.fault? = none) :
    Exposition.encode fs = .ok (fs.flatMap Family.text) := by
  induction fs with
  | nil => rfl
  | cons f fs ih =>
    have first : f.fault? = none := h f List.mem_cons_self
    have rest := ih fun g hg => h g (List.mem_cons_of_mem f hg)
    rw [Exposition.encode, first, rest]
    rfl

theorem fault?_shownFamilies (c : Config) (v : Version) (h : Option Host) :
    ∀ f ∈ shownFamilies c v h, f.fault? = none := by
  have build : metricName c.scope buildMetric ≠ [] := metricName_ne_nil (by decide)
  have host : metricName c.scope hostMetric ≠ [] := metricName_ne_nil (by decide)
  intro f hf
  rcases List.mem_cons.1 hf with rfl | hf
  · simp [Family.fault?, buildFamily, build]
  · obtain ⟨h, -, rfl⟩ := Option.map_eq_some_iff.1 (Option.mem_toList.1 hf)
    simp [Family.fault?, hostFamily, host]

/-- No exporter fails to print what it shows. -/
theorem encode_showing (c : Config) (v : Version) (h : Option Host) :
    (showing c v h).encode = .ok ((shownFamilies c v h).flatMap Family.text) := by
  unfold encode
  rw [gather_showing, encode_eq_ok (fault?_shownFamilies c v h)]
  simp only [bind, Except.bind, Utf8.read_encode]

end Exporter

end CpuIdentity
