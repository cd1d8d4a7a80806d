import CpuIdentity.Cpu.Host
import CpuIdentity.Metrics.GaugeVector

/-!
# The exporter

An exporter publishes two facts as metrics of the constant value one: which build is running, and
which model the host's processor is. Each is a gauge vector that holds one gauge at a time, since
it is reset before a gauge is set. The two are registered together, apart from any other exporter's,
and only what is registered is published.

Every metric name starts with a scope, and every series has a label for the host if its name is known.
A scope made of ASCII letters, digits and underscores, with no digit in front, makes every name a
metric name.
-/

namespace CpuIdentity

structure Config where
  scope : Text
  hostname : Option Text
  deriving DecidableEq, Repr

namespace Config

/-- The scope in use when none is given. -/
def defaultScope : Text := "powertelemetry"

def startsScope (c : Char) : Bool := c.isAlpha || c = '_'

def continuesScope (c : Char) : Bool := c.isAlphanum || c = '_'

def isScope : Text → Bool
  | [] => false
  | c :: cs => startsScope c && cs.all continuesScope

/-- The configuration for a scope and a host, if the scope is one. -/
def create (scope : Text) (hostname : Option Text) : Except Error Config :=
  if isScope scope then .ok ⟨scope, hostname⟩
  else .error (.configuration ("Invalid metric namespace: " ++ Text.quote scope))

def standard : Config := ⟨defaultScope, none⟩

/-- The ways to ask for a configuration. -/
inductive Settings where
  | standard (hostname : Option Text)
  | checked (scope : Text) (hostname : Option Text)
  /-- A scope that is taken as it is. -/
  | unchecked (scope : Text) (hostname : Option Text)

def ofSettings : Settings → Except Error Config
  | .standard hostname => .ok { standard with hostname }
  | .checked scope hostname => create scope hostname
  | .unchecked scope hostname => .ok ⟨scope, hostname⟩

/-- The configuration for a scope on a machine, which is asked for its name first. -/
def detect (m : Machine) (scope : Text) : Run Config := do
  let hostname ← m.hostname
  log (.exportingFor hostname)
  create scope hostname

end Config

open Exposition

/-- An exporter: what it publishes under, its registry, and its two metrics. -/
structure Exporter where
  config : Config
  registry : Registry
  buildInfo : GaugeVector 4
  modelInfo : GaugeVector 4
  deriving DecidableEq, Repr

namespace Exporter

/-- The name of a metric under a scope; an empty scope leaves the name alone. -/
def metricName (scope name : Text) : Text := if scope = [] then name else scope ++ "_" ++ name

def buildMetric : Text := "build_info"

def hostMetric : Text := "cpu_model_info"

def buildHelp : Text := "Library name, version and git position"

def hostHelp : Text := "Intel Family-6 model of the host CPU"

def buildLabels : Vector Text 4 := #v["lib", "version", "branch", "commit"]

def hostLabels : Vector Text 4 := #v["model", "name", "lineage", "variant"]

/-- The label for the host, if its name is known. -/
def fixedLabels (c : Config) : List Label :=
  match c.hostname with
  | none => []
  | some h => [⟨"host", h⟩]

def buildValues (v : Version) : Vector Text 4 :=
  #v[Version.programName, Version.shown v.number, Version.shown v.branch, Version.shown v.commit]

def hostValues (h : Host) : Vector Text 4 :=
  #v[numberLabel h.signature.model, h.name, h.lineageName, h.variantName]

/-- Records a build in place of the one before. -/
def recordBuild (x : Exporter) (v : Version) : Exporter :=
  { x with buildInfo := x.buildInfo.reset.set (buildValues v) 1 }

/-- Observes a host in place of the one before. -/
def observe (x : Exporter) (h : Host) : Exporter :=
  { x with modelInfo := x.modelInfo.reset.set (hostValues h) 1 }

/-- A new exporter, for the running build and no host, if its metrics have proper names. -/
def create (build : Version) (c : Config) : Run Exporter := do
  let buildInfo ← GaugeVector.create (metricName c.scope buildMetric) buildHelp (fixedLabels c)
    buildLabels
  let registry ← Registry.empty.register buildInfo.name
  let modelInfo ← GaugeVector.create (metricName c.scope hostMetric) hostHelp (fixedLabels c)
    hostLabels
  let registry ← registry.register modelInfo.name
  let x := recordBuild ⟨c, registry, buildInfo, modelInfo⟩ build
  log (.exporterRegistered c.scope)
  return x

/-- The families of an exporter that are registered, by name. -/
def gather (x : Exporter) : List Family :=
  x.registry.gather [x.buildInfo.collect, x.modelInfo.collect]

/-- All that an exporter publishes, in the text exposition format. It is written as bytes and read
    back as a text. -/
def encode (x : Exporter) : Except Error Text := do
  let written ← Exposition.encode x.gather
  match Utf8.read (Utf8.encode written) with
  | .ok text => .ok text
  | .error fault => .error (.parse ("Metrics output is not UTF-8: " ++ fault.message))

end Exporter

end CpuIdentity
