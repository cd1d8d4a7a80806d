import CpuIdentity.Metrics.Exporter
import CpuIdentity.Net.Server

/-!
# Pools of exporters

Any number of exporters may live side by side, each under an identifier of its own. A command is
addressed to one identifier and touches no other exporter. A command that fails changes nothing.
-/

namespace CpuIdentity

/-- Exporters under their identifiers, each identifier at most once. -/
abbrev Pool := List (Text × Exporter)

namespace Pool

/-- What can be asked of an exporter. -/
inductive Use where
  | recordBuild (version : Version)
  | observe (signature : Signature)
  | encode
  | gather
  | page

/-- What can be asked under an identifier. -/
inductive Command where
  /-- Puts a new exporter in the place of the one there, if any. -/
  | create (settings : Config.Settings)
  | use (u : Use)

inductive Answer where
  | metrics (text : Text)
  | families (families : List Exposition.Family)
  | response (response : Response)
  | failed (cause : Error)
  | missing

def get? (p : Pool) (id : Text) : Option Exporter := List.lookup id p

/-- The pool with an exporter under an identifier. -/
def put (p : Pool) (id : Text) (x : Exporter) : Pool := (id, x) :: p.filter fun e => e.1 ≠ id

/-- The answer that shows all that an exporter publishes. -/
def shown (x : Exporter) : Answer :=
  match x.encode with
  | .ok text => .metrics text
  | .error cause => .failed cause

/-- What a use makes of an exporter, and its answer. No exporter in the result means that it stays as it
    is. -/
def Use.act (x : Exporter) : Use → Act (Option Exporter × Answer)
  | .recordBuild version => return (some (x.recordBuild version), shown (x.recordBuild version))
  | .observe signature => do
    match ← (Host.identify signature).run with
    | .ok h => return (some (x.observe h), shown (x.observe h))
    | .error cause => return (none, .failed cause)
  | .encode => return (none, shown x)
  | .gather => return (none, .families x.gather)
  | .page => return (none, .response (← metricsPage x.encode))

/-- What a command makes of the exporter under an identifier, and its answer. No exporter in the
    result means that the identifier keeps what it has. -/
def act (build : Version) (x : Option Exporter) : Command → Act (Option Exporter × Answer)
  | .create settings => do
    match ← (do Exporter.create build (← Config.ofSettings settings) : Run Exporter).run with
    | .ok x => return (some x, shown x)
    | .error cause => return (none, .failed cause)
  | .use u =>
    match x with
    | none => return (none, .missing)
    | some x => u.act x

/-- The pool after a command to an identifier, and the answer. -/
def step (build : Version) (p : Pool) (id : Text) (c : Command) : Act (Pool × Answer) := do
  let (x, answer) ← act build (p.get? id) c
  return ((x.map (p.put id)).getD p, answer)

/-- The answers to a sequence of commands, each with what was done for it. -/
def run (build : Version) : Pool → List (Text × Command) → List (Traced Effect Answer)
  | _, [] => []
  | p, (id, c) :: cs =>
    let r := p.step build id c
    ⟨r.trace, r.value.2⟩ :: run build r.value.1 cs

end Pool

end CpuIdentity
