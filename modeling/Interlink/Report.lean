import Interlink.Backend.Memory
import Interlink.File
import Interlink.Json.Writer
import Interlink.Plan.Encode
import Interlink.Request
import Interlink.Topology.Lint
import Interlink.Topology.Load
import Interlink.Yaml.Writer

/-!
# What a run reports

A run takes a topology's text through loading, replacing settings, reading the
snapshot and planning, and ends with the text of a plan or with the first
failure. A failure is shown as a chain: what could not be done, then why.
-/

namespace Interlink

/-- Why a run ends without a plan. -/
inductive Failure
  /-- A file cannot be opened. -/
  | notOpened (file : InputFile) (path : String)
  /-- A file's content is not understood. -/
  | notParsed (file : InputFile) (path : String) (reason : String)
  /-- The topology is not valid. -/
  | invalid (error : ValidationError)
  /-- The unit cannot be planned. -/
  | notPlanned (scope : Scope) (error : PlanError)
  /-- The plan cannot be written. -/
  | notWritten (path : String)
deriving DecidableEq, Repr

namespace Failure

/-- What could not be done, then why. -/
def chain : Failure → List String
  | .notOpened file path => [file.notOpened path]
  | .notParsed file path reason => [file.notParsed (Quoted.encode path), reason]
  | .invalid e => [e.message]
  | .notPlanned scope e => ["Planning failed for " ++ scope.render, e.message]
  | .notWritten path => ["Failed to write plan to '" ++ path ++ "'"]

/-- The report of a failure. -/
def report (f : Failure) : String :=
  String.intercalate "\n" ("Error:" :: f.chain.mapIdx fun i line => "   " ++ i.repr ++ ": " ++ line)

/-- The failure that an unreadable topology is. -/
def ofLoadError (path : String) : LoadError → Failure
  | .notYaml => .notParsed .topology path "not a YAML document"
  | .misfit e => .notParsed .topology path (e.render .yaml)
  | .invalid e => .invalid e

/-- The failure that an unreadable snapshot is. -/
def ofSnapshotError (path : String) : SnapshotError → Failure
  | .notJson => .notParsed .snapshot path "not a JSON document"
  | .misfit e => .notParsed .snapshot path (e.render .json)

end Failure

/-- A plan, made at some time, as text. -/
def Plan.render (generatedAt : String) (p : Plan) : PlanFormat → String
  | .yaml => Yaml.write (Encode.plan generatedAt p)
  | .json => Json.pretty (Encode.plan generatedAt p)

namespace Request

/-- The topology that a request plans with: what the file holds, with settings
replaced. -/
def topologyOf (r : Request) (text : String) : Except Failure Topology := do
  let t ← (Topology.load text).mapError (Failure.ofLoadError r.topology)
  let (t, verdict) := t.applyOverride r.settings
  verdict.mapError Failure.invalid
  pure t

/-- The memory that a request asks: what the snapshot holds, or nothing. -/
def memoryOf (path text : String) : Except Failure Memory := do
  let snapshot ← (Snapshot.load text).mapError (Failure.ofSnapshotError path)
  pure { snapshot }

/-- The plan that a request asks for. -/
def planOf (r : Request) (t : Topology) (m : Memory) : Except Failure Plan :=
  match t.plan r.scope m.backend with
  | .ok p _ => .ok p
  | .error e _ => .error (.notPlanned r.scope e)

end Request

end Interlink
