import Interlink.Topology.Decode
import Interlink.Topology.Validation
import Interlink.Yaml.Node

/-!
# Loading a topology from text

A text becomes a topology in three steps, each with failures of its own: the
text must be YAML, what it says must have the shape of a topology, and the
topology must be valid.
-/

namespace Interlink

/-- Why a text is no topology. -/
inductive LoadError
  | notYaml
  | misfit (error : DecodeError)
  | invalid (error : ValidationError)
deriving DecidableEq, Repr

namespace Topology

/-- Levels of collections that a document may have. -/
def depthLimit : Nat := 128

/-- The topology that a text describes. A document that is no topology is not
even YAML if it has no value at all; what a topology leaves unread is not looked
at. -/
def load (text : String) : Except LoadError Topology := do
  let d ← (Yaml.parse text).mapError fun _ => LoadError.notYaml
  let t ← (Decode.topology .yaml d).mapError fun e =>
    if d.hasValue depthLimit then LoadError.misfit e else LoadError.notYaml
  t.validate.mapError LoadError.invalid
  pure t

end Topology

end Interlink
