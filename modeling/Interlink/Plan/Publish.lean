import Interlink.Backend.Memory
import Interlink.Plan

/-!
# Publishing what a plan has created

When the resources of a plan exist, their ids are published for other units to
read. The publications are gone through in the order of the plan; one whose
resource was not created is passed over, and the first failure is the last call.
-/

namespace Interlink

/-- What became of publishing. -/
structure Publishing where
  /-- The values that were taken, in order. -/
  stored : List PublishCall
  /-- The value that was not taken, which is the last one tried. -/
  refused : Option (PublishCall × LookupError)
deriving DecidableEq, Repr

namespace Publishing

/-- Every call that was made. -/
def calls (p : Publishing) : List PublishCall := p.stored ++ p.refused.toList.map (·.1)

/-- How many values were published, or the failure. -/
def result (p : Publishing) : Except PlanError Nat :=
  match p.refused with
  | none => .ok p.stored.length
  | some (c, e) => .error (.lookupFailed c.path c.scope e)

/-- Make calls until one fails; `stored` has been taken already. -/
def run (publisher : Publisher) (stored : List PublishCall) : List PublishCall → Publishing
  | [] => ⟨stored, none⟩
  | c :: rest =>
    match publisher stored c with
    | .ok () => run publisher (stored ++ [c]) rest
    | .error e => ⟨stored, some (c, e)⟩

end Publishing

namespace Plan

/-- The calls that publish what was created, in the order of the plan. -/
def publishCalls (p : Plan) (created : SortedMap String) : List PublishCall :=
  p.peering.publications.filterMap fun publication =>
    (created.get? publication.resourceKey).map fun id =>
      ⟨publication.scope, publication.path, id⟩

/-- Publish what was created. -/
def publish (p : Plan) (created : SortedMap String) (publisher : Publisher) : Publishing :=
  .run publisher [] (p.publishCalls created)

end Plan

/-- A memory that has taken published values. -/
def Memory.publishAll (m : Memory) (calls : List PublishCall) : Memory := calls.foldl publish m

end Interlink
