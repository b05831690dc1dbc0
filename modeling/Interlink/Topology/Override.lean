import Interlink.Topology.Validation

/-!
# Overrides

An operator may replace the prefix and the home region of a topology for one
run. The result is validated again, and it is the result that is kept either
way: an override that makes a topology invalid has still been made.
-/

namespace Interlink

/-- Settings to replace. -/
structure Override where
  pathPrefix : Option String
  homeRegion : Option String
deriving DecidableEq, Repr, Inhabited

namespace Topology

/-- The topology with some settings replaced. -/
def override (t : Topology) (o : Override) : Topology :=
  { t with settings :=
      { homeRegion := o.homeRegion.getD t.settings.homeRegion
        pathPrefix := o.pathPrefix.getD t.settings.pathPrefix } }

/-- Replace settings and validate what comes of it. -/
def applyOverride (t : Topology) (o : Override) : Topology × Except ValidationError Unit :=
  let t := t.override o
  (t, t.validate)

end Topology

end Interlink
