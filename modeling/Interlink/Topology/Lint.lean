import Interlink.Topology

/-!
# Lint — what is valid and yet hardly meant

Three things can be described that no unit will object to and that do nothing:
a peering without a route over it, a prefix list without a block, and a route
table that nothing uses.
-/

namespace Interlink

/-- Something suspicious in a topology. -/
inductive Warning
  | unroutedPeering (name : String)
  | emptyPrefixList (name : String)
  | unusedRouteTable (table gateway : String)
deriving DecidableEq, Repr, Inhabited

def Warning.message : Warning → String
  | .unroutedPeering name =>
    "Peering '" ++ name ++ "' has no routes targeting it; traffic will not flow over it"
  | .emptyPrefixList name => "Prefix list '" ++ name ++ "' has no entries"
  | .unusedRouteTable table gateway =>
    "Route table '" ++ table ++ "' of gateway '" ++ gateway ++ "' is never used"

namespace Topology

/-- Whether some route of a peered VPC leads over the peering. -/
def isRouted (t : Topology) (p : VpcPeering) : Bool :=
  (t.network.vpcs.filter fun v => p.vpcs.contains v.name).any fun v =>
    v.routeTables.any fun table => table.routes.any (·.targetsPeering p.name)

/-- Whether some attachment of a VPC is associated with the route table or
announces itself to it. -/
def isUsed (t : Topology) (g : Gateway) (table : String) : Bool :=
  t.network.vpcs.any fun v => v.attachments.any fun a =>
    a.gateway.name == g.name && a.gateway.account == g.account &&
      (a.associations.contains table || a.propagations.contains table)

/-- What is suspicious, peerings first, then prefix lists and route tables. -/
def lint (t : Topology) : List Warning :=
  (t.network.vpcPeerings.filter fun p => !t.isRouted p).map (.unroutedPeering ·.name) ++
    (t.network.prefixLists.filter (·.entries.isEmpty)).map (.emptyPrefixList ·.name) ++
    t.network.gateways.flatMap fun g =>
      (g.routeTables.filter fun table => !t.isUsed g table.name && table.routes.isEmpty).map
        (.unusedRouteTable ·.name g.name)

end Topology

end Interlink
