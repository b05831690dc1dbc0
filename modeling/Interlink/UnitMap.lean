import Interlink.Attachment
import Interlink.Resolver

/-!
# The map of a unit

Before a unit plans anything it resolves what concerns it: the gateways it owns
with their route tables, every attachment to those gateways, the attachments it
owns itself with the foreign gateways and route tables that they need, and the
prefix lists deployed to it. All later stages read this map by key.

Foreign identifiers are asked for only where an attachment of the unit needs
them, and after the attachment's own id is known as far as the gateway goes:
a unit reads the id of its own attachment without the gateway's id.
-/

namespace Interlink

/-- An attachment with its id and that of its gateway. -/
structure ResolvedAttachment where
  id : String
  gatewayId : String
  descriptor : Attachment
deriving DecidableEq, Repr, Inhabited

/-- What a unit has resolved. -/
structure UnitMap where
  scope : Scope
  /-- Gateway ids by gateway key. -/
  gateways : SortedMap String := .empty
  /-- Route table ids by region and by route table key. -/
  routeTables : SortedMap (SortedMap String) := .empty
  /-- Attachments by attachment key. -/
  attachments : SortedMap ResolvedAttachment := .empty
  /-- Prefix list ids by name. -/
  prefixLists : SortedMap String := .empty
  /-- The keys of the route tables that were not read locally. -/
  remoteRouteTables : NameSet := .empty
deriving DecidableEq, Repr, Inhabited

namespace UnitMap

/-- The id of a gateway. -/
def gatewayId? (m : UnitMap) (gateway account : String) : Option String :=
  m.gateways.get? (Key.gateway gateway account)

/-- The id of a route table. -/
def routeTableId? (m : UnitMap) (region gateway table : String) : Option String :=
  (m.routeTables.get? region).bind (·.get? (Key.routeTable gateway table))

/-- Whether a route table has been resolved. -/
def hasRouteTable (m : UnitMap) (region gateway table : String) : Bool :=
  (m.routeTableId? region gateway table).isSome

/-- The attachments that the unit owns, in the order of their keys. -/
def owned (m : UnitMap) : List (String × ResolvedAttachment) :=
  m.attachments.entries.filter fun e => e.2.descriptor.owner == m.scope

/-- The map with a gateway. -/
def addGateway (m : UnitMap) (gateway account id : String) : UnitMap :=
  { m with gateways := m.gateways.insert (Key.gateway gateway account) id }

/-- The map with a route table. -/
def addRouteTable (m : UnitMap) (region gateway table id : String) : UnitMap :=
  let inRegion := (m.routeTables.get? region).getD .empty
  { m with
    routeTables := m.routeTables.insert region (inRegion.insert (Key.routeTable gateway table) id) }

/-- The map with a route table that was not read locally. -/
def addRemoteRouteTable (m : UnitMap) (region gateway table id : String) : UnitMap :=
  let m := m.addRouteTable region gateway table id
  { m with remoteRouteTables := m.remoteRouteTables.add (Key.routeTable gateway table) }

/-- The map with an attachment. -/
def addAttachment (m : UnitMap) (key : String) (a : ResolvedAttachment) : UnitMap :=
  { m with attachments := m.attachments.insert key a }

/-- The map with a prefix list. -/
def addPrefixList (m : UnitMap) (name id : String) : UnitMap :=
  { m with prefixLists := m.prefixLists.insert name id }

/-! ## Gateways of the unit -/

/-- Resolve a route table of an own gateway. -/
def resolveRouteTable (v : Vantage) (g : Gateway) (m : UnitMap) (table : GatewayRouteTable) :
    Lookup UnitMap := do
  let id ← v.learn (.transitGatewayRouteTable g.name table.name) v.caller
  pure (m.addRouteTable g.region g.name table.name id)

/-- Resolve an own gateway and its route tables. -/
def resolveGateway (v : Vantage) (m : UnitMap) (g : Gateway) : Lookup UnitMap := do
  let id ← v.learn (.transitGateway g.name) v.caller
  g.routeTables.foldlM (resolveRouteTable v g) (m.addGateway g.name g.account id)

/-- The gateways of a scope. -/
def ownGateways (t : Topology) (scope : Scope) : List Gateway :=
  t.network.gateways.filter fun g => g.account == scope.account && g.region == scope.region

/-! ## Attachments -/

/-- Resolve a route table of a foreign gateway, unless it is known. A table that
the gateway does not define is left out; it is reported when an edge to it is
planned. -/
def resolveRemoteRouteTable (v : Vantage) (a : Attachment) (g : Gateway) (m : UnitMap)
    (table : String) : Lookup UnitMap := do
  if !g.hasRouteTable table || m.hasRouteTable a.region g.name table then pure m
  else
    let id ← v.learn (.transitGatewayRouteTable g.name table) a.gatewayScope
    pure (m.addRemoteRouteTable a.region g.name table id)

/-- Resolve the route tables of a foreign gateway that an own attachment
names. -/
def resolveRemoteRouteTables (v : Vantage) (t : Topology) (m : UnitMap) (a : Attachment) :
    Lookup UnitMap :=
  match t.gateway? a.gateway a.gatewayAccount with
  | none => pure m
  | some g => (a.associations ++ a.propagations).foldlM (resolveRemoteRouteTable v a g) m

/-- Whether a unit owns the gateway's account. -/
def ownsGateway (scope : Scope) (a : Attachment) : Bool := a.gatewayAccount == scope.account

/-- Whether an attachment concerns a unit: it is on a gateway of the unit's
account and region, or it is the unit's own. -/
def concerns (scope : Scope) (a : Attachment) : Bool :=
  a.region == scope.region && (ownsGateway scope a || a.owner == scope)

/-- Resolve an attachment that concerns the unit. -/
def resolveAttachment (v : Vantage) (t : Topology) (m : UnitMap) (a : Attachment) :
    Lookup UnitMap := do
  let isOwn := a.owner == v.caller
  if m.attachments.contains a.key then
    throw (.misconfigured (.sharedAttachmentKey a.key) v.caller)
  let m ←
    if isOwn && !ownsGateway v.caller a then resolveRemoteRouteTables v t m a else pure m
  let known := m.gatewayId? a.gateway a.gatewayAccount
  if known.isNone && !isOwn then
    throw (.notFound (Key.gateway a.gateway a.gatewayAccount) v.caller)
  let id ← v.resolveAttachment a.kind a.child a.name (known.getD "") a.owner
  match known with
  | some gatewayId => pure (m.addAttachment a.key ⟨id, gatewayId, a⟩)
  | none =>
    let gatewayId ← v.learn (.transitGateway a.gateway) a.gatewayScope
    pure ((m.addGateway a.gateway a.gatewayAccount gatewayId).addAttachment a.key
      ⟨id, gatewayId, a⟩)

/-! ## The whole -/

/-- Resolve a prefix list that is deployed to the unit. -/
def resolvePrefixList (v : Vantage) (m : UnitMap) (l : PrefixList) : Lookup UnitMap := do
  let id ← v.learn (.prefixList l.name) v.caller
  pure (m.addPrefixList l.name id)

/-- The map of the unit at a vantage point. -/
def build (v : Vantage) (t : Topology) : Lookup UnitMap := do
  let m ← (ownGateways t v.caller).foldlM (resolveGateway v) { scope := v.caller }
  let attachments ← Lookup.ofExcept (t.attachments v.accounts v.caller)
  let m ← (attachments.filter (concerns v.caller)).foldlM (resolveAttachment v t) m
  (t.network.prefixLists.filter (·.isDeployedTo v.caller.account v.caller.region)).foldlM
    (resolvePrefixList v) m

end UnitMap

end Interlink
