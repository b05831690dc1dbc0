import Interlink.UnitMap

/-!
# Edges between attachments and route tables

An attachment is associated with route tables and announces itself to route
tables; both are edges, and both are planned by the unit that owns the
attachment. The key of an edge depends only on the attachment and the name of
the table.

An edge that somebody else creates is skipped. Any other edge may be asked for
once: its key is noted when it is asked for, before anything else can go wrong,
so `EdgePlanning` keeps the noted keys also when a request fails.
-/

namespace Interlink

/-- The two sorts of edges. -/
inductive EdgeKind
  | association
  | propagation
deriving DecidableEq, Repr, Inhabited

/-- The spelling of a sort of edge, and the end of its logical ids. -/
def EdgeKind.label : EdgeKind → String
  | .association => "association"
  | .propagation => "propagation"

/-- The route tables that an attachment has edges of some sort to. -/
def Attachment.tables (a : Attachment) : EdgeKind → List String
  | .association => a.associations
  | .propagation => a.propagations

/-- Keys of edges, the two sorts apart. -/
structure EdgeKeys where
  associations : NameSet := .empty
  propagations : NameSet := .empty
deriving DecidableEq, Repr, Inhabited

namespace EdgeKeys

/-- Whether a key is there. -/
def contains (s : EdgeKeys) (kind : EdgeKind) (key : String) : Bool :=
  match kind with
  | .association => s.associations.contains key
  | .propagation => s.propagations.contains key

/-- The keys with one more. -/
def add (s : EdgeKeys) (kind : EdgeKind) (key : String) : EdgeKeys :=
  match kind with
  | .association => { s with associations := s.associations.add key }
  | .propagation => { s with propagations := s.propagations.add key }

/-- Whether there is no key. -/
def isEmpty (s : EdgeKeys) : Bool := s.associations.isEmpty && s.propagations.isEmpty

/-- The keys of the edges that a topology leaves to others. -/
def ofExternal (e : ExternalEdges) : EdgeKeys :=
  ⟨NameSet.ofNames e.associations, NameSet.ofNames e.propagations⟩

end EdgeKeys

/-- An edge to create. -/
structure Edge where
  kind : EdgeKind
  key : String
  logicalId : String
  attachmentKey : String
  attachmentId : String
  routeTable : String
  routeTableId : String
  scope : Scope
deriving DecidableEq, Repr, Inhabited

/-- An edge left to others. -/
structure SkippedEdge where
  kind : EdgeKind
  key : String
deriving DecidableEq, Repr, Inhabited

/-- The edges of one request. -/
structure EdgeBatch where
  edges : List Edge := []
  skipped : List SkippedEdge := []
deriving DecidableEq, Repr, Inhabited

/-- Two requests taken together. -/
def EdgeBatch.append (a b : EdgeBatch) : EdgeBatch := ⟨a.edges ++ b.edges, a.skipped ++ b.skipped⟩

instance : Append EdgeBatch := ⟨EdgeBatch.append⟩

/-- The edges of all attachments of a unit. -/
structure EdgeGraph where
  associations : EdgeBatch := {}
  propagations : EdgeBatch := {}
deriving DecidableEq, Repr, Inhabited

/-- Planning edges, with the keys that have been asked for. -/
abbrev EdgePlanning := EStateM PlanError EdgeKeys

namespace UnitMap

/-- The edge from an attachment to a route table, if both are resolved. -/
def edge (m : UnitMap) (kind : EdgeKind) (attachmentKey table : String) : Except PlanError Edge :=
  match m.attachments.get? attachmentKey with
  | none => .error (.misconfigured (.unresolvedAttachment attachmentKey) m.scope)
  | some a =>
    match m.routeTableId? a.descriptor.region a.descriptor.gateway table with
    | none => .error (.misconfigured (.undefinedRouteTable a.descriptor.gateway table) m.scope)
    | some tableId =>
      let account := if a.descriptor.templated then some a.descriptor.owner.account else none
      .ok
        { kind
          key := Key.edge attachmentKey table
          logicalId := Key.logicalId a.descriptor.name table account kind.label
          attachmentKey
          attachmentId := a.id
          routeTable := table
          routeTableId := tableId
          scope := m.scope }

/-- Plan the edge from an attachment to a route table. -/
def planEdge (m : UnitMap) (external : EdgeKeys) (kind : EdgeKind) (attachmentKey : String)
    (table : String) : EdgePlanning EdgeBatch := do
  let key := Key.edge attachmentKey table
  if external.contains kind key then pure { skipped := [⟨kind, key⟩] }
  else
    let requested ← get
    if requested.contains kind key then throw (.repeatedEdge key m.scope)
    set (requested.add kind key)
    match m.edge kind attachmentKey table with
    | .ok e => pure { edges := [e] }
    | .error e => throw e

/-- Plan the edges from an attachment to some route tables. -/
def planEdges (m : UnitMap) (external : EdgeKeys) (kind : EdgeKind) (attachmentKey : String) :
    List String → EdgePlanning EdgeBatch
  | [] => pure {}
  | table :: rest => do
    let first ← m.planEdge external kind attachmentKey table
    let others ← m.planEdges external kind attachmentKey rest
    pure (first ++ others)

/-- Plan the edges of one sort of some attachments. -/
def planAttachments (m : UnitMap) (external : EdgeKeys) (kind : EdgeKind) :
    List (String × ResolvedAttachment) → EdgePlanning EdgeBatch
  | [] => pure {}
  | (key, a) :: rest => do
    let first ← m.planEdges external kind key (a.descriptor.tables kind)
    let others ← m.planAttachments external kind rest
    pure (first ++ others)

/-- Plan all edges of a unit: the associations of its own attachments, then
their propagations. -/
def planGraph (m : UnitMap) (external : EdgeKeys) : EdgePlanning EdgeGraph := do
  let associations ← m.planAttachments external .association m.owned
  let propagations ← m.planAttachments external .propagation m.owned
  pure { associations, propagations }

end UnitMap

end Interlink
