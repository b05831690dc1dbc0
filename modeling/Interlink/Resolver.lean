import Interlink.PlanError
import Interlink.Recall
import Interlink.Reference
import Interlink.Registry

/-!
# Resolution across accounts and regions

A unit needs an identifier that some scope published. How it can learn it
depends on who owns it:

- the unit's own values are read locally;
- another region of its own account is read remotely, with the unit's own
  credentials if that region is the home region;
- a resource that another account of the region shares is found through the
  share, and read remotely if it is not shared after all;
- anything else is read remotely under an assumed role.

A `Vantage` is where the unit stands and whom it asks. A `Run` is what it has
learned and done so far; it survives a failed lookup, because what was asked has
been asked. Every value is remembered under its path and owner, so nothing is
asked twice. The journal of a run keeps every request and every exchange in
order, and the laws about a run are laws about its journal.
-/

namespace Interlink

/-! ## Standpoint and state -/

/-- Where a unit stands, and whom it asks. -/
structure Vantage where
  backend : Backend
  accounts : Registry
  /-- The scope that the unit runs in. -/
  caller : Scope
  /-- The region that deployments run from. -/
  homeRegion : String
  /-- The first part of paths and role names. -/
  pathPrefix : String

/-- Something that happened in a run. -/
inductive Event
  /-- A value was requested. -/
  | requested (key : RecallKey)
  /-- The backend was asked. -/
  | exchanged (exchange : Exchange)
deriving DecidableEq, Repr, Inhabited

/-- What a unit has learned and done so far. -/
structure Run where
  /-- The values learned. -/
  values : Recall := {}
  /-- The identities in use. -/
  helpers : Helpers := {}
  /-- How often each sort of question was asked. -/
  counts : CallCounts := {}
  /-- Requests and exchanges, in order. -/
  journal : List Event := []
  /-- The keys of the peering routes planned so far. -/
  plannedRoutes : NameSet := .empty
deriving DecidableEq, Repr, Inhabited

/-- The exchanges among events. -/
def Event.exchange? : Event → Option Exchange
  | .requested _ => none
  | .exchanged e => some e

/-- The exchanges of a run, in order. -/
def Run.exchanges (s : Run) : List Exchange := s.journal.filterMap Event.exchange?

/-- The questions of a run, in order. -/
def Run.queries (s : Run) : List Query := s.exchanges.map (·.query)

/-- Looking something up: it may fail, and what was learned and done is kept
either way. -/
abbrev Lookup := EStateM PlanError Run

namespace Lookup

/-- A result that needs no question. -/
def ofExcept {α : Type} : Except PlanError α → Lookup α
  | .ok a => pure a
  | .error e => throw e

end Lookup

/-- How a value is learned. -/
inductive Strategy
  | local
  | resourceShare
  | sameAccountRemote (role : Option String)
  | assumedIdentity (role : String)
deriving DecidableEq, Repr, Inhabited

namespace Vantage

/-- The id of an account, which must be a member of the organization. -/
def requireId (accounts : Registry) (account : String) (scope : Scope) :
    Except PlanError String :=
  match accounts.accountId? account with
  | some id => .ok id
  | none => .error (.misconfigured (.unknownAccount account) scope)

/-! ## Strategy -/

/-- How a value of some kind is learned from its owner. -/
def strategy (v : Vantage) (kind : ResourceKind) (owner : Scope) : Strategy :=
  let role := RolePurpose.parameterShare.roleName v.pathPrefix owner.region
  if owner = v.caller then .local
  else if owner.sameAccount v.caller then
    .sameAccountRemote (if owner.region = v.homeRegion then none else some role)
  else if owner.sameRegion v.caller && kind.shareable then .resourceShare
  else .assumedIdentity role

/-! ## Asking -/

/-- Ask the backend, and note the exchange. -/
def ask (v : Vantage) (q : Query) : Lookup Answer := do
  let s ← get
  let answer := v.backend s.exchanges q
  set { s with
    counts := s.counts.bump q
    journal := s.journal ++ [Event.exchanged ⟨q, answer⟩] }
  pure answer

/-- Ask for a value of an owner. A question that fails is an error with the
value's path and owner. -/
def askFor (v : Vantage) (path : String) (owner : Scope) (q : Query) :
    Lookup (Option String) := do
  match ← v.ask q with
  | .value text => pure (some text)
  | .missing => pure none
  | .failed e => throw (.lookupFailed path owner e)

/-- The identity for an owner. The first one that was made for the purpose and
the owner is used throughout. -/
def identity (v : Vantage) (purpose : RolePurpose) (owner : Scope) (role : Option String) :
    Lookup Identity := do
  let id ← Lookup.ofExcept (requireId v.accounts owner.account v.caller)
  let s ← get
  let (identity, helpers) := s.helpers.getOrCreate ⟨purpose, owner.account, owner.region⟩
    fun _ => ⟨owner.account, id, owner.region, role⟩
  set { s with helpers }
  pure identity

/-- Read a value in its owner's store. -/
def readRemote (v : Vantage) (r : Reference) (owner : Scope) (role : Option String) :
    Lookup (Option String) := do
  let identity ← v.identity .parameterShare owner role
  v.askFor r.path owner (.remoteValue identity r.path)

/-- Find a value through its owner's share, or else in the owner's store. -/
def readShared (v : Vantage) (r : Reference) (owner : Scope) : Lookup (Option String) := do
  let ownerId ← Lookup.ofExcept (requireId v.accounts owner.account v.caller)
  match ← v.askFor r.path owner (.share r.kind r.name ownerId owner.region) with
  | some id => pure (some id)
  | none =>
    v.readRemote r owner (some (RolePurpose.parameterShare.roleName v.pathPrefix owner.region))

/-- Learn a value, without regard to what is remembered. -/
def fetch (v : Vantage) (r : Reference) (owner : Scope) : Lookup (Option String) :=
  match v.strategy r.kind owner with
  | .local => v.askFor r.path owner (.localValue owner r.path)
  | .resourceShare => v.readShared r owner
  | .sameAccountRemote role => v.readRemote r owner role
  | .assumedIdentity role => v.readRemote r owner (some role)

/-! ## Remembering -/

/-- A value under its key: the remembered one, or the one that is fetched now,
which is then remembered. Nothing is remembered of a fetch that fails or comes
back empty; an empty one is an error with the given path. -/
def recalled (key : RecallKey) (path : String) (fetch : Lookup (Option String)) :
    Lookup String := do
  modify fun s => { s with journal := s.journal ++ [Event.requested key] }
  let s ← get
  let (known, values) := s.values.get key
  set { s with values }
  match known with
  | some value => pure value
  | none =>
    match ← fetch with
    | none => throw (.notFound path key.owner)
    | some value =>
      let s ← get
      let (value, values) := s.values.insert key value
      set { s with values }
      pure value

/-- The value of a reference, as its owner published it. -/
def resolve (v : Vantage) (r : Reference) (owner : Scope) : Lookup String :=
  recalled ⟨r.path, owner⟩ r.path (v.fetch r owner)

/-- The value of something published, as its owner published it. -/
def learn (v : Vantage) (p : Published) (owner : Scope) : Lookup String :=
  v.resolve (p.reference v.pathPrefix) owner

/-- The key of a foreign attachment: its path, and the gateway it is on. -/
def attachmentRecallKey (path gatewayId : String) (owner : Scope) : RecallKey :=
  ⟨path ++ "@" ++ gatewayId, owner⟩

/-- The id of an attachment. The unit reads its own; for that of another owner
it asks the provisioning interface in the owner's account. -/
def resolveAttachment (v : Vantage) (kind : AttachmentKind) (child name gatewayId : String)
    (owner : Scope) : Lookup String :=
  let r := (Published.attachment kind child name).reference v.pathPrefix
  if owner = v.caller then v.resolve r owner
  else
    recalled (attachmentRecallKey r.path gatewayId owner) r.path do
      let role := RolePurpose.describeAttachments.roleName v.pathPrefix owner.region
      let identity ← v.identity .describeAttachments owner (some role)
      v.askFor r.path owner (.attachment identity gatewayId name)

end Vantage

/-! ## Statistics -/

/-- How a run has learned what it knows. -/
structure LookupStats where
  counts : CallCounts
  cacheHits : Nat
  helpers : Nat
deriving DecidableEq, Repr, Inhabited

/-- The statistics of a run. -/
def Run.stats (s : Run) : LookupStats := ⟨s.counts, s.values.hits, s.helpers.size⟩

end Interlink
