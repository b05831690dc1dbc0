import Interlink.Kind
import Interlink.Scope

/-!
# Backends — whom a unit asks

A unit learns identifiers by asking: its own store of published values, the
store of another account or region through an identity, the shares of other
accounts, or the provisioning interface. The questions are one type, `Query`,
and a backend is whatever answers them.

A backend sees all earlier questions and answers when it answers a new one. So
it may change its mind, fail for a while, or count; one whose answers are fixed
is one that does not look at the past.
-/

namespace Interlink

/-- The identity under which another account or region is asked. Without a role
the caller uses its own credentials. -/
structure Identity where
  account : String
  accountId : String
  region : String
  roleName : Option String
deriving DecidableEq, Repr, Inhabited

/-- The scope that an identity reads. -/
def Identity.scope (i : Identity) : Scope := ⟨i.account, i.region⟩

/-- Why a question could not be answered. -/
inductive LookupError
  | accessDenied (accountId role : String)
  | throttled (attempts : Nat)
  | service (text : String)
deriving DecidableEq, Repr, Inhabited

def LookupError.message : LookupError → String
  | .accessDenied accountId role =>
    "access denied assuming role " ++ role ++ " in account " ++ accountId
  | .throttled attempts => "request throttled after " ++ toString attempts ++ " attempts"
  | .service text => "service error: " ++ text

/-- A question to a backend. -/
inductive Query
  /-- A value published in the caller's own scope. -/
  | localValue (scope : Scope) (path : String)
  /-- A value published in another scope. -/
  | remoteValue (identity : Identity) (path : String)
  /-- A resource that another account shares in a region. -/
  | share (kind : ResourceKind) (name ownerId region : String)
  /-- An attachment to a gateway, by its name. -/
  | attachment (identity : Identity) (gatewayId name : String)
deriving DecidableEq, Repr, Inhabited

/-- What a backend says. -/
inductive Answer
  | value (text : String)
  | missing
  | failed (error : LookupError)
deriving DecidableEq, Repr, Inhabited

/-- An answer from a value that may be there. -/
def Answer.ofOption : Option String → Answer
  | some text => .value text
  | none => .missing

/-- A question with its answer. -/
structure Exchange where
  query : Query
  answer : Answer
deriving DecidableEq, Repr, Inhabited

/-- Whatever answers questions, given the exchanges so far. -/
abbrev Backend := List Exchange → Query → Answer

/-- A backend with fixed answers. -/
def Backend.fixed (answer : Query → Answer) : Backend := fun _ q => answer q

/-! ## Counting questions -/

/-- How many questions of each sort have been asked. -/
structure CallCounts where
  localReads : Nat := 0
  shareLookups : Nat := 0
  remoteReads : Nat := 0
  providerLookups : Nat := 0
deriving DecidableEq, Repr, Inhabited

namespace CallCounts

/-- One more question. -/
def bump (c : CallCounts) : Query → CallCounts
  | .localValue .. => { c with localReads := c.localReads + 1 }
  | .remoteValue .. => { c with remoteReads := c.remoteReads + 1 }
  | .share .. => { c with shareLookups := c.shareLookups + 1 }
  | .attachment .. => { c with providerLookups := c.providerLookups + 1 }

end CallCounts

/-! ## Publishing -/

/-- A value to be published. -/
structure PublishCall where
  scope : Scope
  path : String
  value : String
deriving DecidableEq, Repr, Inhabited

/-- Whatever takes values to publish, given the calls so far: it takes a value,
or says why not. -/
abbrev Publisher := List PublishCall → PublishCall → Except LookupError Unit

end Interlink
