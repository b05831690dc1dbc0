import Interlink.Scope
import Interlink.Topology

/-!
# The registry of accounts

The registry answers two questions: what is the id of an account, and which
accounts is something deployed to. It keeps the accounts in the order of the
description, the first entry of a name standing for all entries of that name,
and an index from names to positions beside them.
-/

namespace Interlink

/-- The accounts of an organization, each once. -/
structure Registry where
  /-- The accounts, in the order of the description. -/
  accounts : List Account := []
  /-- The position of every account in `accounts`. -/
  index : List (String × Nat) := []
deriving DecidableEq, Repr, Inhabited

namespace Registry

/-- The registry with one more account, unless it has one of that name. -/
def add (r : Registry) (a : Account) : Registry :=
  match r.index.lookup a.name with
  | some _ => r
  | none =>
    { accounts := r.accounts ++ [a]
      index := r.index ++ [(a.name, r.accounts.length)] }

/-- The registry of a list of accounts. -/
def ofAccounts (accounts : List Account) : Registry := accounts.foldl add {}

/-- The number of accounts. -/
def size (r : Registry) : Nat := r.accounts.length

/-- Whether there is no account. -/
def isEmpty (r : Registry) : Bool := r.accounts.isEmpty

/-- The account of a name. -/
def get? (r : Registry) (name : String) : Option Account := do
  let position ← r.index.lookup name
  r.accounts[position]?

/-- The id of an account. -/
def accountId? (r : Registry) (name : String) : Option String := (r.get? name).map (·.id)

/-- The names of the accounts in an organizational unit. -/
def accountsIn (r : Registry) (organizationalUnit : String) : List String :=
  (r.accounts.filter fun a => a.organizationalUnit == some organizationalUnit).map (·.name)

/-- The names that a choice of accounts lists, before exclusions and with
repetitions: explicit accounts, then the members of each unit. -/
def candidates (r : Registry) (t : Targets) : List String :=
  t.accounts ++ t.organizationalUnits.flatMap r.accountsIn

/-- The first occurrence of every element. -/
def firstOccurrences (names : List String) : List String :=
  names.foldl (fun seen name => if seen.contains name then seen else seen ++ [name]) []

/-- The accounts of a choice, each once. -/
def resolveTargets (r : Registry) (t : Targets) : List String :=
  firstOccurrences ((r.candidates t).filter fun name => !t.excludedAccounts.contains name)

/-- The accounts of a placement. -/
def placed (r : Registry) : Placement → List String
  | .single account => [account]
  | .targets targets => r.resolveTargets targets

/-- The accounts that a VPC is deployed to. -/
def vpcAccounts (r : Registry) (v : Vpc) : List String := r.placed v.placement

end Registry

/-- The registry of a topology's accounts. -/
def Topology.registry (t : Topology) : Registry := .ofAccounts t.accounts

end Interlink
