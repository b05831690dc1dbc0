import Interlink.Backend
import Interlink.Memo
import Interlink.Role

/-!
# What a unit remembers

A unit keeps two memos for one run: the values it has learned, and the
identities under which it reads. A value is remembered under its path and its
owner, and every lookup that finds one is counted. An identity is kept under its
purpose and its owner, and made on first use.

Both are write-once: whatever was answered for a key is answered for it until
the run ends.
-/

namespace Interlink

/-- What a value is remembered under: where it was asked for, and whose it is. -/
structure RecallKey where
  path : String
  owner : Scope
deriving DecidableEq, Repr, Inhabited

/-- The values learned, and how often one was found again. -/
structure Recall where
  values : Memo RecallKey String := {}
  hits : Nat := 0
deriving DecidableEq, Repr, Inhabited

namespace Recall

/-- Look a value up, and count it if it is there. -/
def get (r : Recall) (k : RecallKey) : Option String × Recall :=
  match r.values.get? k with
  | some value => (some value, { r with hits := r.hits + 1 })
  | none => (none, r)

/-- Store a value unless the key has one, and answer the one that it has. -/
def insert (r : Recall) (k : RecallKey) (value : String) : String × Recall :=
  let (value, values) := r.values.remember k value
  (value, { r with values })

/-- The number of keys. -/
def size (r : Recall) : Nat := r.values.size

/-- Whether nothing is stored. -/
def isEmpty (r : Recall) : Bool := r.values.isEmpty

end Recall

/-- What an identity is kept under. -/
structure HelperKey where
  purpose : RolePurpose
  account : String
  region : String
deriving DecidableEq, Repr, Inhabited

/-- The identities in use. -/
abbrev Helpers := Memo HelperKey Identity

/-- The identity of a key, which is made if there is none yet. -/
def Helpers.getOrCreate (h : Helpers) (k : HelperKey) (create : Unit → Identity) :
    Identity × Helpers :=
  match h.get? k with
  | some identity => (identity, h)
  | none => h.remember k (create ())

end Interlink
