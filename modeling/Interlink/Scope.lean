/-!
# Scopes — where a resource lives, and where a unit runs

A deployment unit is one account in one region. The same pair says which unit
owns a resource and which unit is planning, so both are a `Scope`. Accounts go
by their configured names here; ids appear only where an identity has to be
assumed.
-/

namespace Interlink

/-- One account in one region. -/
structure Scope where
  account : String
  region : String
deriving DecidableEq, Repr, Inhabited

namespace Scope

/-- The text `account/region`.

Names may hold a slash, so two different scopes can have one text. It is
therefore good for a reader and for a label, never for telling scopes apart. -/
def render (s : Scope) : String := s.account ++ "/" ++ s.region

instance : ToString Scope := ⟨render⟩

/-- Whether both scopes belong to one account. -/
def sameAccount (a b : Scope) : Bool := a.account == b.account

/-- Whether both scopes are in one region. -/
def sameRegion (a b : Scope) : Bool := a.region == b.region

/-- Scopes are ordered by account and, inside one account, by region. -/
instance : Ord Scope where
  compare a b := (compare a.account b.account).then (compare a.region b.region)

/-- Equal scopes are those equal in both parts. -/
theorem eq_iff {a b : Scope} : a = b ↔ a.sameAccount b ∧ a.sameRegion b := by
  obtain ⟨aa, ar⟩ := a
  obtain ⟨ba, br⟩ := b
  simp [sameAccount, sameRegion]

end Scope

end Interlink
