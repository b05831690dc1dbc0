/-!
# Route destinations

A route matches a block of addresses, written out or named by a prefix list.
-/

namespace Interlink

/-- The traffic that a planned route matches. -/
inductive Destination
  | cidr (block : String)
  | ipv6Cidr (block : String)
  | prefixList (name id : String)
deriving DecidableEq, Repr, Inhabited

namespace Destination

/-- The part of a route's key that stands for its destination: the block, or
the name of the list. -/
def label : Destination → String
  | .cidr block => block
  | .ipv6Cidr block => block
  | .prefixList name _ => name

/-- The destination as an operator reads it. -/
def render : Destination → String
  | .cidr block => block
  | .ipv6Cidr block => block
  | .prefixList name id => id ++ " (" ++ name ++ ")"

end Destination

end Interlink
