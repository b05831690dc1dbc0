import Interlink.Address

/-!
# Blocks of addresses in slash notation

A block is an address, a slash and a prefix length that fits the address's
version. Only well-formedness matters here: bits of the address below the
prefix length may be set.
-/

namespace Interlink.Cidr

open Address

/-- A prefix length: decimal digits, with leading zeros and one plus sign in
front allowed. Lengths above 255 are refused here already; `parse?` refuses
those too long for the address. -/
def prefixLength? (cs : List Char) : Option Nat :=
  let digits := match cs with
    | '+' :: rest => rest
    | _ => cs
  (Digit.natural? 10 digits).filter (· < 256)

/-- The longest prefix that an address has. -/
def maxLength : Address → Nat
  | .v4 _ => 32
  | .v6 _ => 128

/-- The text before the first slash and the text after it. -/
def splitSlash : List Char → Option (List Char × List Char)
  | [] => none
  | c :: rest =>
    if c = '/' then some ([], rest)
    else (splitSlash rest).map fun (before, after) => (c :: before, after)

/-- Read a block. -/
def parse? (s : String) : Option (Address × Nat) := do
  let (before, after) ← splitSlash s.toList
  let address ← Address.parse? before
  let length ← prefixLength? after
  if length ≤ maxLength address then pure (address, length) else none

/-- Whether a text is a block of either version. -/
def valid (s : String) : Bool := (parse? s).isSome

/-- Whether a text is a version 4 block. -/
def validV4 (s : String) : Bool :=
  match parse? s with
  | some (.v4 _, _) => true
  | _ => false

/-- Whether a text is a version 6 block. -/
def validV6 (s : String) : Bool :=
  match parse? s with
  | some (.v6 _, _) => true
  | _ => false

/-- A block is of exactly one version. -/
theorem valid_eq (s : String) : valid s = (validV4 s ^^ validV6 s) := by
  unfold valid validV4 validV6
  match parse? s with
  | none => rfl
  | some (.v4 _, _) => rfl
  | some (.v6 _, _) => rfl

end Interlink.Cidr
