import Interlink.Text.Digit

/-!
# Internet addresses as text

An address is read from the front of a list of characters; the reader answers
the address and what is left. Version 4 is four decimal octets, version 6 is
eight hexadecimal groups, of which one run of zero groups may be left out as
`::` and the last two may be written as a version 4 address.

Nothing looks ahead by more than one separator: a group that cannot be read
ends its run, with the separator before it unread.
-/

namespace Interlink.Address

/-! ## Version 4 -/

/-- The four octets of a version 4 address. -/
structure V4 where
  a : UInt8
  b : UInt8
  c : UInt8
  d : UInt8
deriving DecidableEq, Repr, Inhabited

/-- One octet: at most three digits, no leading zero, at most 255. -/
def octet (cs : List Char) : Option (UInt8 × List Char) :=
  match Digit.span 10 cs with
  | ([], _) => none
  | (d :: ds, rest) =>
    let n := Digit.toNat 10 (d :: ds)
    if ds.length < 3 ∧ (d = 0 → ds = []) ∧ n < 256 then some (UInt8.ofNat n, rest) else none

/-- One given character. -/
def expect (c : Char) : List Char → Option (List Char)
  | [] => none
  | c' :: rest => if c' = c then some rest else none

/-- Four octets with dots between them. -/
def V4.read (cs : List Char) : Option (V4 × List Char) := do
  let (a, cs) ← octet cs
  let (b, cs) ← octet (← expect '.' cs)
  let (c, cs) ← octet (← expect '.' cs)
  let (d, cs) ← octet (← expect '.' cs)
  pure (⟨a, b, c, d⟩, cs)

/-- The two groups that a version 4 address stands for inside version 6. -/
def V4.groups (v : V4) : List UInt16 :=
  [v.a.toUInt16 * 256 + v.b.toUInt16, v.c.toUInt16 * 256 + v.d.toUInt16]

/-! ## Version 6 -/

/-- The eight groups of a version 6 address. -/
structure V6 where
  groups : List UInt16
deriving DecidableEq, Repr, Inhabited

/-- One group: one to four hexadecimal digits, leading zeros allowed. -/
def group (cs : List Char) : Option (UInt16 × List Char) :=
  match Digit.span 16 cs with
  | ([], _) => none
  | (d :: ds, rest) =>
    if ds.length < 4 then some (UInt16.ofNat (Digit.toNat 16 (d :: ds)), rest) else none

/-- A run of groups, as read from the front of a text. -/
structure Groups where
  groups : List UInt16
  /-- Whether the run ends in a version 4 address, after which nothing follows. -/
  embedded : Bool
  rest : List Char
deriving Repr

/-- The separator before every group but the first of a run. -/
def separator (first : Bool) (cs : List Char) : Option (List Char) :=
  if first then some cs else expect ':' cs

/-- Read up to `room` groups. A version 4 address counts as two groups, so it
is tried only where two are left. -/
def readGroups (first : Bool) : Nat → List Char → Groups
  | 0, cs => ⟨[], false, cs⟩
  | room + 1, cs =>
    let v4 := if room = 0 then none else (separator first cs).bind V4.read
    match v4 with
    | some (v, rest) => ⟨v.groups, true, rest⟩
    | none =>
      match (separator first cs).bind group with
      | some (g, rest) =>
        let run := readGroups false room rest
        ⟨g :: run.groups, run.embedded, run.rest⟩
      | none => ⟨[], false, cs⟩

/-- Eight groups, or fewer with one `::` that stands for at least one group. -/
def V6.read (cs : List Char) : Option (V6 × List Char) := do
  let head := readGroups true 8 cs
  if head.groups.length = 8 then
    pure (⟨head.groups⟩, head.rest)
  else if head.embedded then
    none
  else
    let cs ← expect ':' (← expect ':' head.rest)
    let tail := readGroups true (7 - head.groups.length) cs
    let zeros := List.replicate (8 - head.groups.length - tail.groups.length) 0
    pure (⟨head.groups ++ zeros ++ tail.groups⟩, tail.rest)

/-! ## Either version -/

end Interlink.Address

namespace Interlink

/-- An internet address of either version. -/
inductive Address
  | v4 (address : Address.V4)
  | v6 (address : Address.V6)
deriving DecidableEq, Repr

/-- Read a whole text as an address. Version 4 is tried first; a text that
starts as one and goes on is no address at all. -/
def Address.parse? (cs : List Char) : Option Address :=
  match Address.V4.read cs with
  | some (v, []) => some (.v4 v)
  | some _ => none
  | none =>
    match Address.V6.read cs with
    | some (v, []) => some (.v6 v)
    | _ => none

end Interlink
