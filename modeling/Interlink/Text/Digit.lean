/-!
# Digits

Numbers are read from lists of characters in two steps: the digits at the front
are split off, and the number is computed from their values. Only the ASCII
digits and letters are digits here; the digits of other scripts are a matter of
`Interlink.Text.DecimalDigit`.
-/

namespace Interlink.Digit

/-- The value of a digit in a base up to sixteen. -/
def value? (base : Nat) (c : Char) : Option Nat :=
  let value :=
    if '0' ≤ c ∧ c ≤ '9' then some (c.toNat - '0'.toNat)
    else if 'a' ≤ c ∧ c ≤ 'f' then some (c.toNat - 'a'.toNat + 10)
    else if 'A' ≤ c ∧ c ≤ 'F' then some (c.toNat - 'A'.toNat + 10)
    else none
  value.filter (· < base)

/-- The values of the digits at the front, and what follows them. -/
def span (base : Nat) : List Char → List Nat × List Char
  | [] => ([], [])
  | c :: rest =>
    match value? base c with
    | some d =>
      let (ds, after) := span base rest
      (d :: ds, after)
    | none => ([], c :: rest)

/-- The number that a list of digits writes. -/
def toNat (base : Nat) (digits : List Nat) : Nat := digits.foldl (fun n d => n * base + d) 0

/-- A text of digits alone, and of one digit at least. -/
def natural? (base : Nat) (cs : List Char) : Option Nat :=
  match span base cs with
  | (d :: ds, []) => some (toNat base (d :: ds))
  | _ => none

end Interlink.Digit
