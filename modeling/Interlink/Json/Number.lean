import Interlink.Number.Binary64
import Interlink.Text.Digit

/-!
# Numbers of JSON text

A number is digits, perhaps behind a minus sign, with a point and an exponent.
How it is spelled and what it stands for are kept apart, because a number that
nobody wants has to be spelled well and need not stand for anything.

A whole number of 64 bits stands for itself. Any other number is rounded, by a
rule that is quick and not exact: as many of its digits count as fit 64 bits,
and their value is multiplied or divided by a power of ten. Digits, power and
result are each rounded, so the result can differ in its last digit from the
value nearest to the number. A number beyond all values stands for nothing.
-/

namespace Interlink.Json

/-! ## Spelling -/

/-- How a number is spelled. -/
structure Numeral where
  negative : Bool
  /-- The digits before the point. -/
  whole : List Nat
  /-- The digits behind the point, if there is one. -/
  fraction : Option (List Nat)
  exponent : Option Int
deriving DecidableEq, Repr

/-- The digits before the point: no digit follows a leading zero. -/
def wholeDigits? (cs : List Char) : Option (List Nat × List Char) :=
  match Digit.span 10 cs with
  | ([], _) => none
  | (0 :: _ :: _, _) => none
  | (ds, rest) => some (ds, rest)

/-- A point and at least one digit, or nothing. -/
def fraction? : List Char → Option (Option (List Nat) × List Char)
  | '.' :: rest =>
    match Digit.span 10 rest with
    | ([], _) => none
    | (ds, rest) => some (some ds, rest)
  | cs => some (none, cs)

/-- An exponent, or nothing. -/
def exponent? : List Char → Option (Option Int × List Char)
  | [] => some (none, [])
  | c :: rest =>
    if c = 'e' ∨ c = 'E' then
      let (negative, digits) := match rest with
        | '-' :: ds => (true, ds)
        | '+' :: ds => (false, ds)
        | ds => (false, ds)
      match Digit.span 10 digits with
      | ([], _) => none
      | (ds, rest) =>
        let n : Int := Digit.toNat 10 ds
        some (some (if negative then -n else n), rest)
    else some (none, c :: rest)

/-- A number at the front of a text, and what follows it. -/
def numeral? (cs : List Char) : Option (Numeral × List Char) := do
  let (negative, cs) := match cs with
    | '-' :: rest => (true, rest)
    | cs => (false, cs)
  let (whole, rest) ← wholeDigits? cs
  let (fraction, rest) ← fraction? rest
  let (exponent, rest) ← exponent? rest
  pure (⟨negative, whole, fraction, exponent⟩, rest)

/-! ## Value -/

/-- The number that `n` followed by digits spells, as long as it has 64 bits,
and the digits that are left. -/
def counted (n : Nat) : List Nat → Nat × List Nat
  | [] => (n, [])
  | d :: ds => if 10 * n + d < twoTo 64 then counted (10 * n + d) ds else (n, d :: ds)

/-- The largest exponent of a power of ten that is a value. -/
def greatestPower : Nat := 308

/-- The value nearest to a power of ten. -/
def power (n : Nat) : Binary64 := Binary64.ofDecimal false 1 n

/-- `n · 10 ^ exponent` in steps that are each rounded: one product, or a
quotient by each of the powers that make up the exponent. Two such powers leave
nothing of 64 bits. -/
def scaled? (n : Nat) (exponent : Int) : Option Binary64 :=
  let v := Binary64.ofNat n
  let least : Int := -greatestPower
  if n = 0 then some v
  else if 0 ≤ exponent then
    if greatestPower < exponent then none
    else
      match v.mul (power exponent.toNat) with
      | .infinite _ => none
      | w => some w
  else if least ≤ exponent then some (v.div (power (-exponent).toNat))
  else if 2 * least ≤ exponent then
    some ((v.div (power greatestPower)).div (power (least - exponent).toNat))
  else some (Binary64.ofNat 0)

namespace Numeral

/-- The value of a number with a point, an exponent or more than 64 bits, without
its sign. -/
def rounded? (x : Numeral) : Option Binary64 :=
  let fraction := x.fraction.getD []
  let (n, leftWhole) := counted 0 x.whole
  let (n, leftFraction) := counted n fraction
  let shift : Int := leftWhole.length - (fraction.length - leftFraction.length : Nat)
  scaled? n (shift + x.exponent.getD 0)

/-- The whole number that a number spells, if it does and has 64 bits. There is
no whole number for minus zero. -/
def int? (x : Numeral) : Option Int :=
  let n := Digit.toNat 10 x.whole
  if x.fraction.isSome || x.exponent.isSome then none
  else if x.negative then if n = 0 ∨ twoTo 63 < n then none else some (-n)
  else if n < twoTo 64 then some n
  else none

/-- What a number stands for. -/
def value? (x : Numeral) : Option Number :=
  match x.int? with
  | some n => some (.int n)
  | none =>
    x.rounded?.map fun
      | .finite _ m q => .float (.finite x.negative m q)
      | v => .float v

end Numeral

end Interlink.Json
