/-!
# Binary floating point — the nearest value, and the shortest digits

A number written with a point or an exponent stands for the nearest value of
the form `m · 2 ^ q` with 53 bits of `m`. Both directions work on whole
numbers, so nothing here rounds twice: a decimal is compared with the grid of
such values as a quotient of naturals, and a value is printed with the fewest
digits that lie nearer to it than to any other value.

A product and a quotient of two values are the exact ones, rounded once. How
digits are laid out, and where a tie between two of the same length goes, is for
the printer to say: a `Layout` holds both.
-/

namespace Interlink

/-- The number of values of so many bits. -/
def twoTo (n : Nat) : Nat := Nat.pow 2 n

/-- The number of values of so many decimal digits. -/
def tenTo (n : Nat) : Nat := Nat.pow 10 n

/-- A value of 64-bit binary floating point. -/
inductive Binary64
  /-- The value `± mantissa · 2 ^ exponent`. -/
  | finite (negative : Bool) (mantissa : Nat) (exponent : Int)
  | infinite (negative : Bool)
  | nan
deriving DecidableEq, Repr, Inhabited

namespace Binary64

/-- Quotient rounded to the nearest whole number, a half going to the even
neighbour. -/
def roundDiv (num den : Nat) : Nat :=
  let quotient := num / den
  let twice := 2 * (num % den)
  if twice > den ∨ (twice = den ∧ quotient % 2 = 1) then quotient + 1 else quotient

/-- The number of binary digits. -/
def bits (n : Nat) : Nat := if n = 0 then 0 else Nat.log2 n + 1

/-- The quotient `num / (den · 2 ^ q)`, rounded. -/
def mantissaAt (num den : Nat) (q : Int) : Nat :=
  if 0 ≤ q then roundDiv num (den * twoTo q.toNat) else roundDiv (num * twoTo (-q).toNat) den

/-- The value nearest to a positive quotient. Below the smallest normal value
the grid stops getting finer, which is what the bound on the exponent says. -/
def ofQuotient (negative : Bool) (num den : Nat) : Binary64 :=
  let q : Int := max ((bits num : Int) - (bits den : Int) - 53) (-1074)
  let m := mantissaAt num den q
  let (m, q) := if m < twoTo 53 then (m, q) else (mantissaAt num den (q + 1), q + 1)
  let (m, q) := if m < twoTo 53 then (m, q) else (m / 2, q + 1)
  if q > 971 then .infinite negative else .finite negative m q

/-- The value nearest to `digits · 10 ^ exponent`. Exponents beyond the range
of any value are settled before a power of ten is formed. -/
def ofDecimal (negative : Bool) (digits : Nat) (exponent : Int) : Binary64 :=
  if digits = 0 then .finite negative 0 0
  else
    let magnitude : Int := exponent + (Nat.toDigits 10 digits).length
    if magnitude > 400 then .infinite negative
    else if magnitude < -400 then .finite negative 0 0
    else if 0 ≤ exponent then ofQuotient negative (digits * tenTo exponent.toNat) 1
    else ofQuotient negative digits (tenTo (-exponent).toNat)

/-! ## Arithmetic -/

/-- The value nearest to `num / den · 2 ^ q`. -/
def ofScaled (negative : Bool) (num den : Nat) (q : Int) : Binary64 :=
  if num = 0 then .finite negative 0 0
  else ofQuotient negative (num * twoTo q.toNat) (den * twoTo (-q).toNat)

/-- The value nearest to a whole number. -/
def ofNat (n : Nat) : Binary64 := ofScaled false n 1 0

/-- The product of two finite values, rounded. -/
def mul : Binary64 → Binary64 → Binary64
  | .finite s m q, .finite s' m' q' => ofScaled (s != s') (m * m') 1 (q + q')
  | _, _ => .nan

/-- The quotient of two finite values, rounded; the divisor is not zero. -/
def div : Binary64 → Binary64 → Binary64
  | .finite s m q, .finite s' m' q' => ofScaled (s != s') m m' (q - q')
  | _, _ => .nan

/-- Whether two values are equal. Zero has one value and two signs, and what is
no number is taken for one value here. -/
def same : Binary64 → Binary64 → Bool
  | .finite s m q, .finite s' m' q' => (m == 0 && m' == 0) || (s == s' && m == m' && q == q')
  | .infinite s, .infinite s' => s == s'
  | .nan, .nan => true
  | _, _ => false

/-! ## Digits of a value -/

/-- Which of two decimals of the same length stands for a value halfway between
them. -/
inductive Tie
  | even
  | up
deriving DecidableEq, Repr

/-- A value as decimal digits: `0.d₁d₂… · 10 ^ point`. -/
structure Digits where
  digits : List Char
  point : Int
deriving Repr

/-- Whether `n · 10 ^ t` lies in the interval of numbers that round to
`m · 2 ^ q`. The interval is measured in quarters of a step, because below a
power of two the lower neighbour is half a step away. -/
def roundsTo (m : Nat) (q : Int) (n : Nat) (t : Int) : Bool :=
  let low := if m = twoTo 52 ∧ q > -1074 then 4 * m - 1 else 4 * m - 2
  let high := 4 * m + 2
  let scale (value : Nat) (twos tens : Int) : Nat × Nat :=
    (value * twoTo twos.toNat * tenTo tens.toNat, twoTo (-twos).toNat * tenTo (-tens).toNat)
  let (num, den) := scale n (-(q - 2)) t
  if m % 2 = 0 then low * den ≤ num ∧ num ≤ high * den else low * den < num ∧ num < high * den

/-- The grid points of step `10 ^ t` around `m · 2 ^ q`, the nearer first. -/
def neighbours (tie : Tie) (m : Nat) (q t : Int) : List Nat :=
  let top := m * twoTo q.toNat * tenTo (-t).toNat
  let bottom := twoTo (-q).toNat * tenTo t.toNat
  let below := top / bottom
  let twice := 2 * (top % bottom)
  let down := twice < bottom || (twice = bottom && tie = .even && below % 2 = 0)
  if down then [below, below + 1] else [below + 1, below]

/-- The shortest digits of a positive value: the coarsest grid with a point
that reads back, tried from one digit up. -/
def shortest (tie : Tie) (m : Nat) (q : Int) (magnitude : Int) : Nat → Digits
  | 0 => ⟨[], magnitude⟩
  | fuel + 1 =>
    let count := 17 - fuel
    let t := magnitude - count
    match (neighbours tie m q t).filter (fun n => n > 0 ∧ roundsTo m q n t) with
    | n :: _ =>
      let ds := Nat.toDigits 10 n
      ⟨(ds.reverse.dropWhile (· = '0')).reverse, t + ds.length⟩
    | [] => shortest tie m q magnitude fuel

/-- The number of decimal digits before the point of a positive value. -/
def magnitude (m : Nat) (q : Int) : Int :=
  let top := m * twoTo q.toNat
  if 0 ≤ q then (Nat.toDigits 10 top).length
  else
    let bottom := twoTo (-q).toNat
    if bottom ≤ m then (Nat.toDigits 10 (m / bottom)).length
    else 1 - ((Nat.toDigits 10 (bottom / m)).length : Int) +
      (if bottom % m = 0 ∧ m * tenTo ((Nat.toDigits 10 (bottom / m)).length - 1) = bottom
        then 1 else 0)

/-- The shortest digits of a value other than zero. -/
def toDigits (tie : Tie) (m : Nat) (q : Int) : Digits := shortest tie m q (magnitude m q) 17

/-- Digits written positionally, with at least one digit after the point. -/
def Digits.positional (d : Digits) : String :=
  let n : Int := d.digits.length
  if d.point ≤ 0 then
    "0." ++ String.ofList (List.replicate (-d.point).toNat '0' ++ d.digits)
  else if d.point < n then
    String.ofList (d.digits.take d.point.toNat) ++ "." ++
      String.ofList (d.digits.drop d.point.toNat)
  else
    String.ofList (d.digits ++ List.replicate (d.point - n).toNat '0') ++ ".0"

/-- Digits written with one digit before the point and an exponent, which always
has a sign. -/
def Digits.scientific (d : Digits) : String :=
  let mantissa := match d.digits with
    | [] => "0"
    | [c] => String.ofList [c]
    | c :: rest => String.ofList (c :: '.' :: rest)
  let exponent := d.point - 1
  mantissa ++ "e" ++ (if exponent < 0 then "" else "+") ++ toString exponent

/-- How values are laid out. -/
structure Layout where
  /-- The numbers of digits before the point, between two bounds of which the
  upper one belongs to them, for which no exponent is written; without bounds an
  exponent is never written. -/
  positional : Option (Int × Int)
  tie : Tie
deriving Repr

namespace Layout

/-- Numbers of JSON: an exponent is written below `0.00001` and from `10 ^ 16`
on. -/
def compact : Layout := ⟨some (-5, 16), .even⟩

/-- Numbers with all their digits and no exponent. -/
def expanded : Layout := ⟨none, .up⟩

end Layout

/-- A value as text. -/
def render (layout : Layout) : Binary64 → String
  | .nan => "NaN"
  | .infinite negative => if negative then "-inf" else "inf"
  | .finite negative m q =>
    let sign := if negative then "-" else ""
    if m = 0 then sign ++ "0.0"
    else
      let d := toDigits layout.tie m q
      match layout.positional with
      | some (low, high) =>
        if low < d.point ∧ d.point ≤ high then sign ++ d.positional else sign ++ d.scientific
      | none => sign ++ d.positional

end Binary64

/-- A number as data carries it. -/
inductive Number
  | int (value : Int)
  | float (value : Binary64)
deriving DecidableEq, Repr, Inhabited

end Interlink
