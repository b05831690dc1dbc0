import Interlink.Number.Binary64
import Interlink.Text.Digit

/-!
# Unquoted words

A word written without quotes stands for a typed value: nothing, a truth value,
a whole number, a number with a point or exponent, or just its text. The rules
are those of the core schema: `yes` is text, `True` is a truth value, a number
may be written in base two, eight, ten or sixteen, and digits behind a leading
zero are text.

The typing is used twice. A reader that wants no particular type takes the
value a word stands for, and a writer quotes every text that would be taken for
something else.
-/

namespace Interlink

/-- What an unquoted word stands for. -/
inductive Scalar
  | null
  | bool (value : Bool)
  | number (value : Number)
  | text
deriving DecidableEq, Repr, Inhabited

namespace Word

/-- The words for nothing. -/
def isNull (word : String) : Bool :=
  word = "" || word = "null" || word = "Null" || word = "NULL" || word = "~"

/-- The words for truth values. -/
def bool? (word : String) : Option Bool :=
  if word = "true" ∨ word = "True" ∨ word = "TRUE" then some true
  else if word = "false" ∨ word = "False" ∨ word = "FALSE" then some false
  else none

/-! ## Whole numbers -/

/-- Digits with a zero in front of further digits, behind at most one sign.
They are text: only a lone zero may lead. -/
def leadingZero (cs : List Char) : Bool :=
  let digits := match cs with
    | '-' :: rest => rest
    | '+' :: rest => rest
    | _ => cs
  match digits with
  | '0' :: c :: rest => (c :: rest).all (fun c => (Digit.value? 10 c).isSome)
  | _ => false

/-- Digits behind the mark of their base, if they carry one. -/
def marked? : List Char → Option Nat
  | '0' :: 'x' :: rest => Digit.natural? 16 rest
  | '0' :: 'o' :: rest => Digit.natural? 8 rest
  | '0' :: 'b' :: rest => Digit.natural? 2 rest
  | _ => none

/-- Whole numbers have at most 128 bits, the sign included. -/
def int? (cs : List Char) : Option Int :=
  let magnitude (cs : List Char) : Option Nat :=
    (marked? cs).orElse fun _ => Digit.natural? 10 cs
  let unsigned (cs : List Char) : Option Int := do
    let n ← magnitude cs
    if n < twoTo 128 then some n else none
  match cs with
  | '+' :: rest => if leadingZero cs then none else unsigned rest
  | '-' :: rest => do
    if leadingZero cs then none
    else
      let n ← magnitude rest
      if n ≤ twoTo 127 then some (-n) else none
  | _ => if leadingZero cs then none else unsigned cs

/-! ## Numbers with a point or an exponent -/

/-- An exponent mark and its signed digits, or nothing at all. -/
def exponent? : List Char → Option Int
  | [] => some 0
  | e :: rest =>
    if e = 'e' ∨ e = 'E' then
      match rest with
      | '-' :: ds => (Digit.natural? 10 ds).map fun n => -(n : Int)
      | '+' :: ds => (Digit.natural? 10 ds).map fun n => (n : Int)
      | ds => (Digit.natural? 10 ds).map fun n => (n : Int)
    else none

/-- Digits, a point, digits and an exponent: digits must stand on one side of
the point at least. -/
def decimal? (negative : Bool) (cs : List Char) : Option Binary64 := do
  let (whole, rest) := Digit.span 10 cs
  let (fraction, rest) := match rest with
    | '.' :: rest => Digit.span 10 rest
    | _ => ([], rest)
  let exponent ← exponent? rest
  if whole ++ fraction = [] then none
  else
    pure (Binary64.ofDecimal negative (Digit.toNat 10 (whole ++ fraction))
      (exponent - fraction.length))

/-- A number with a point or an exponent, or one of the words for infinity and
for no number. A number too large for any value is text. -/
def float? (word : String) : Option Binary64 :=
  if word ∈ [".inf", ".Inf", ".INF", "+.inf", "+.Inf", "+.INF"] then some (.infinite false)
  else if word ∈ ["-.inf", "-.Inf", "-.INF"] then some (.infinite true)
  else if word ∈ [".nan", ".NaN", ".NAN"] then some .nan
  else
    let value := match word.toList with
      | '+' :: rest => decimal? false rest
      | '-' :: rest => decimal? true rest
      | cs => decimal? false cs
    match value with
    | some (.finite negative m q) => some (.finite negative m q)
    | _ => none

/-- What a word stands for. -/
def scalar (word : String) : Scalar :=
  if isNull word then .null
  else
    match bool? word with
    | some b => .bool b
    | none =>
      match int? word.toList with
      | some n => .number (.int n)
      | none =>
        if leadingZero word.toList then .text
        else
          match float? word with
          | some v => .number (.float v)
          | none => .text

end Word

end Interlink
