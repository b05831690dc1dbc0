/-!
# Moments

A plan says when it was made: a moment of UTC in the notation of RFC 3339, with
as many digits of the second as the moment needs, in groups of three.
-/

namespace Interlink

/-- A moment, counted from the start of 1970 in UTC. -/
structure Moment where
  seconds : Nat
  nanoseconds : Nat
deriving DecidableEq, Repr, Inhabited

namespace Moment

/-- A number with at least so many digits. -/
def padded (width n : Nat) : String :=
  let digits := n.repr
  String.ofList (List.replicate (width - digits.length) '0') ++ digits

/-- Year, month and day of the day that is so many days after the start of 1970.

The years are counted from March, so that the leap day is the last of its year;
146097 days make the 400 years after which the calendar repeats, and 719468 days
lie between the first day of March of the year 0 and the start of 1970. -/
def date (days : Nat) : Nat × Nat × Nat :=
  let days := days + 719468
  let era := days / 146097
  let dayOfEra := days % 146097
  let yearOfEra := (dayOfEra - dayOfEra / 1460 + dayOfEra / 36524 - dayOfEra / 146096) / 365
  let dayOfYear := dayOfEra - (365 * yearOfEra + yearOfEra / 4 - yearOfEra / 100)
  let month := (5 * dayOfYear + 2) / 153
  let day := dayOfYear - (153 * month + 2) / 5 + 1
  let year := era * 400 + yearOfEra
  if month < 10 then (year, month + 3, day) else (year + 1, month - 9, day)

/-- The leap day of a year that four hundred divides. -/
example : date 11016 = (2000, 2, 29) := by decide

/-- The part of a second, in as few groups of three digits as it takes. -/
def fraction (nanoseconds : Nat) : String :=
  if nanoseconds = 0 then ""
  else if nanoseconds % 1000000 = 0 then "." ++ padded 3 (nanoseconds / 1000000)
  else if nanoseconds % 1000 = 0 then "." ++ padded 6 (nanoseconds / 1000)
  else "." ++ padded 9 nanoseconds

/-- A moment as text. -/
def render (m : Moment) : String :=
  let (year, month, day) := date (m.seconds / 86400)
  let second := m.seconds % 86400
  padded 4 year ++ "-" ++ padded 2 month ++ "-" ++ padded 2 day ++ "T" ++
    padded 2 (second / 3600) ++ ":" ++ padded 2 (second / 60 % 60) ++ ":" ++
    padded 2 (second % 60) ++ fraction m.nanoseconds ++ "+00:00"

end Moment

end Interlink
