/-!
# Moments

A moment is counted in nanoseconds from the beginning of 1970, without leap seconds. It is written
down in UTC as RFC 3339 has it, with as many digits behind the second as are needed, in groups of
three.

The date follows from the number of days by counting years from the first of March, so that a leap
day is the last day of its year (`Date.ofDays`).
-/

namespace LineKin

/-- A day of the Gregorian calendar. -/
structure Date where
  /-- The year. -/
  year : Nat
  /-- The month, from one on. -/
  month : Nat
  /-- The day of the month, from one on. -/
  day : Nat
  deriving DecidableEq

/-- The day that comes so many days after the first of January 1970. -/
def Date.ofDays (days : Nat) : Date :=
  -- the first of March of the year zero lies 719468 days before 1970, and 400 years are 146097 days
  let since := days + 719468
  let inEra := since % 146097
  let year := (inEra - inEra / 1460 + inEra / 36524 - inEra / 146096) / 365
  let inYear := inEra - (365 * year + year / 4 - year / 100)
  let month := (5 * inYear + 2) / 153
  { year := since / 146097 * 400 + year + (if month < 10 then 0 else 1)
    month := if month < 10 then month + 3 else month - 9
    day := inYear - (153 * month + 2) / 5 + 1 }

namespace Moment

/-- A number with zeros in front. -/
def padded (width n : Nat) : String :=
  let digits := toString n
  String.ofList (List.replicate (width - digits.length) '0') ++ digits

/-- The digits behind the second. -/
def fraction (nanoseconds : Nat) : String :=
  if nanoseconds = 0 then ""
  else if nanoseconds % 1000000 = 0 then "." ++ padded 3 (nanoseconds / 1000000)
  else if nanoseconds % 1000 = 0 then "." ++ padded 6 (nanoseconds / 1000)
  else "." ++ padded 9 nanoseconds

/-- A moment as it is written down. -/
def text (nanoseconds : Nat) : String :=
  let seconds := nanoseconds / 1000000000
  let date := Date.ofDays (seconds / 86400)
  let clock := seconds % 86400
  padded 4 date.year ++ "-" ++ padded 2 date.month ++ "-" ++ padded 2 date.day ++ "T" ++
    padded 2 (clock / 3600) ++ ":" ++ padded 2 (clock / 60 % 60) ++ ":" ++ padded 2 (clock % 60) ++
    fraction (nanoseconds % 1000000000) ++ "+00:00"

end Moment

/-- The days around the end of February of a leap year. -/
example : [Date.ofDays 0, Date.ofDays 11015, Date.ofDays 11016, Date.ofDays 11017] =
    [⟨1970, 1, 1⟩, ⟨2000, 2, 28⟩, ⟨2000, 2, 29⟩, ⟨2000, 3, 1⟩] := by decide

end LineKin
