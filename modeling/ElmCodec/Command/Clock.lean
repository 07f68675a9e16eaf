/-!
# Points in time

Dates and times of day in the universal time zone, as banners show them, and how
they are found from the seconds since the start of 1970.

A year is counted from March on, so that the leap day is its last day.  Then the
years and months before a day are found by division.
-/

namespace ElmCodec.Command

/-- A point in time, in the universal time zone. -/
structure Clock where
  year : Nat
  month : Nat
  day : Nat
  hour : Nat
  minute : Nat
  second : Nat
deriving DecidableEq

namespace Clock

/-- A number with zeros before it up to a width. -/
def padded (width n : Nat) : String :=
  let digits := (toString n).toList
  String.ofList (List.replicate (width - digits.length) '0' ++ digits)

/-- A point in time as it is shown in a banner. -/
def text (c : Clock) : String :=
  padded 4 c.year ++ "-" ++ padded 2 c.month ++ "-" ++ padded 2 c.day ++ " " ++
    padded 2 c.hour ++ ":" ++ padded 2 c.minute ++ ":" ++ padded 2 c.second ++ " UTC"

/-- The year, month and day of a day counted from the first of March of year zero. -/
def dateOfDay (n : Nat) : Nat × Nat × Nat :=
  let era := n / 146097
  let inEra := n % 146097
  let year := (inEra - inEra / 1460 + inEra / 36524 - inEra / 146096) / 365
  let inYear := inEra - (365 * year + year / 4 - year / 100)
  let month := (5 * inYear + 2) / 153
  let day := inYear - (153 * month + 2) / 5 + 1
  if month < 10 then (400 * era + year, month + 3, day) else (400 * era + year + 1, month - 9, day)

/-- The point in time so many seconds after the start of 1970. -/
def ofSeconds (seconds : Nat) : Clock :=
  let (year, month, day) := dateOfDay (seconds / 86400 + 719468)
  let rest := seconds % 86400
  ⟨year, month, day, rest / 3600, rest / 60 % 60, rest % 60⟩

example : ofSeconds 0 = ⟨1970, 1, 1, 0, 0, 0⟩ := by decide
example : ofSeconds 951868799 = ⟨2000, 2, 29, 23, 59, 59⟩ := by decide
example : ofSeconds 1704164645 = ⟨2024, 1, 2, 3, 4, 5⟩ := by decide

end Clock

end ElmCodec.Command
