/-!
# Points in time as civil dates

A point in time is a number of seconds since the beginning of 1970, negative
before it. Days, months and years are those of the Gregorian calendar, carried
on in both directions with a year zero. Years are counted from March, so that
the leap day is the last day of a year, and in cycles of 400 years, which all
have the same number of days.
-/

namespace RelayChat.CivilTime

/-- A date and a time of day. -/
structure Civil where
  /-- The year, with a year zero before year one. -/
  year : Int
  /-- The month, from 1 to 12. -/
  month : Nat
  /-- The day of the month, from 1. -/
  day : Nat
  /-- The day of the week, counted from Sunday as 0. -/
  weekday : Nat
  /-- Seconds since the day began. -/
  second : Nat
deriving DecidableEq, Repr

/-- Seconds in a day. -/
def daySeconds : Nat := 86400

/-- Days in 400 years. -/
def cycleDays : Nat := 146097

/-- Days from the first of March of year zero to the beginning of 1970. -/
def epochDay : Int := 719468

/-- The year of its cycle that a day of the cycle belongs to: the days before it
that are leap days are left out, and what remains has 365 days a year. -/
def yearOfCycle (day : Nat) : Nat :=
  (day - day / 1460 + day / 36524 - day / 146096) / 365

/-- The day of its year, counted from March, that a day of a cycle is. -/
def dayOfYear (day : Nat) : Nat :=
  let year := yearOfCycle day
  day - (365 * year + year / 4 - year / 100)

/-- The months that have passed since March; five months from March have 153
days, and so have the next five. -/
def monthFromMarch (dayOfYear : Nat) : Nat :=
  (5 * dayOfYear + 2) / 153

/-- The date and time of day of a point in time. -/
def ofSeconds (seconds : Int) : Civil :=
  let days := seconds.fdiv daySeconds
  let shifted := days + epochDay
  let cycle := shifted.fdiv cycleDays
  let dayOfCycle := (shifted.fmod cycleDays).toNat
  let inYear := dayOfYear dayOfCycle
  let fromMarch := monthFromMarch inYear
  let month := if fromMarch < 10 then fromMarch + 3 else fromMarch - 9
  { year := yearOfCycle dayOfCycle + cycle * 400 + (if month ≤ 2 then 1 else 0)
    month := month
    day := inYear - (153 * fromMarch + 2) / 5 + 1
    weekday := ((days + 4).fmod 7).toNat
    second := (seconds.fmod daySeconds).toNat }

/-- The days of the week from Sunday. -/
def weekdayNames : List String :=
  ["Sun", "Mon", "Tue", "Wed", "Thu", "Fri", "Sat"]

/-- The months from January. -/
def monthNames : List String :=
  ["Jan", "Feb", "Mar", "Apr", "May", "Jun", "Jul", "Aug", "Sep", "Oct", "Nov", "Dec"]

/-- A number with zeros in front up to a width. -/
def padded (width n : Nat) : String :=
  let digits := (toString n).toList
  String.ofList (List.replicate (width - digits.length) '0' ++ digits)

/-- A year with at least four digits, and with its sign when it has more or is
negative. -/
def yearText (year : Int) : String :=
  if year < 0 then "-" ++ padded 4 year.natAbs
  else if year > 9999 then "+" ++ toString year.natAbs
  else padded 4 year.natAbs

/-- The date and time as it is shown to users. -/
def render (seconds : Int) : String :=
  let t := ofSeconds seconds
  (weekdayNames[t.weekday]?).getD "" ++ " " ++ (monthNames[t.month - 1]?).getD "" ++ " " ++
    padded 2 t.day ++ " " ++ yearText t.year ++ " at " ++ padded 2 (t.second / 3600) ++ ":" ++
    padded 2 (t.second / 60 % 60) ++ ":" ++ padded 2 (t.second % 60) ++ " UTC"

/-- The date and time as it stands in front of a line of a log, with so many
microseconds after the second. -/
def stamp (seconds : Int) (micros : Nat) : String :=
  let t := ofSeconds seconds
  yearText t.year ++ "-" ++ padded 2 t.month ++ "-" ++ padded 2 t.day ++ "T" ++
    padded 2 (t.second / 3600) ++ ":" ++ padded 2 (t.second / 60 % 60) ++ ":" ++
    padded 2 (t.second % 60) ++ "." ++ padded 6 micros ++ "Z"

end RelayChat.CivilTime
