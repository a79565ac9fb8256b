import PocketScheme.Number.Printer

/-!
Dates and times of the calendar that has a leap day every fourth year but in centuries, and in
every fourth century.

* `Calendar.Date.ofDays`: the date that lies some days after 1970 began;
* `Calendar.render`: the text of a time that lies some seconds after it.
-/

namespace PocketScheme.Calendar

/-- A day of the calendar. -/
structure Date where
  year : Nat
  month : Nat
  day : Nat
  deriving DecidableEq, Repr

/-- The number of days from the first of March of the year 0 to the start of 1970. Years that start
in March have their leap day at the end. -/
def epoch : Nat := 719468

/-- The number of days of four centuries, which is always the same. -/
def eraDays : Nat := 146097

/-- The number of whole years in so many days of an era. -/
def yearOfEra (days : Nat) : Nat :=
  (days - days / 1460 + days / 36524 - days / 146096) / 365

/-- The date that lies so many days after 1970 began. -/
def Date.ofDays (days : Nat) : Date :=
  let z := days + epoch
  let dayOfEra := z % eraDays
  let year := yearOfEra dayOfEra
  let dayOfYear := dayOfEra - (365 * year + year / 4 - year / 100)
  let month := (5 * dayOfYear + 2) / 153
  let january := decide (10 ≤ month)
  { year := z / eraDays * 400 + year + (if january then 1 else 0)
    month := if january then month - 9 else month + 3
    day := dayOfYear - (153 * month + 2) / 5 + 1 }

/-- A number with leading zeros up to a width. -/
def padded (width n : Nat) : String :=
  String.ofList (Number.paddedChars width n)

/-- The text of a date, as in `2020-01-31`. -/
def Date.render (d : Date) : String :=
  padded 4 d.year ++ "-" ++ padded 2 d.month ++ "-" ++ padded 2 d.day

/-- The text of the time that lies so many seconds after 1970 began, as in
`2020-01-31T23:59:00Z`. -/
def render (seconds : Nat) : String :=
  let rest := seconds % 86400
  (Date.ofDays (seconds / 86400)).render ++ "T" ++ padded 2 (rest / 3600) ++ ":" ++
    padded 2 (rest / 60 % 60) ++ ":" ++ padded 2 (rest % 60) ++ "Z"

end PocketScheme.Calendar
