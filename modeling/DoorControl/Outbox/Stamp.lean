/- Points in time as texts: date and time of day in UTC, on the Gregorian calendar. -/
import DoorControl.Text.Numeral

namespace DoorControl.Outbox

/-- A day of the Gregorian calendar. -/
structure Date where
  year : Int
  month : Nat
  day : Nat
  deriving DecidableEq, Repr

/-- The day that lies `days` after the first of January 1970. Years are counted from the first of March
here, so that a leap day ends a year; 146097 days make 400 years. -/
def Date.ofDays (days : Int) : Date :=
  let shifted := days + 719468
  let era := shifted.fdiv 146097
  let dayOfEra := (shifted.fmod 146097).toNat
  let yearOfEra := (dayOfEra - dayOfEra / 1460 + dayOfEra / 36524 - dayOfEra / 146096) / 365
  let dayOfYear := dayOfEra - (365 * yearOfEra + yearOfEra / 4 - yearOfEra / 100)
  let monthFromMarch := (5 * dayOfYear + 2) / 153
  let month := if monthFromMarch < 10 then monthFromMarch + 3 else monthFromMarch - 9
  { year := era * 400 + yearOfEra + (if month ≤ 2 then 1 else 0)
    month
    day := dayOfYear - (153 * monthFromMarch + 2) / 5 + 1 }

/-- Years of four digits stand as they are, all others with a sign. -/
def yearText (year : Int) : String :=
  let digits := Text.Numeral.decimalPadded 4 year.natAbs
  if year < 0 then "-" ++ digits else if 9999 < year then "+" ++ digits else digits

/-- The text of a time given in seconds since the beginning of 1970. -/
def stamp (seconds : Int) : String :=
  let date := Date.ofDays (seconds.fdiv 86400)
  let time := (seconds.fmod 86400).toNat
  let two := Text.Numeral.decimalPadded 2
  yearText date.year ++ "-" ++ two date.month ++ "-" ++ two date.day ++ " " ++
    two (time / 3600) ++ ":" ++ two (time / 60 % 60) ++ ":" ++ two (time % 60)

end DoorControl.Outbox
