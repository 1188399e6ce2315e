import RouterAdvert.Text.Numeral

/-!
# Times in log lines

The time of a log line in universal time, as year, month and day of the Gregorian calendar and the
time of day to the microsecond.
-/

namespace RouterAdvert.Log

/-- Year, month and day of a number of days after the first of January 1970. Years are counted from
March, so that the leap day is the last of its year, and in eras of 400 years. -/
def calendarDate (days : Nat) : Nat × Nat × Nat :=
  let shifted := days + 719468
  let era := shifted / 146097
  let dayOfEra := shifted % 146097
  let yearOfEra := (dayOfEra - dayOfEra / 1460 + dayOfEra / 36524 - dayOfEra / 146096) / 365
  let dayOfYear := dayOfEra - (365 * yearOfEra + yearOfEra / 4 - yearOfEra / 100)
  let monthFromMarch := (5 * dayOfYear + 2) / 153
  let day := dayOfYear - (153 * monthFromMarch + 2) / 5 + 1
  let month := if monthFromMarch < 10 then monthFromMarch + 3 else monthFromMarch - 9
  let year := yearOfEra + era * 400 + (if month ≤ 2 then 1 else 0)
  (year, month, day)

def paddedDecimal (width n : Nat) : String :=
  String.ofList ((Numeral.fixed 10 width n).map Numeral.digitChar)

/-- The text of a time given in microseconds after the beginning of 1970. -/
def timeText (microseconds : Nat) : String :=
  let seconds := microseconds / 1000000
  let (year, month, day) := calendarDate (seconds / 86400)
  paddedDecimal 4 year ++ "-" ++ paddedDecimal 2 month ++ "-" ++ paddedDecimal 2 day ++ "T"
    ++ paddedDecimal 2 (seconds / 3600 % 24) ++ ":" ++ paddedDecimal 2 (seconds / 60 % 60) ++ ":"
    ++ paddedDecimal 2 (seconds % 60) ++ "." ++ paddedDecimal 6 (microseconds % 1000000) ++ "Z"

end RouterAdvert.Log
