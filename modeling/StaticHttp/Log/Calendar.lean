import StaticHttp.Text.CodePoint

/-!
# Dates and times of day

A Unix second is turned into a date of the Gregorian calendar and a time of day, in universal
time.  Days are counted in eras of 400 years that begin on the first of March, so that the day
that leap years add is the last of its year.
-/

namespace StaticHttp.Log

/-- A date and a time of day. -/
structure Moment where
  year : Int
  month : Nat
  day : Nat
  hour : Nat
  minute : Nat
  second : Nat
deriving DecidableEq

/-- The date of the day that is `days` days after 1970-01-01. -/
def Moment.dateOf (days : Int) : Int × Nat × Nat :=
  let fromMarch := days + 719468
  let era := fromMarch.fdiv 146097
  let dayOfEra := (fromMarch.fmod 146097).toNat
  let yearOfEra := (dayOfEra - dayOfEra / 1460 + dayOfEra / 36524 - dayOfEra / 146096) / 365
  let dayOfYear := dayOfEra - (365 * yearOfEra + yearOfEra / 4 - yearOfEra / 100)
  let monthFromMarch := (5 * dayOfYear + 2) / 153
  let day := dayOfYear - (153 * monthFromMarch + 2) / 5 + 1
  let month := if monthFromMarch < 10 then monthFromMarch + 3 else monthFromMarch - 9
  let year := yearOfEra + era * 400 + (if month ≤ 2 then 1 else 0)
  (year, month, day)

/-- The date and time of a Unix second. -/
def Moment.ofSecond (s : Int) : Moment :=
  let (year, month, day) := dateOf (s.fdiv 86400)
  let t := (s.fmod 86400).toNat
  ⟨year, month, day, t / 3600, t / 60 % 60, t % 60⟩

/-- A date and time in figures, the year without padding. -/
def Moment.text (m : Moment) : Text :=
  Text.ofInt m.year ++ "-" ++ Text.zeroPadded 2 m.month ++ "-" ++ Text.zeroPadded 2 m.day ++ " " ++
    Text.zeroPadded 2 m.hour ++ ":" ++ Text.zeroPadded 2 m.minute ++ ":" ++
    Text.zeroPadded 2 m.second

example : (Moment.ofSecond 1735689599).text = "2024-12-31 23:59:59" := by decide

example : (Moment.ofSecond (-62135596800)).text = "1-01-01 00:00:00" := by decide

end StaticHttp.Log
