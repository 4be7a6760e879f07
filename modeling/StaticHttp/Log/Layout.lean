import StaticHttp.Failure
import StaticHttp.Log.Calendar
import StaticHttp.Log.Entry

/-!
# The layout of a record

A record is one line: its time, source, level and message, separated by dashes.  On a coloured
console the line is put between the colour of its level and a reset.  A record that was made too
far from our time has no date, and so no line.
-/

namespace StaticHttp.Log

/-! ## Colours -/

/-- Back to the terminal's own colours. -/
def reset : Text := "\x1b[0m"

/-- The colour of a level; levels without a name are green. -/
def color (level : Int) : Text :=
  if level = debug then "\x1b[36m"
  else if level = info then "\x1b[32m"
  else if level = warning then "\x1b[33m"
  else if level = error then "\x1b[31m"
  else if level = critical then "\x1b[31m\x1b[1m"
  else "\x1b[32m"

/-- A line in the colour of its level. -/
def colored (level : Int) (line : Text) : Text := color level ++ line ++ reset

/-! ## The standard layout -/

/-- The first and the last year of the calendar, which counts the years from 1900 on in 32 bits. -/
def firstYear : Int := 1900 - 0x80000000

def lastYear : Int := 1900 + 0x7FFFFFFF

/-- The last year that is written, in 32 bits as well. -/
def lastWrittenYear : Int := 0x7FFFFFFF

/-- The date and time of a second in figures.  Seconds are counted in 64 bits. -/
def timeText (second : Int) : Except Failure Text :=
  if second < -0x8000000000000000 ∨ 0x7FFFFFFFFFFFFFFF < second then
    .error (.tooLarge "timestamp out of range for platform time_t")
  else
    let moment := Moment.ofSecond second
    if moment.year < firstYear ∨ lastYear < moment.year then
      .error (.system (.numbered 75 "Value too large for defined data type"))
    else if lastWrittenYear < moment.year then
      .error (.tooLarge "signed integer is greater than maximum")
    else .ok moment.text

/-- A record as one line. -/
def Record.line (r : Record) : Except Failure Text :=
  (timeText r.second).map fun time =>
    time ++ " - " ++ r.source ++ " - " ++ levelName r.level ++ " - " ++ r.message

end StaticHttp.Log
