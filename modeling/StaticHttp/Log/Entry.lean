import StaticHttp.Value

/-!
# Log entries

An entry says who logged what, and how serious it is; a record is an entry with the second at
which it was made.
-/

namespace StaticHttp.Log

/-- The levels that have a name of their own. -/
def debug : Int := 10

def info : Int := 20

def warning : Int := 30

def error : Int := 40

def critical : Int := 50

/-- The name of a level. -/
def levelName (level : Int) : Text :=
  if level = debug then "DEBUG"
  else if level = info then "INFO"
  else if level = warning then "WARNING"
  else if level = error then "ERROR"
  else if level = critical then "CRITICAL"
  else if level = 0 then "NOTSET"
  else "Level " ++ Text.ofInt level

/-- What is logged, by whom, and how serious it is. -/
structure Entry where
  source : Text
  level : Int
  message : Text
deriving DecidableEq

/-- An entry and the Unix second at which it was made. -/
structure Record extends Entry where
  second : Int

/-- The message that stands for the place in the program where a failure arose. -/
def traceback : Text := "TRACEBACK"

/-- What logging is set up with: a level, a file or none, the size at which the file is rolled
over, how many old files are kept, and whether the console is coloured.  The values come from a
configuration and may be of any sort. -/
structure Settings where
  level : Value
  file : Value
  maxSize : Value
  backups : Value
  colored : Value

/-- What is not said otherwise: INFO, no file, ten mebibytes, five old files, colours. -/
def Settings.standard : Settings := ⟨.text "INFO", .null, .int 10485760, .int 5, .bool true⟩

end StaticHttp.Log
