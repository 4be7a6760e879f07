import StaticHttp.Options.Declaration

/-!
# Usage and help

The usage text lists all options after the name of the program, broken into lines that start
under the first option.  The help text adds what the program is and what each option is for.
-/

namespace StaticHttp.Options

/-- No line of a usage text is longer than this, unless one option alone is. -/
def lineWidth : Nat := 78

/-- What each option is for starts in this column. -/
def helpColumn : Nat := 24

/-- A number of spaces. -/
def spaces (n : Nat) : Text := List.replicate n ' '

/-- Words broken into lines: a word goes on the current line, which has the given length, if it fits
behind a space; a line that is begun starts at the indentation. -/
def fill (indent : Nat) (length : Nat) (current : List Text) : List Text → List (List Text)
  | [] => if current.isEmpty then [] else [current]
  | word :: rest =>
    if lineWidth < length + 1 + word.length ∧ current ≠ [] then
      current :: fill indent (indent - 1 + word.length + 1) [word] rest
    else fill indent (length + word.length + 1) (current ++ [word]) rest

/-- What a usage text starts with. -/
def usageStart : Text := "usage: "

/-- How an option appears in a usage text. -/
def usageWord (d : Declaration) : Text :=
  "[" ++ d.shown (d.short.getD d.long) ++ "]"

/-- The usage text of a program with a given name. -/
def usage (program : Text) : Text :=
  let indent := usageStart.length + program.length + 1
  let lines := fill indent (usageStart.length - 1) [] (program :: all.map usageWord)
  let joined := lines.map fun words => ([' '] : Text).intercalate words
  usageStart ++ (("\n" : Text) ++ spaces indent).intercalate joined ++ "\n"

/-- The lines about one option in a help text: what it is for follows behind its spellings, or on
a line of its own where they are too long. -/
def helpLines (d : Declaration) : Text :=
  let front := "  " ++ (", " : Text).intercalate (d.spellings.map d.shown)
  let gap :=
    if front.length + 2 ≤ helpColumn then spaces (helpColumn - front.length)
    else "\n" ++ spaces helpColumn
  front ++ gap ++ d.purpose ++ "\n"

/-- What the program is. -/
def description : Text := "Minimal static-file HTTP server"

/-- The help text of a program with a given name. -/
def help (program : Text) : Text :=
  usage program ++ "\n" ++ description ++ "\n\noptions:\n" ++ all.flatMap helpLines

end StaticHttp.Options
