import StaticHttp.Log.Layout
import StaticHttp.Number.Rounded
import StaticHttp.Text.Digit
import StaticHttp.Text.Word

/-!
# Patterns

The layout of a record may be given as a pattern, in which `%(name)` and a conversion stand for a
field of the record, with flags, a width and a precision between the two.  The first conversion
without a name stands for all fields together.  A star in place of the width or the precision takes
the field itself for it, and a field is taken only once.
-/

namespace StaticHttp.Log

/-! ## Fields -/

/-- The thread that makes the records.  Threads go by the addresses of their stacks, which are high
ones. -/
def threadNumber : Int := 0x7F0000000000

/-- The process that makes the records. -/
def processNumber : Int := 1

/-- The fields of a record that a pattern can name, in their order.  The time in figures is a field
only where it is asked for.  A record is made at no place of a program, as soon as that starts, and
is about no failure. -/
def Record.fields (r : Record) (time : Option Text) : Table :=
  let made : Table :=
    [("name", .text r.source), ("msg", .text r.message), ("args", .null),
    ("levelname", .text (levelName r.level)), ("levelno", .int r.level), ("pathname", .text []),
    ("filename", .text []), ("module", .text []), ("exc_info", .null), ("exc_text", .null),
    ("stack_info", .null), ("lineno", .int 0), ("funcName", .null), ("created", .int r.second),
    ("msecs", .int 0), ("relativeCreated", .real (Binary64.zero false)),
    ("thread", .int threadNumber), ("threadName", .text "MainThread"),
    ("processName", .text "MainProcess"), ("process", .int processNumber),
    ("message", .text r.message)]
  match time with
  | some t => made ++ [(("asctime" : Text), Value.text t)]
  | none => made

/-! ## Conversions -/

/-- A conversion of a pattern: the flags, the width, the precision and the letter. -/
structure Conversion where
  flags : Text
  width : Nat
  precision : Option Nat
  letter : CodePoint

/-- What a conversion takes a field for. -/
inductive Reading
  | shown
  | quoted
  | quotedAscii
  | decimal
  | based
  | double
  | character

/-- What a letter has a field taken for. -/
def Reading.ofLetter? (letter : CodePoint) : Option Reading :=
  let isIn (letters : Text) : Bool := letters.contains letter
  if letter = 's' then some shown
  else if letter = 'r' then some quoted
  else if letter = 'a' then some quotedAscii
  else if isIn "diu" then some decimal
  else if isIn "oxX" then some based
  else if isIn "eEfFgG" then some double
  else if letter = 'c' then some character
  else none

/-- The name in parentheses in front of a text, parentheses being balanced, and the rest. -/
def fieldName? (depth : Nat) : Text → Option (Text × Text)
  | [] => none
  | c :: rest =>
    if c = '(' then (fieldName? (depth + 1) rest).map fun r => (c :: r.1, r.2)
    else if c = ')' then
      match depth with
      | 0 => some ([], rest)
      | depth + 1 => (fieldName? depth rest).map fun r => (c :: r.1, r.2)
    else (fieldName? depth rest).map fun r => (c :: r.1, r.2)

/-- The flags of a conversion. -/
def isFlag (c : CodePoint) : Bool := c = '#' || c = '0' || c = '-' || c = ' ' || c = '+'

/-- The value of a run of digits in front of a text, if there is one, and the rest. -/
def leadingNumber? (t : Text) : Option (Nat × Text) :=
  let ds := t.takeWhile CodePoint.isAsciiDigit
  if ds.isEmpty then none
  else some (ds.foldl (fun n c => 10 * n + (c.val - 0x30)) 0, t.drop ds.length)

/-- There is no field left to convert. -/
def nothingLeft : Failure := .badSort "not enough arguments for format string"

/-- A sort of measure: what it is called, its greatest number, and what the numbers are called that
it is taken from. -/
structure Measure where
  name : Text
  greatest : Nat
  sort : Text

/-- Widths. -/
def Measure.width : Measure := ⟨"width", 0x7FFFFFFFFFFFFFFF, "ssize_t"⟩

/-- Precisions. -/
def Measure.precision : Measure := ⟨"precision", 0x7FFFFFFF, "int"⟩

/-- The measure of a sort in front of a text, if there is one, the field that is left after it, and
the rest. -/
def Measure.read? (m : Measure) (argument : Option Value) (t : Text) :
    Except Failure (Option Int × Option Value × Text) :=
  if t.head? = some ('*' : CodePoint) then
    match argument with
    | none => .error nothingLeft
    | some (.int n) =>
      if n < -(m.greatest : Int) - 1 ∨ (m.greatest : Int) < n then .error (.beyond m.sort)
      else .ok (some n, none, t.drop 1)
    | some _ => .error (.badSort "* wants int")
  else
    match leadingNumber? t with
    | some (n, rest) =>
      if m.greatest < n then .error (.badValue (m.name ++ " too big"))
      else .ok (some n, argument, rest)
    | none => .ok (none, argument, t)

/-- The conversion in front of a text, the field that is left after it, and the rest. -/
def conversion? (argument : Option Value) (t : Text) :
    Except Failure (Conversion × Option Value × Text) := do
  let flags := t.takeWhile isFlag
  let (width, argument, t) ← Measure.width.read? argument (t.drop flags.length)
  let flags : Text := if width.getD 0 < 0 then ('-' : CodePoint) :: flags else flags
  let (precision, argument, t) ←
    if t.head? = some ('.' : CodePoint) then do
      let (precision, argument, t) ← Measure.precision.read? argument (t.drop 1)
      pure (some (precision.getD 0).toNat, argument, t)
    else pure (none, argument, t)
  let isSize (c : CodePoint) : Bool := c = 'h' || c = 'l' || c = 'L'
  match if t.head?.any isSize then t.drop 1 else t with
  | [] => throw (.badValue "incomplete format")
  | letter :: rest => pure (⟨flags, (width.getD 0).natAbs, precision, letter⟩, argument, rest)

namespace Conversion

/-- Whether a flag is set. -/
def has (c : Conversion) (flag : CodePoint) : Bool := c.flags.contains flag

/-- A text made as wide as it should be: with spaces on the left, or on the right where the flags
say so. -/
def pad (c : Conversion) (t : Text) : Text :=
  let missing := List.replicate (c.width - t.length) (' ' : CodePoint)
  if c.has '-' then t ++ missing else missing ++ t

/-- A number made as wide as it should be: the flags say what sign it has if it is not negative, and
whether zeros fill up the space behind the sign. -/
def padNumber (c : Conversion) (negative : Bool) (base digits : Text) : Text :=
  let sign : Text :=
    if negative then "-"
    else if c.has '+' then "+"
    else if c.has ' ' then " "
    else []
  let front := sign ++ base
  if c.has '0' && !c.has '-' then
    front ++ List.replicate (c.width - front.length - digits.length) ('0' : CodePoint) ++ digits
  else c.pad (front ++ digits)

/-- Letters in upper case. -/
def upper (t : Text) : Text :=
  t.map fun c => if 0x61 ≤ c.val ∧ c.val ≤ 0x7A then CodePoint.ofNat (c.val - 0x20) else c

/-- A whole number in a base, with at least as many digits as the precision says. -/
def whole (c : Conversion) (base : Nat) (mark : Text) (n : Int) : Text :=
  let digits := Text.ofString (String.ofList (Nat.toDigits base n.natAbs))
  let digits := List.replicate (c.precision.getD 0 - digits.length) ('0' : CodePoint) ++ digits
  c.padNumber (n < 0) (if c.has '#' then mark else []) digits

/-- The whole number in front of the point of a finite number. -/
def truncated (x : Binary64) : Int :=
  let r := x.magnitude
  if x.isNegative then -(r.num / r.den : Nat) else (r.num / r.den : Nat)

/-- How many places a double is written with.  With an exponent there is one digit more, and the
greatest precision leaves no room to count it. -/
def places (c : Conversion) : Nat :=
  let precision := c.precision.getD 6
  let isScientific := c.letter = 'e' ∨ c.letter = 'E'
  if isScientific ∧ precision = Measure.precision.greatest then 0 else precision

/-- A double in one of the three ways of writing one. -/
def real (c : Conversion) (x : Binary64) : Text :=
  let precision := c.places
  let always := c.has '#'
  let digits :=
    if c.letter = 'e' ∨ c.letter = 'E' then x.scientific precision always
    else if c.letter = 'f' ∨ c.letter = 'F' then x.fixed precision always
    else x.general precision always
  let isUpper := c.letter = 'E' ∨ c.letter = 'F' ∨ c.letter = 'G'
  c.padNumber x.isNegative [] (if isUpper then upper digits else digits)

/-- The field is of the wrong sort for a conversion to a number. -/
def wrongSort (c : Conversion) (needed : Text) (v : Value) : Failure :=
  .badSort ("%" ++ [c.letter] ++ " format: " ++ needed ++ " is required, not " ++ v.sort)

/-- The greatest precision of a whole number: a sign and the mark of a base must fit in as well. -/
def maxDigits : Nat := Measure.precision.greatest - 3

/-- A whole number, in a base, unless it is to have too many digits. -/
def whole? (c : Conversion) (base : Nat) (mark : Text) (n : Int) : Except Failure Text :=
  if maxDigits < c.precision.getD 0 then .error (.tooLarge "precision too large")
  else .ok (c.whole base mark n)

/-- A field as a whole number. -/
def decimal (c : Conversion) : Value → Except Failure Text
  | .int n => c.whole? 10 [] n
  | .real x => c.whole? 10 [] (truncated x)
  | v => .error (c.wrongSort "a real number" v)

/-- A field as a whole number in base eight or sixteen. -/
def based (c : Conversion) : Value → Except Failure Text
  | .int n =>
    if c.letter = 'o' then c.whole? 8 "0o" n
    else if c.letter = 'x' then c.whole? 16 "0x" n
    else (c.whole? 16 "0x" n).map upper
  | v => .error (c.wrongSort "an integer" v)

/-- A field as a double. -/
def double (c : Conversion) : Value → Except Failure Text
  | .int n =>
    let x := Binary64.ofRatio (n < 0) n.natAbs 1
    if x.isInfinite then .error .beyondDouble else .ok (c.real x)
  | .real x => .ok (c.real x)
  | v => .error (.badSort ("must be real number, not " ++ v.sort))

/-- A field as a single character. -/
def character (c : Conversion) : Value → Except Failure Text
  | .int n =>
    if 0 ≤ n ∧ n < 0x110000 then .ok (c.pad [CodePoint.ofNat n.toNat])
    else .error (.tooLarge "%c arg not in range(0x110000)")
  | .text [d] => .ok (c.pad [d])
  | _ => .error (.badSort "%c requires int or char")

/-- A quoted value in ASCII alone. -/
def quotedAscii (v : Value) : Text :=
  v.quoted.flatMap fun c =>
    if c.isAscii then [c]
    else if c.val < 0x100 then "\\x" ++ Text.hex 2 c.val
    else if c.val < 0x10000 then "\\u" ++ Text.hex 4 c.val
    else "\\U" ++ Text.hex 8 c.val

/-- There is no conversion of a letter, which is at a position of the pattern. -/
def unknownLetter (c : Conversion) (position : Nat) : Failure :=
  let letter := if 0x1F ≤ c.letter.val ∧ c.letter.val < 0x7F then c.letter else '?'
  .badValue ("unsupported format character '" ++ [letter] ++ "' (0x" ++
    Text.ofString (String.ofList (Nat.toDigits 16 c.letter.val)) ++ ") at index " ++
    Text.ofNat position)

/-- There is no memory for a wider text. -/
def maxText : Nat := 0x7FFFFFFF

/-- What a conversion makes of a field, however wide that is. -/
def convert (c : Conversion) (reading : Reading) (v : Value) : Except Failure Text :=
  let cut (t : Text) : Text := match c.precision with
    | some p => t.take p
    | none => t
  match reading with
  | .shown => .ok (c.pad (cut v.display))
  | .quoted => .ok (c.pad (cut v.quoted))
  | .quotedAscii => .ok (c.pad (cut (Conversion.quotedAscii v)))
  | .decimal => c.decimal v
  | .based => c.based v
  | .double => c.double v
  | .character => c.character v

/-- What a conversion makes of a field. -/
def apply (c : Conversion) (reading : Reading) (v : Value) : Except Failure Text :=
  if c.width ≤ maxText then c.convert reading v
  else
    match ({ c with width := 0 } : Conversion).convert reading v with
    | .ok _ => .error .exhausted
    | .error f => .error f

end Conversion

/-! ## Patterns -/

/-- The field that a name in parentheses in front of a text asks for, or else the one that is there,
and the rest. -/
def argument? (fields : Table) (argument : Option Value) (t : Text) :
    Except Failure (Option Value × Text) :=
  if t.head? = some ('(' : CodePoint) then
    match fieldName? 0 (t.drop 1) with
    | none => .error (.badValue "incomplete format key")
    | some (name, rest) =>
      match Table.get? fields name with
      | none => .error (.badValue ("Formatting field not found in record: " ++ name.quoted))
      | some v => .ok (some v, rest)
  else .ok (argument, t)

/-- What the part of a pattern behind a percent sign makes of the fields, the field that is left
after it, and the rest.  A second percent sign stands for one.  `whole` is the length of the
pattern. -/
def field (fields : Table) (whole : Nat) (argument : Option Value) (t : Text) :
    Except Failure (Text × Option Value × Text) := do
  if t.head? = some ('%' : CodePoint) then return (['%'], argument, t.drop 1)
  let (argument, t) ← argument? fields argument t
  let (c, argument, rest) ← conversion? argument t
  match argument, Reading.ofLetter? c.letter with
  | none, _ => throw nothingLeft
  | some _, none => throw (c.unknownLetter (whole - rest.length - 1))
  | some v, some reading => pure (← c.apply reading v, none, rest)

/-- What the rest of a pattern makes of the fields.  `fuel` bounds its length. -/
def renderFrom (fields : Table) (whole : Nat) :
    (fuel : Nat) → (argument : Option Value) → Text → Except Failure Text
  | 0, _, _ => .ok []
  | _ + 1, _, [] => .ok []
  | fuel + 1, argument, c :: rest =>
    if c = '%' then
      match field fields whole argument rest with
      | .error f => .error f
      | .ok (front, argument, rest) => (renderFrom fields whole fuel argument rest).map (front ++ ·)
    else (renderFrom fields whole fuel argument rest).map (c :: ·)

/-- The text behind a number, in the digits of any script, or a star in front of it. -/
def afterMeasure? (t : Text) : Option Text :=
  if t.head? = some ('*' : CodePoint) then some (t.drop 1)
  else if (t.head?.map Text.isDigit).getD false then some (t.dropWhile Text.isDigit)
  else none

/-- The letters that may end a conversion: those of the conversions in either case, and the letters
beyond ASCII that are the same in capitals, or are one in capitals. -/
def endsConversion (c : CodePoint) : Bool :=
  ("diouxefgcrsaDIOUXEFGCRSA%" : Text).contains c || c.val = 0x130 || c.val = 0x131 ||
    c.val = 0x17F

/-- Whether a conversion of a field starts a text: a name of word characters, flags, width and
precision, and a letter that may end it. -/
def startsConversion (t : Text) : Bool :=
  match t with
  | p :: o :: rest =>
    if p = '%' ∧ o = '(' then
      let name := rest.takeWhile Text.isWord
      let rest := rest.drop name.length
      if name.isEmpty || rest.head? ≠ some (')' : CodePoint) then false
      else
        let rest := (rest.drop 1).dropWhile isFlag
        let rest := (afterMeasure? rest).getD rest
        let rest :=
          if rest.head? = some ('.' : CodePoint) then (afterMeasure? (rest.drop 1)).getD rest
          else rest
        match rest with
        | [] => false
        | c :: _ => endsConversion c
    else false
  | _ => false

/-- Whether a text holds a conversion of a field. -/
def hasConversion : Text → Bool
  | [] => false
  | c :: rest => startsConversion (c :: rest) || hasConversion rest

/-- A pattern that can lay out a record: it must show at least one field.  The empty one shows the
message alone. -/
structure Pattern where
  text : Text

/-- The pattern that a text spells. -/
def Pattern.ofText (t : Text) : Except Failure Pattern :=
  let t := if t.isEmpty then ("%(message)s" : Text) else t
  if hasConversion t then .ok ⟨t⟩
  else .error (.badValue ("Invalid format '" ++ t ++ "' for '%' style"))

/-- Whether a text asks for the time in figures. -/
def asksForTime : Text → Bool
  | [] => false
  | c :: rest => ("%(asctime)" : Text).isPrefixOf (c :: rest) || asksForTime rest

/-- The fields of a record as far as a pattern asks for them.  The time goes down to the
thousandths of a second. -/
def Pattern.fields (p : Pattern) (r : Record) : Except Failure Table :=
  if asksForTime p.text then (timeText r.second).map fun time => r.fields (some (time ++ ",000"))
  else .ok (r.fields none)

/-- What a pattern makes of a record. -/
def Pattern.render (p : Pattern) (r : Record) : Except Failure Text :=
  match p.fields r with
  | .error f => .error f
  | .ok fields =>
    renderFrom fields p.text.length (p.text.length + 1) (some (.table fields)) p.text

end StaticHttp.Log
