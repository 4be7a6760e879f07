import StaticHttp.Json.Fault
import StaticHttp.Number.Reading
import StaticHttp.Value

/-!
# Reading JSON

`read?` reads a text that holds one JSON value, NaN and the infinities included.  Texts may
hold any code point that is not a control; a pair of escapes for a surrogate pair is one code
point, and a surrogate that is part of no pair is kept.  A name that occurs twice in an object
keeps its first place and its last value.  Arrays and objects nest at most `maxDepth` deep.
-/

namespace StaticHttp.Json

/-- What is left of a text, and how many code points are in front of it. -/
structure Cursor where
  position : Nat
  rest : Text

/-- Why reading stopped, the place being given by position alone. -/
inductive Stop
  | complaint (c : Complaint) (position : Nat)
  | tooManyDigits (count : Nat)
  | tooDeep (inArray : Bool)

/-- The white space of JSON. -/
def isSpace (c : CodePoint) : Bool := c.val = 0x20 || c.val = 0x09 || c.val = 0x0A || c.val = 0x0D

/-- The cursor behind the white space in front of it. -/
def Cursor.skipSpace (k : Cursor) : Cursor :=
  let n := (k.rest.takeWhile isSpace).length
  ⟨k.position + n, k.rest.drop n⟩

/-- The cursor behind the next `n` code points. -/
def Cursor.advance (k : Cursor) (n : Nat) : Cursor := ⟨k.position + n, k.rest.drop n⟩

/-- Whether a given code point is next. -/
def Cursor.at (k : Cursor) (c : CodePoint) : Bool := k.rest.head? = some c

/-! ## Strings -/

/-- The value of four hexadecimal digits in front of a text, and the rest. -/
def hexFour? : Text → Option (Nat × Text)
  | a :: b :: c :: d :: rest =>
    match a.hexValue?, b.hexValue?, c.hexValue?, d.hexValue? with
    | some a, some b, some c, some d => some (((a * 16 + b) * 16 + c) * 16 + d, rest)
    | _, _, _, _ => none
  | _ => none

/-- What a letter after a backslash stands for. -/
def escapeLetter? (c : CodePoint) : Option CodePoint :=
  if c = '"' ∨ c = '\\' ∨ c = '/' then some c
  else if c = 'b' then some '\x08'
  else if c = 'f' then some '\x0c'
  else if c = 'n' then some '\n'
  else if c = 'r' then some '\r'
  else if c = 't' then some '\t'
  else none

/-- The low half of a surrogate pair, if an escape for it comes next and the text goes on behind it:
its value and the rest.  A second escape that is none is a fault. -/
def lowHalf? (k : Cursor) : Except Stop (Option (Nat × Cursor)) :=
  match k.rest with
  | b :: u :: digits =>
    if b = '\\' ∧ u = 'u' ∧ 4 < digits.length then
      match hexFour? digits with
      | none => .error (.complaint .badUnicodeEscape (k.position + 1))
      | some (n, _) => .ok (if 0xDC00 ≤ n ∧ n < 0xE000 then some (n, k.advance 6) else none)
    else .ok none
  | _ => .ok none

/-- The code point of a `u` escape, the cursor being behind the `u`.  At least one code point must
follow the digits. -/
def unicodeEscape (k : Cursor) : Except Stop (CodePoint × Cursor) :=
  let bad := Stop.complaint .badUnicodeEscape (k.position - 1)
  if (k.rest.drop 4).isEmpty then .error bad
  else
    match hexFour? k.rest with
    | none => .error bad
    | some (n, _) =>
      let k := k.advance 4
      if 0xD800 ≤ n ∧ n < 0xDC00 then
        match lowHalf? k with
        | .error s => .error s
        | .ok (some (low, k)) =>
          .ok (CodePoint.ofNat (0x10000 + (n - 0xD800) * 0x400 + (low - 0xDC00)), k)
        | .ok none => .ok (CodePoint.ofNat n, k)
      else .ok (CodePoint.ofNat n, k)

/-- The rest of a string whose opening quote is at `opening`; `acc` holds what was read, last first.
`fuel` bounds the code points and escapes still to be read. -/
def stringTail (opening : Nat) : (fuel : Nat) → (acc : Text) → Cursor → Except Stop (Text × Cursor)
  | 0, _, _ => .error (.complaint .unterminatedString opening)
  | fuel + 1, acc, k =>
    match k.rest with
    | [] => .error (.complaint .unterminatedString opening)
    | c :: rest =>
      if c = '"' then .ok (acc.reverse, k.advance 1)
      else if c = '\\' then
        match rest with
        | [] => .error (.complaint .unterminatedString opening)
        | letter :: _ =>
          if letter = 'u' then
            match unicodeEscape (k.advance 2) with
            | .error s => .error s
            | .ok (d, k) => stringTail opening fuel (d :: acc) k
          else
            match escapeLetter? letter with
            | none => .error (.complaint .badEscape k.position)
            | some d => stringTail opening fuel (d :: acc) (k.advance 2)
      else if c.val < 0x20 then .error (.complaint .controlInString k.position)
      else stringTail opening fuel (c :: acc) (k.advance 1)

/-- The string whose opening quote is next. -/
def string (k : Cursor) : Except Stop (Text × Cursor) :=
  stringTail k.position (k.rest.length + 1) [] (k.advance 1)

/-! ## Numbers -/

/-- The digits of a whole number: a zero alone, or a run that does not start with one. -/
def wholeDigits (t : Text) : Text :=
  match t with
  | [] => []
  | c :: _ => if c = '0' then [c] else t.takeWhile CodePoint.isAsciiDigit

/-- The digits behind a point in front of a text; none if the point has no digit behind it. -/
def fractionDigits (t : Text) : Text :=
  match t with
  | [] => []
  | c :: rest => if c = '.' then rest.takeWhile CodePoint.isAsciiDigit else []

/-- The exponent in front of a text and the count of its code points; none if it has no digits. -/
def exponentOf? (t : Text) : Option (Int × Nat) :=
  match t with
  | [] => none
  | e :: rest =>
    if e = 'e' ∨ e = 'E' then
      let (negative, tail) := Number.splitSign rest
      let ds := tail.takeWhile CodePoint.isAsciiDigit
      if ds.isEmpty then none
      else
        let n : Int := Number.ofDigits ds
        some (if negative then -n else n, 1 + (rest.length - tail.length) + ds.length)
    else none

/-- The number that is next. -/
def number (k : Cursor) : Except Stop (Value × Cursor) :=
  let negative := k.at '-'
  let signed := if negative then k.advance 1 else k
  let whole := wholeDigits signed.rest
  if whole.isEmpty then .error (.complaint .valueExpected k.position)
  else
    let behindWhole := signed.advance whole.length
    let fraction := fractionDigits behindWhole.rest
    let behindFraction :=
      if fraction.isEmpty then behindWhole else behindWhole.advance (fraction.length + 1)
    match exponentOf? behindFraction.rest with
    | some (e, n) => .ok (.real (Number.realOf negative whole fraction e), behindFraction.advance n)
    | none =>
      if fraction.isEmpty then
        if Number.maxDigits < whole.length then .error (.tooManyDigits whole.length)
        else
          let n : Int := Number.ofDigits whole
          .ok (.int (if negative then -n else n), behindWhole)
      else .ok (.real (Number.realOf negative whole fraction 0), behindFraction)

/-! ## Values -/

/-- The words that are values. -/
def words : List (Text × Value) :=
  [("null", .null), ("true", .bool true), ("false", .bool false), ("NaN", .real Binary64.nan),
    ("Infinity", .real (Binary64.infinity false)), ("-Infinity", .real (Binary64.infinity true))]

/-- How deep arrays and objects may nest when the program reads the configuration file that its
command line names.  Calls may be 1000 deep, each array or object takes one, and this is what the
calls on the way to the reader leave of them.  Other callers are on their way to it through more
calls or fewer, so for them it is a little less or more. -/
def maxDepth : Nat := 990

mutual

/-- The value that is next.  `depth` is how much deeper arrays and objects may nest. -/
def value : (fuel : Nat) → (depth : Nat) → Cursor → Except Stop (Value × Cursor)
  | 0, _, k => .error (.complaint .valueExpected k.position)
  | fuel + 1, depth, k =>
    if k.at '"' then
      match string k with
      | .error s => .error s
      | .ok (t, k) => .ok (.text t, k)
    else if k.at '\x7b' then
      match depth with
      | 0 => .error (.tooDeep false)
      | depth + 1 =>
        let k := (k.advance 1).skipSpace
        if k.at '\x7d' then .ok (.table [], k.advance 1) else members fuel depth [] k
    else if k.at '[' then
      match depth with
      | 0 => .error (.tooDeep true)
      | depth + 1 =>
        let k := (k.advance 1).skipSpace
        if k.at ']' then .ok (.list [], k.advance 1) else items fuel depth [] k
    else
      match words.find? fun w => w.1.isPrefixOf k.rest with
      | some (word, v) => .ok (v, k.advance word.length)
      | none => number k

/-- The rest of an array whose next item is at the cursor; `acc` holds the items, last first. -/
def items : (fuel : Nat) → (depth : Nat) → (acc : List Value) → Cursor →
    Except Stop (Value × Cursor)
  | 0, _, _, k => .error (.complaint .valueExpected k.position)
  | fuel + 1, depth, acc, k =>
    match value fuel depth k with
    | .error s => .error s
    | .ok (v, k) =>
      let k := k.skipSpace
      if k.at ']' then .ok (.list (v :: acc).reverse, k.advance 1)
      else if k.at ',' then items fuel depth (v :: acc) (k.advance 1).skipSpace
      else .error (.complaint .commaExpected k.position)

/-- The rest of an object whose next name is at the cursor; `acc` holds the members read. -/
def members : (fuel : Nat) → (depth : Nat) → (acc : Table) → Cursor →
    Except Stop (Value × Cursor)
  | 0, _, _, k => .error (.complaint .nameExpected k.position)
  | fuel + 1, depth, acc, k =>
    if k.at '"' then
      match string k with
      | .error s => .error s
      | .ok (name, k) =>
        let k := k.skipSpace
        if k.at ':' then
          match value fuel depth (k.advance 1).skipSpace with
          | .error s => .error s
          | .ok (v, k) =>
            let k := k.skipSpace
            let acc := acc.put name v
            if k.at '\x7d' then .ok (.table acc, k.advance 1)
            else if k.at ',' then members fuel depth acc (k.advance 1).skipSpace
            else .error (.complaint .commaExpected k.position)
        else .error (.complaint .colonExpected k.position)
    else .error (.complaint .nameExpected k.position)

end

/-- The one value that a text holds, by position of what is wrong. -/
def wholeValue (t : Text) : Except Stop Value :=
  if t.head? = some (CodePoint.ofNat 0xFEFF) then .error (.complaint .byteOrderMark 0)
  else
    match value (2 * t.length + 2) maxDepth (Cursor.mk 0 t).skipSpace with
    | .error s => .error s
    | .ok (v, k) =>
      let k := k.skipSpace
      if k.rest.isEmpty then .ok v else .error (.complaint .extraData k.position)

/-- The one value that a text holds. -/
def read? (t : Text) : Except Refusal Value :=
  match wholeValue t with
  | .ok v => .ok v
  | .error (.complaint c position) => .error (.fault (Fault.at c t position))
  | .error (.tooManyDigits count) => .error (.tooManyDigits count)
  | .error (.tooDeep inArray) => .error (.tooDeep inArray)

end StaticHttp.Json
