import StaticHttp.Text.CodePoint

/-!
# What can be wrong with a JSON text

A fault is what is wrong and where.  The place is reported three ways: by line and column,
both counted from one, and by the number of code points in front of it.
-/

namespace StaticHttp.Json

/-- What is wrong with a text that is not JSON. -/
inductive Complaint
  | byteOrderMark
  | valueExpected
  | nameExpected
  | colonExpected
  | commaExpected
  | extraData
  | unterminatedString
  | controlInString
  | badEscape
  | badUnicodeEscape
deriving DecidableEq

/-- The wording of a complaint. -/
def Complaint.text : Complaint → Text
  | byteOrderMark => "Unexpected UTF-8 BOM (decode using utf-8-sig)"
  | valueExpected => "Expecting value"
  | nameExpected => "Expecting property name enclosed in double quotes"
  | colonExpected => "Expecting ':' delimiter"
  | commaExpected => "Expecting ',' delimiter"
  | extraData => "Extra data"
  | unterminatedString => "Unterminated string starting at"
  | controlInString => "Invalid control character at"
  | badEscape => "Invalid \\escape"
  | badUnicodeEscape => "Invalid \\uXXXX escape"

/-- A complaint and the place it is about. -/
structure Fault where
  complaint : Complaint
  line : Nat
  column : Nat
  position : Nat
deriving DecidableEq

/-- The fault at a position of a text. -/
def Fault.at (complaint : Complaint) (whole : Text) (position : Nat) : Fault :=
  let before := whole.take position
  let lastLine := before.reverse.takeWhile (· ≠ ('\n' : CodePoint))
  ⟨complaint, before.count ('\n' : CodePoint) + 1, lastLine.length + 1, position⟩

/-- The wording of a fault. -/
def Fault.text (f : Fault) : Text :=
  f.complaint.text ++ ": line " ++ Text.ofNat f.line ++ " column " ++ Text.ofNat f.column ++
    " (char " ++ Text.ofNat f.position ++ ")"

/-- Why a text could not be read: it is not JSON, a whole number has too many digits, or its
arrays and objects are nested too deeply. -/
inductive Refusal
  | fault (f : Fault)
  | tooManyDigits (count : Nat)
  | tooDeep (inArray : Bool)
deriving DecidableEq

end StaticHttp.Json
