import StaticHttp.Text.Printable

/-!
# Quoted texts and quoted bytes

A text in a message is put between quotes and everything that could break the line or the
quotes is escaped: single quotes are used unless the text has one and no double quote, a
backslash or the quote itself gets a backslash, tab, line feed and carriage return are `\t`,
`\n` and `\r`, and any other code point that is not printable is written `\xhh`, `\uhhhh` or
`\Uhhhhhhhh` by its size.  Bytes follow the same rules with `b` in front, every byte outside
printable ASCII being `\xhh`.
-/

namespace StaticHttp.Text

/-- The quote for a text that holds the given quotes. -/
def quoteFor (single double : Bool) : CodePoint := if single && !double then '"' else '\''

/-- The letter of a control that has an escape of its own. -/
def controlLetter? (n : Nat) : Option CodePoint :=
  if n = 0x09 then some 't' else if n = 0x0A then some 'n' else if n = 0x0D then some 'r' else none

/-- How a code point appears between quotes. -/
def escapeWithin (quote c : CodePoint) : Text :=
  if c = quote ∨ c = '\\' then ['\\', c]
  else
    match controlLetter? c.val with
    | some letter => ['\\', letter]
    | none =>
      if isPrintable c then [c]
      else if c.val < 0x100 then "\\x" ++ hex 2 c.val
      else if c.val < 0x10000 then "\\u" ++ hex 4 c.val
      else "\\U" ++ hex 8 c.val

/-- A text between quotes. -/
def quoted (t : Text) : Text :=
  let quote := quoteFor (t.contains '\'') (t.contains '"')
  quote :: t.flatMap (escapeWithin quote) ++ [quote]

/-- How a byte appears between quotes. -/
def escapeByte (quote : CodePoint) (b : UInt8) : Text :=
  let c := CodePoint.ofNat b.toNat
  if c = quote ∨ c = '\\' then ['\\', c]
  else
    match controlLetter? b.toNat with
    | some letter => ['\\', letter]
    | none => if c.isAscii && isPrintable c then [c] else "\\x" ++ hex 2 b.toNat

/-- Bytes between quotes. -/
def quotedBytes (bs : Bytes) : Text :=
  let quote := quoteFor (bs.contains 0x27) (bs.contains 0x22)
  "b" ++ quote :: bs.flatMap (escapeByte quote) ++ [quote]

example : quoted "it's \"x\"\n" = "'it\\'s \"x\"\\n'" := by decide

example : quoted "it's" = "\"it's\"" := by decide

example : quotedBytes [0x61, 0x00, 0xFF, 0x5C] = "b'a\\x00\\xff\\\\'" := by decide

end StaticHttp.Text
