import StaticHttp.Failure

/-!
# Requests

All that is read of a request is its head: the bytes in front of the first empty line.  The
requested path is the second word of the head.

    words "GET /a\r\nHost: b" = ["GET", "/a", "Host:", "b"]
-/

namespace StaticHttp.Request

/-- The end of a line and an empty line: what ends a head. -/
def blankLine : Bytes := [0x0D, 0x0A, 0x0D, 0x0A]

/-- The position of the first occurrence of a pattern. -/
def indexOf? (pattern : Bytes) : Bytes → Option Nat
  | [] => if pattern.isEmpty then some 0 else none
  | b :: rest =>
    if pattern.isPrefixOf (b :: rest) then some 0 else (indexOf? pattern rest).map (· + 1)

/-- The position of the first occurrence of a pattern at or behind a position. -/
def indexFrom? (pattern bytes : Bytes) (start : Nat) : Option Nat :=
  (indexOf? pattern (bytes.drop start)).map (· + start)

/-- Space, tab, line feed, vertical tab, form feed and carriage return. -/
def isSpace (b : UInt8) : Bool := b = 0x20 || (0x09 ≤ b && b ≤ 0x0D)

/-- The maximal runs of bytes that are not white space. -/
def words (bs : Bytes) : List Bytes := (pieces isSpace bs).filter (!·.isEmpty)

/-- The requested path: the second word of a head, bytes that are not UTF-8 being kept. -/
def path (head : Bytes) : Except Failure Text :=
  match words head with
  | _ :: word :: _ => .ok (Utf8.decodeEscaping word)
  | _ => .error (.malformed head)

/-- The first line of a head, U+FFFD standing for what is not UTF-8. -/
def line (head : Bytes) : Text :=
  let line := match indexOf? [0x0D, 0x0A] head with
    | some n => head.take n
    | none => head
  Utf8.decodeReplacing line

example : words [0x47, 0x20, 0x0A, 0x2F, 0x61, 0x0D] = [[0x47], [0x2F, 0x61]] := by decide

end StaticHttp.Request
