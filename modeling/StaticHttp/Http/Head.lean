import StaticHttp.Connection
import StaticHttp.Http.Request

/-!
# Reading the head of a request

Bytes are received until the first empty line is among them; the head is what is in front of
it.  The search goes on where a blank line could begin that ends in the new bytes: three bytes
before the end of what was there.

    window "abcd\r\n".reverse "\r\n" = "d\r\n\r\n"
-/

namespace StaticHttp.Request

/-- How many bytes of a blank line can come in before its last one. -/
def overlap : Nat := blankLine.length - 1

/-- Where the search for a blank line goes on when more bytes come in behind a number of them. -/
def resumeAt (received : Nat) : Nat := received - overlap

/-- The bytes that a blank line ending in `chunk` is made of.  `seen` is what was received before,
the last byte first. -/
def window (seen chunk : Bytes) : Bytes := (seen.take overlap).reverse ++ chunk

/-- The head of a request of which `seen` has been received, the last byte first; there is no blank
line in it. -/
def readFrom (size : Value) (seen : Bytes) (x : Exchange) : EStateM.Result Failure Exchange Bytes :=
  match _h : x.take size with
  | (.error f, x') => .error f x'
  | (.ok chunk, x') =>
    if _hc : chunk = [] then .error (.incomplete seen.length) x'
    else
      match indexOf? blankLine (window seen chunk) with
      | some n => .ok ((seen.drop overlap).reverse ++ (window seen chunk).take n) x'
      | none => readFrom size (chunk.reverse ++ seen) x'
termination_by x.connection.weight
decreasing_by exact Exchange.weight_take _h _hc

/-- The head of a request: everything in front of the first blank line.  Each receive asks for at
most `size` bytes. -/
def readHead (size : Value) : Run Exchange Bytes := readFrom size []

/-- Bytes received one time, if nothing else says so. -/
def standardSize : Value := .int 1024

/-! ## Lemmas -/

theorem drop_resumeAt (seen chunk : Bytes) :
    (seen.reverse ++ chunk).drop (resumeAt seen.length) = window seen chunk := by
  rw [resumeAt, window, List.drop_append_of_le_length (by simp), List.drop_reverse]
  congr 2
  by_cases h : overlap ≤ seen.length
  · rw [Nat.sub_sub_self h]
  · rw [List.take_of_length_le (by omega), List.take_of_length_le (by omega)]

/-- The search in the window is the one that goes on in all that was received. -/
theorem indexFrom?_resumeAt (seen chunk : Bytes) :
    indexFrom? blankLine (seen.reverse ++ chunk) (resumeAt seen.length) =
      (indexOf? blankLine (window seen chunk)).map (· + resumeAt seen.length) := by
  rw [indexFrom?, drop_resumeAt]

/-- What stands in front of a position of the window, and in front of the window itself. -/
theorem append_take_window (seen chunk : Bytes) (n : Nat) :
    (seen.drop overlap).reverse ++ (window seen chunk).take n =
      (seen.reverse ++ chunk).take (resumeAt seen.length + n) := by
  rw [List.take_add, drop_resumeAt, resumeAt, List.take_append_of_le_length (by simp),
    List.take_reverse]
  congr 2
  by_cases h : overlap ≤ seen.length
  · rw [Nat.sub_sub_self h]
  · rw [List.drop_eq_nil_of_le (by omega), List.drop_eq_nil_of_le (by omega)]

end StaticHttp.Request
