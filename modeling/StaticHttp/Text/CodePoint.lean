/-!
# Text as code points

A text is a list of code points.  Unlike a character, a code point may be one of the
surrogates U+D800 … U+DFFF: a name on disk or a request line need not be valid UTF-8, and
a byte that does not decode is kept in a text as the surrogate `0xDC00 + byte`.

    (('a' : CodePoint)).val = 97
    (CodePoint.escape b).escaped? = some b          for b ≥ 0x80    (escaped?_escape)

String literals are texts wherever a text is expected.
-/

namespace StaticHttp

/-- Raw bytes, as they travel on a connection or lie in a file. -/
abbrev Bytes := List UInt8

/-- The bytes of an ASCII string. -/
def Bytes.ofAscii (s : String) : Bytes := s.toList.map fun c => UInt8.ofNat c.toNat

/-- What lies between the members of a list that separate: always one piece more than there are
separators. -/
def pieces {α : Type} (separates : α → Bool) : List α → List (List α)
  | [] => [[]]
  | a :: rest =>
    if separates a then [] :: pieces separates rest
    else
      match pieces separates rest with
      | [] => [[a]]
      | piece :: more => (a :: piece) :: more

/-- A Unicode code point, surrogates included. -/
structure CodePoint where
  val : Nat
  val_lt : val < 0x110000
deriving DecidableEq

/-- A text: any sequence of code points. -/
abbrev Text := List CodePoint

namespace CodePoint

theorem ext {a b : CodePoint} (h : a.val = b.val) : a = b := by
  cases a; cases b; cases h; rfl

/-- Every character is a code point. -/
def ofChar (c : Char) : CodePoint :=
  ⟨c.toNat, by
    have h := c.valid
    simp only [UInt32.isValidChar, Nat.isValidChar] at h
    show c.val.toNat < 0x110000
    omega⟩

instance : Coe Char CodePoint := ⟨ofChar⟩

instance : Inhabited CodePoint := ⟨'\x00'⟩

/-- The code point numbered `n`, the replacement character where there is none. -/
def ofNat (n : Nat) : CodePoint :=
  if h : n < 0x110000 then ⟨n, h⟩ else ⟨0xFFFD, by decide⟩

@[simp] theorem val_ofNat {n : Nat} (h : n < 0x110000) : (ofNat n).val = n := by
  simp [ofNat, h]

/-- The code points that encode no character of their own. -/
def isSurrogate (c : CodePoint) : Bool := 0xD800 ≤ c.val && c.val < 0xE000

theorem isSurrogate_iff {c : CodePoint} :
    c.isSurrogate = true ↔ 0xD800 ≤ c.val ∧ c.val < 0xE000 := by
  simp [isSurrogate]

/-- The surrogate that stands for a byte which is not part of any character. -/
def escape (b : UInt8) : CodePoint :=
  ⟨0xDC00 + b.toNat, by have := b.toNat_lt; omega⟩

@[simp] theorem val_escape (b : UInt8) : (escape b).val = 0xDC00 + b.toNat := rfl

theorem isSurrogate_escape (b : UInt8) : (escape b).isSurrogate = true := by
  have hb := b.toNat_lt
  rw [isSurrogate_iff, val_escape]
  omega

/-- The byte that a surrogate stands for; only bytes above ASCII are ever kept this way. -/
def escaped? (c : CodePoint) : Option UInt8 :=
  if 0xDC80 ≤ c.val ∧ c.val < 0xDD00 then some (UInt8.ofNat (c.val - 0xDC00)) else none

theorem escaped?_escape {b : UInt8} (h : 0x80 ≤ b.toNat) : (escape b).escaped? = some b := by
  have hb := b.toNat_lt
  have hc : 0xDC80 ≤ 0xDC00 + b.toNat ∧ 0xDC00 + b.toNat < 0xDD00 := by omega
  simp [escaped?, hc]

/-- ASCII code points are the ones below 128. -/
def isAscii (c : CodePoint) : Bool := c.val < 0x80

/-- The ten ASCII digits. -/
def isAsciiDigit (c : CodePoint) : Bool := 0x30 ≤ c.val && c.val ≤ 0x39

/-- The value of an ASCII hexadecimal digit of either case. -/
def hexValue? (c : CodePoint) : Option Nat :=
  if 0x30 ≤ c.val ∧ c.val ≤ 0x39 then some (c.val - 0x30)
  else if 0x61 ≤ c.val ∧ c.val ≤ 0x66 then some (c.val - 0x61 + 10)
  else if 0x41 ≤ c.val ∧ c.val ≤ 0x46 then some (c.val - 0x41 + 10)
  else none

end CodePoint

namespace Text

/-- The code points of a string. -/
@[coe] def ofString (s : String) : Text := s.toList.map CodePoint.ofChar

instance : Coe String Text := ⟨ofString⟩

/-- A number in base ten, without leading zeros. -/
def ofNat (n : Nat) : Text := (Nat.toDigits 10 n).map CodePoint.ofChar

/-- A whole number in base ten, with a minus sign in front of a negative one. -/
def ofInt : Int → Text
  | .ofNat n => ofNat n
  | .negSucc n => "-" ++ ofNat (n + 1)

/-- The lower-case hexadecimal digit of a value below sixteen. -/
def hexDigit (n : Nat) : CodePoint := CodePoint.ofNat (if n < 10 then 0x30 + n else 0x57 + n)

/-- The last `width` hexadecimal digits of a number. -/
def hex : (width : Nat) → Nat → Text
  | 0, _ => []
  | width + 1, n => hex width (n / 16) ++ [hexDigit (n % 16)]

/-- A number in base ten, padded with zeros on the left to at least `width` digits. -/
def zeroPadded (width n : Nat) : Text :=
  let ds := ofNat n
  List.replicate (width - ds.length) ('0' : CodePoint) ++ ds

/-- Whether a number lies in one of some closed ranges, which are in increasing order. -/
def inRanges (ranges : List (Nat × Nat)) (n : Nat) : Bool :=
  match ranges.find? fun range => n ≤ range.2 with
  | some range => range.1 ≤ n
  | none => false

/-- The text after the last occurrence of `sep`, if there is one. -/
def afterLast? (sep : CodePoint) : Text → Option Text
  | [] => none
  | c :: rest =>
    match afterLast? sep rest with
    | some tail => some tail
    | none => if c = sep then some rest else none

end Text

end StaticHttp
