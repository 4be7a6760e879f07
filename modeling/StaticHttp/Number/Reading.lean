import StaticHttp.Number.Binary64
import StaticHttp.Text.Digit

/-!
# Reading numbers from text

`int?` and `real?` read what a person types: white space around the number, digits of any
script, a sign, and single underscores between digits.  A text that is not ASCII is first
brought into ASCII, its white space becoming spaces and its digits the ASCII ones.
-/

namespace StaticHttp.Number

/-- Digits of a base, the least first, joined in twos: digits of its square. -/
def joinTwos (base : Nat) : List Nat → List Nat
  | a :: b :: rest => (a + base * b) :: joinTwos base rest
  | ds => ds

/-- The number whose digits in a base are given, the least first.  Digits are joined in twos again
and again, so that long numbers are multiplied with long ones only; `fuel` bounds how often. -/
def ofDigitsFrom (fuel base : Nat) (ds : List Nat) : Nat :=
  match fuel, ds with
  | _, [] => 0
  | _, [d] => d
  | 0, ds => ds.foldr (fun d n => d + base * n) 0
  | fuel + 1, ds => ofDigitsFrom fuel (base * base) (joinTwos base ds)

/-- The value of a run of ASCII digits. -/
def ofDigits (ds : Text) : Nat := ofDigitsFrom 64 10 (ds.reverse.map fun c => c.val - 0x30)

/-- Digits past this count are refused in a whole number: the time to convert them grows with
the square of their count. -/
def maxDigits : Nat := 4300

/-- The double `± whole.fraction · 10 ^ exponent`, from its runs of digits. -/
def realOf (negative : Bool) (whole fraction : Text) (exponent : Int) : Binary64 :=
  Binary64.ofDecimal negative (ofDigits (whole ++ fraction)) (exponent - fraction.length)

/-- The longest run of ASCII digits in front of a text, and the rest. -/
def spanDigits (t : Text) : Text × Text :=
  (t.takeWhile CodePoint.isAsciiDigit, t.dropWhile CodePoint.isAsciiDigit)

/-- A text with its white space and digits brought into ASCII, or nothing if it holds anything
else above ASCII. -/
def toAscii? (t : Text) : Option Text :=
  if t.all CodePoint.isAscii then some t
  else
    t.mapM fun c =>
      if c.val < 0x7F then some c
      else if Text.isWideSpace c then some (' ' : CodePoint)
      else (Text.digitValue? c).map fun d => CodePoint.ofNat (0x30 + d)

/-- A text without the white space at its ends. -/
def trim (t : Text) : Text :=
  ((t.dropWhile Text.isAsciiSpace).reverse.dropWhile Text.isAsciiSpace).reverse

/-- A text without its underscores, each of which must stand between two digits. -/
def ungroup? (afterDigit : Bool) : Text → Option Text
  | [] => some []
  | c :: rest =>
    if c = '_' then
      match rest with
      | d :: _ => if afterDigit && d.isAsciiDigit then ungroup? false rest else none
      | [] => none
    else (ungroup? c.isAsciiDigit rest).map (c :: ·)

/-- Whether a text starts with a minus sign, and what follows its sign. -/
def splitSign : Text → Bool × Text
  | [] => (false, [])
  | c :: rest =>
    if c = '-' then (true, rest) else if c = '+' then (false, rest) else (false, c :: rest)

/-- The sign and the rest of a number as a person types it. -/
def typed? (t : Text) : Option (Bool × Text) :=
  ((toAscii? t).bind fun a => ungroup? false (trim a)).map splitSign

/-- The whole number that a text spells. -/
def int? (t : Text) : Option Int :=
  match typed? t with
  | none => none
  | some (negative, ds) =>
    if ds.isEmpty || !ds.all CodePoint.isAsciiDigit || maxDigits < ds.length then none
    else some (if negative then -(ofDigits ds : Int) else ofDigits ds)

/-- A letter of ASCII in lower case. -/
def asciiLower (c : CodePoint) : CodePoint :=
  if 0x41 ≤ c.val ∧ c.val ≤ 0x5A then CodePoint.ofNat (c.val + 0x20) else c

/-- The power of ten written at the end of a number: nothing, or `e` and a signed whole number. -/
def exponent? : Text → Option Int
  | [] => some 0
  | c :: rest =>
    if asciiLower c = 'e' then
      let (negative, ds) := splitSign rest
      if ds.isEmpty || !ds.all CodePoint.isAsciiDigit then none
      else some (if negative then -(ofDigits ds : Int) else ofDigits ds)
    else none

/-- The digits after a point, if there is one, and the rest. -/
def fractionDigits : Text → Text × Text
  | [] => ([], [])
  | c :: rest => if c = '.' then spanDigits rest else ([], c :: rest)

/-- The double that a text spells: a decimal number, an infinity or NaN. -/
def real? (t : Text) : Option Binary64 :=
  match typed? t with
  | none => none
  | some (negative, body) =>
    let word := body.map asciiLower
    if word = "inf" ∨ word = "infinity" then some (Binary64.infinity negative)
    else if word = "nan" then some Binary64.nan
    else
      let (whole, rest) := spanDigits body
      let (fraction, rest) := fractionDigits rest
      if whole.isEmpty && fraction.isEmpty then none
      else (exponent? rest).map (realOf negative whole fraction)

/-! ## Lemmas -/

theorem foldr_joinTwos (base : Nat) (ds : List Nat) :
    (joinTwos base ds).foldr (fun d n => d + base * base * n) 0 =
      ds.foldr (fun d n => d + base * n) 0 := by
  fun_induction joinTwos base ds with
  | case1 a b rest ih =>
    simp only [List.foldr_cons, ih]
    simp only [Nat.mul_add, Nat.add_assoc, Nat.mul_assoc]
  | case2 ds h =>
    match ds, h with
    | [], _ => rfl
    | [d], _ => simp
    | a :: b :: rest, h => exact absurd rfl (h a b rest)

theorem ofDigitsFrom_eq_foldr (fuel base : Nat) (ds : List Nat) :
    ofDigitsFrom fuel base ds = ds.foldr (fun d n => d + base * n) 0 := by
  fun_induction ofDigitsFrom fuel base ds with
  | case1 => rfl
  | case2 => simp
  | case3 => rfl
  | case4 fuel base ds _ _ ih => rw [ih, foldr_joinTwos]

/-- Each further digit counts for one, and what is in front of it for ten times as much. -/
theorem ofDigits_eq_foldl (ds : Text) :
    ofDigits ds = ds.foldl (fun n c => 10 * n + (c.val - 0x30)) 0 := by
  simp only [ofDigits, ofDigitsFrom_eq_foldr, List.foldr_map, List.foldr_reverse, Nat.add_comm]

example : int? " -1_000\n" = some (-1000) := by decide +kernel

example : int? "1__0" = none := by decide +kernel

example : real? "1_0.5e-1" = some (Binary64.ofDecimal false 105 (-2)) := by decide +kernel

example : real? "1._5" = none := by decide +kernel

end StaticHttp.Number
