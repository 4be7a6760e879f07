import StaticHttp.Number.Shortest

/-!
# Decimals of a given length

A finite number is written with a given number of places behind the point, or with a given number
of digits in all; the last one is rounded, a half going to the even neighbour.  Where the digits
are counted, a number that is neither very large nor very small is written without an exponent.
-/

namespace StaticHttp.Binary64

/-- A quotient rounded to a number of digits in all, and the power of ten of the first of them. -/
def Ratio.rounded (r : Ratio) (digits : Nat) : Nat × Int :=
  if r.num = 0 then (0, 0)
  else
    let k := r.decimalExponent
    let s := r.scale (digits - 1 - k)
    let n := roundDiv s.num s.den
    if n = Nat.pow 10 digits then (Nat.pow 10 (digits - 1), k + 1) else (n, k)

/-- A whole number with a point in front of the last `places` digits.  Without places the point is
left out unless `always`. -/
def pointed (places : Nat) (always : Bool) (n : Nat) : Text :=
  let digits := Text.zeroPadded (places + 1) n
  let front := digits.take (digits.length - places)
  if places = 0 && !always then front
  else front ++ "." ++ digits.drop (digits.length - places)

/-- An exponent: a sign and at least two digits. -/
def exponentText (k : Int) : Text :=
  "e" ++ (if k < 0 then ("-" : Text) else "+") ++ Text.zeroPadded 2 k.natAbs

/-- A text without the zeros at the end of its places, and without the point if none are left. -/
def trimmed (t : Text) : Text :=
  if t.contains '.' then
    let t := (t.reverse.dropWhile (· = ('0' : CodePoint))).reverse
    if t.getLast? = some ('.' : CodePoint) then t.dropLast else t
  else t

/-- No double has more digits than this, nor a digit further behind the point. -/
def maxPlaces : Nat := 1100

/-- The zeros that are written behind the last place that can have another digit. -/
def zerosBehind (places : Nat) : Text := List.replicate (places - maxPlaces) ('0' : CodePoint)

/-- What stands for the magnitude of a number that is not finite. -/
def notFinite (x : Binary64) : Text := if x.isNaN then "nan" else "inf"

/-- The magnitude with a number of places behind the point. -/
def fixed (x : Binary64) (places : Nat) (always : Bool) : Text :=
  if x.isFinite then
    let near := min places maxPlaces
    let s := x.magnitude.scale near
    pointed near always (roundDiv s.num s.den) ++ zerosBehind places
  else x.notFinite

/-- The magnitude with one digit in front of the point, a number of places behind it, and an
exponent. -/
def scientific (x : Binary64) (places : Nat) (always : Bool) : Text :=
  if x.isFinite then
    let near := min places maxPlaces
    let (n, k) := x.magnitude.rounded (near + 1)
    pointed near always n ++ zerosBehind places ++ exponentText k
  else x.notFinite

/-- The magnitude with a number of digits in all, without an exponent if its first digit is worth at
least `10 ^ -4` and is not further to the left than there are digits.  Zeros at the end are left
out unless `always`. -/
def general (x : Binary64) (digits : Nat) (always : Bool) : Text :=
  if x.isFinite then
    let digits := max 1 digits
    let near := min digits maxPlaces
    let (n, k) := x.magnitude.rounded near
    let finish (t : Text) : Text := if always then t ++ zerosBehind digits else trimmed t
    if -4 ≤ k ∧ k < digits then finish (pointed (near - 1 - k).toNat always n)
    else finish (pointed (near - 1) always n) ++ exponentText k
  else x.notFinite

example : fixed (ofDecimal false 25 (-1)) 0 false = "2" := by decide +kernel

example : scientific (ofDecimal false 99995 0) 3 false = "1.000e+05" := by decide +kernel

example : general (ofDecimal false 12345678 0) 6 false = "1.23457e+07" := by decide +kernel

example : general (ofDecimal false 1 (-4)) 6 false = "0.0001" := by decide +kernel

end StaticHttp.Binary64
