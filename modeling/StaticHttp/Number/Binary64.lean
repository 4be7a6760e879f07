import StaticHttp.Text.CodePoint

/-!
# Double-precision numbers

A number is its 64 bits: a sign, eleven bits of exponent and 52 of fraction.  A finite one is
`± m · 2 ^ q` for the whole numbers `m` and `q` of `parts`.  `ofRatio` is the double nearest to a
quotient, of two equally near ones the one with the even fraction, and everything else that
is computed here goes through it or through `parts`.
-/

namespace StaticHttp

/-- A double-precision number, as its bits. -/
structure Binary64 where
  bits : UInt64
deriving DecidableEq, Inhabited

namespace Binary64

/-- The sign bit. -/
def isNegative (x : Binary64) : Bool := x.bits.toNat.testBit 63

/-- What the exponent is counted in, among the bits. -/
def unit : Nat := 1 <<< 52

/-- The biased exponent; zero for the numbers nearest to zero, 2047 beyond the finite ones. -/
def exponentField (x : Binary64) : Nat := (x.bits.toNat >>> 52) % 2048

/-- The 52 bits of fraction. -/
def fractionField (x : Binary64) : Nat := x.bits.toNat % unit

/-- The number with the given fields. -/
def ofFields (negative : Bool) (exponent fraction : Nat) : Binary64 :=
  ⟨UInt64.ofNat ((if negative then 1 <<< 63 else 0) + (exponent <<< 52) + fraction)⟩

def isNaN (x : Binary64) : Bool := x.exponentField = 2047 && x.fractionField ≠ 0

def isInfinite (x : Binary64) : Bool := x.exponentField = 2047 && x.fractionField = 0

def isFinite (x : Binary64) : Bool := x.exponentField < 2047

/-- Both zeros. -/
def isZero (x : Binary64) : Bool := x.exponentField = 0 && x.fractionField = 0

/-- The `m` and `q` of the magnitude `m · 2 ^ q` of a finite number. -/
def parts (x : Binary64) : Nat × Int :=
  if x.exponentField = 0 then (x.fractionField, -1074)
  else (unit + x.fractionField, (x.exponentField : Int) - 1075)

def nan : Binary64 := ofFields false 2047 (1 <<< 51)

def infinity (negative : Bool) : Binary64 := ofFields negative 2047 0

def zero (negative : Bool) : Binary64 := ofFields negative 0 0

/-- A quotient rounded to the nearest whole number, a half going to the even neighbour. -/
def roundDiv (num den : Nat) : Nat :=
  let q := num / den
  let r := num % den
  if 2 * r < den then q else if den < 2 * r then q + 1 else q + q % 2

/-- The exponent `q ≥ -1074` for which `num / den / 2 ^ q` lies below `2 ^ 53` and, unless `q` is
-1074, not below `2 ^ 52`. -/
def exponentFor (num den : Nat) : Int :=
  let guess : Int := (num.log2 : Int) - den.log2 - 52
  let fits (q : Int) : Bool :=
    if 0 ≤ q then (unit * den) <<< q.toNat ≤ num else unit * den ≤ num <<< (-q).toNat
  max (if fits guess then guess else guess - 1) (-1074)

/-- The double nearest to `num / den`, for a positive `den`. -/
def ofRatio (negative : Bool) (num den : Nat) : Binary64 :=
  if num = 0 then zero negative
  else
    let q := exponentFor num den
    let m := if 0 ≤ q then roundDiv num (den <<< q.toNat) else roundDiv (num <<< (-q).toNat) den
    if m < unit then ofFields negative 0 m
    else
      let (m, q) := if m = 2 * unit then (unit, q + 1) else (m, q)
      if 971 < q then infinity negative
      else ofFields negative (q + 1075).toNat (m - unit)

/-- The double nearest to `digits · 10 ^ exponent`.  Far beyond either end of the range the
answer is known without computing the power. -/
def ofDecimal (negative : Bool) (digits : Nat) (exponent : Int) : Binary64 :=
  if digits = 0 then zero negative
  else
    if 400 < (digits.log2 : Int) * 3 / 10 + exponent then infinity negative
    else if (digits.log2 : Int) * 4 / 10 + 1 + exponent < -400 then zero negative
    else if 0 ≤ exponent then ofRatio negative (digits * Nat.pow 10 exponent.toNat) 1
    else ofRatio negative digits (Nat.pow 10 (-exponent).toNat)

/-- How the magnitude of a finite number compares with a quotient of positive numbers. -/
def compareMagnitude (x : Binary64) (num den : Nat) : Ordering :=
  let (m, q) := x.parts
  if 0 ≤ q then compare ((m * den) <<< q.toNat) num else compare (m * den) (num <<< (-q).toNat)

/-- How a number that is not NaN compares with a whole number. -/
def compareInt (x : Binary64) (n : Int) : Ordering :=
  if x.isInfinite then (if x.isNegative then .lt else .gt)
  else if x.isZero then compare 0 n
  else if x.isNegative then
    if 0 ≤ n then .lt else (compareMagnitude x n.natAbs 1).swap
  else if n ≤ 0 then .gt else compareMagnitude x n.natAbs 1

/-- Equal to a whole number. -/
def eqInt (x : Binary64) (n : Int) : Bool := !x.isNaN && x.compareInt n == .eq

/-- Greater than a whole number. -/
def gtInt (x : Binary64) (n : Int) : Bool := !x.isNaN && x.compareInt n == .gt

example : ofDecimal false 1 (-1) = ⟨0x3FB999999999999A⟩ := by decide +kernel

example : ofDecimal true 5 (-324) = ⟨0x8000000000000001⟩ := by decide +kernel

example : ofDecimal false 17976931348623159 292 = infinity false := by decide +kernel

example : (ofDecimal false 200 0).eqInt 200 = true := by decide +kernel

end Binary64

end StaticHttp
