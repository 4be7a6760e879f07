import StaticHttp.Number.Binary64

/-!
# The shortest decimal of a double

A finite number is written with the fewest digits that read back as the same number, and with
the nearest of those where there are several.  For each count of digits the number's two
neighbours on the grid of decimals with that many digits are tried; the first count for which one of
them reads back is the answer.
-/

namespace StaticHttp.Binary64

/-- The quotient `num / den` of a positive number. -/
structure Ratio where
  num : Nat
  den : Nat

/-- The magnitude of a finite number as a quotient. -/
def magnitude (x : Binary64) : Ratio :=
  let (m, q) := x.parts
  if 0 ≤ q then ⟨m <<< q.toNat, 1⟩ else ⟨m, 1 <<< (-q).toNat⟩

/-- A quotient times a power of ten. -/
def Ratio.scale (r : Ratio) (k : Int) : Ratio :=
  if 0 ≤ k then ⟨r.num * Nat.pow 10 k.toNat, r.den⟩ else ⟨r.num, r.den * Nat.pow 10 (-k).toNat⟩

/-- The `k` with `10 ^ k ≤ r < 10 ^ (k + 1)`, looked for among the few values that the binary
logarithm leaves open. -/
def Ratio.decimalExponent (r : Ratio) : Int :=
  let low : Int := ((r.num.log2 : Int) - r.den.log2 - 1) * 30103 / 100000 - 1
  let atLeast (k : Int) : Bool := let s := r.scale (-k); s.den ≤ s.num
  if atLeast (low + 3) then low + 3
  else if atLeast (low + 2) then low + 2
  else if atLeast (low + 1) then low + 1
  else low

/-- The decimal `digits · 10 ^ exponent`. -/
structure Decimal where
  digits : Nat
  exponent : Int
deriving DecidableEq

/-- The neighbours of `r` among the multiples of `10 ^ exponent`, the nearer one first, of two
equally near ones the even one. -/
def Ratio.neighbours (r : Ratio) (exponent : Int) : List Decimal :=
  let s := r.scale (-exponent)
  let below := s.num / s.den
  let rest := s.num % s.den
  let lower : Decimal := ⟨below, exponent⟩
  let upper : Decimal := ⟨below + 1, exponent⟩
  if 2 * rest < s.den ∨ (2 * rest = s.den ∧ below % 2 = 0) then [lower, upper] else [upper, lower]

/-- The decimal that stands for the magnitude of a finite number other than zero: seventeen
digits always suffice. -/
def shortest (x : Binary64) : Decimal :=
  let r := x.magnitude
  let k := r.decimalExponent
  let readsBack (d : Decimal) : Bool := (ofDecimal x.isNegative d.digits d.exponent).bits == x.bits
  match (List.range 17).findSome? fun (n : Nat) => (r.neighbours (k - n)).find? readsBack with
  | some d => d
  | none => ⟨x.parts.1, 0⟩

/-- The digits without trailing zeros, and the power of ten of the first of them. -/
def Decimal.significant (d : Decimal) : Text × Int :=
  let ds := Text.ofNat d.digits
  ((ds.reverse.dropWhile (· = ('0' : CodePoint))).reverse, d.exponent + ds.length - 1)

/-- A positive number in decimal: positional, with at least one digit on either side of the point,
when its first digit is worth at least `10 ^ -4` and less than `10 ^ 16`; otherwise with an
exponent of two digits or more. -/
def Decimal.text (d : Decimal) : Text :=
  let (ds, first) := d.significant
  if -4 ≤ first ∧ first < 16 then
    if first < 0 then "0." ++ List.replicate (-first - 1).toNat ('0' : CodePoint) ++ ds
    else
      let whole := first.toNat + 1
      let padded := ds ++ List.replicate (whole - ds.length) ('0' : CodePoint)
      let fraction := padded.drop whole
      padded.take whole ++ "." ++ (if fraction.isEmpty then ("0" : Text) else fraction)
  else
    let tail := ds.drop 1
    ds.take 1 ++ (if tail.isEmpty then [] else ("." : Text) ++ tail) ++
      (if first < 0 then ("e-" : Text) else "e+") ++ Text.zeroPadded 2 first.natAbs

/-- A number in decimal; a whole number keeps the zero after its point. -/
def text (x : Binary64) : Text :=
  if x.isNaN then "nan"
  else
    let unsigned : Text :=
      if x.isInfinite then "inf" else if x.isZero then "0.0" else x.shortest.text
    if x.isNegative then "-" ++ unsigned else unsigned

example : (ofDecimal false 1 (-1)).text = "0.1" := by decide +kernel

example : (ofDecimal false 1 16).text = "1e+16" := by decide +kernel

example : (ofDecimal true 5 (-324)).text = "-5e-324" := by decide +kernel

example : (ofDecimal false 5684341886080802 (-29)).text = "5.684341886080802e-14" := by
  decide +kernel

end StaticHttp.Binary64
