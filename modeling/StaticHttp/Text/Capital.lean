import StaticHttp.Text.CodePoint

/-!
# Capitals

Names are compared in capitals.  Besides the letters of ASCII, ten letters and ligatures have
capital forms that are spelled with ASCII letters alone; any other code point has a capital
form outside ASCII, or none, and can be no part of an ASCII name either way.
-/

namespace StaticHttp.Text

/-- The code points above ASCII whose capital form is spelled in ASCII. -/
def asciiCapitals : List (Nat × String) :=
  [(0xDF, "SS"), (0x131, "I"), (0x17F, "S"), (0xFB00, "FF"), (0xFB01, "FI"), (0xFB02, "FL"),
    (0xFB03, "FFI"), (0xFB04, "FFL"), (0xFB05, "ST"), (0xFB06, "ST")]

/-- The capital form of a code point as far as it is spelled in ASCII. -/
def capital (c : CodePoint) : Text :=
  if 0x61 ≤ c.val ∧ c.val ≤ 0x7A then [CodePoint.ofNat (c.val - 0x20)]
  else
    match asciiCapitals.lookup c.val with
    | some letters => letters
    | none => [c]

/-- A text in capitals. -/
def capitals (t : Text) : Text := t.flatMap capital

example : capitals "Debug-1" = "DEBUG-1" := by decide

end StaticHttp.Text
