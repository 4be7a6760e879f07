import StaticHttp.Text.Capital

/-!
# Capitals and names

`capitals` knows the capital forms that are spelled in ASCII and leaves every other code point above
ASCII as it is.  For names that makes no difference: whatever else these code points have for
capital forms, as long as each form holds something outside ASCII, the same texts come to an ASCII
name.

    Capitalizes upper → (t.flatMap upper = name ↔ capitals t = name)                (flatMap_eq_iff)
-/

namespace StaticHttp

namespace Text

/-- A way to put code points in capitals.  The capital forms that are spelled in ASCII are those of
`asciiCapitals` and of the small letters of ASCII; the rest of ASCII stays as it is, and the capital
form of any other code point holds something outside ASCII. -/
structure Capitalizes (upper : CodePoint → Text) : Prop where
  letter : ∀ c, 0x61 ≤ c.val ∧ c.val ≤ 0x7A → upper c = [CodePoint.ofNat (c.val - 0x20)]
  ascii : ∀ c, c.isAscii = true → ¬ (0x61 ≤ c.val ∧ c.val ≤ 0x7A) → upper c = [c]
  spelled : ∀ c letters, asciiCapitals.lookup c.val = some letters → upper c = ofString letters
  foreign : ∀ c, c.isAscii = false → asciiCapitals.lookup c.val = none →
    ∃ d ∈ upper c, d.isAscii = false

/-- A text of ASCII code points.  The check is one that runs. -/
def InAscii (t : Text) : Prop := t.all CodePoint.isAscii = true

instance (t : Text) : Decidable t.InAscii := inferInstanceAs (Decidable (_ = true))

/-- The code points with a capital form of their own in the table are above ASCII. -/
theorem isAscii_eq_false_of_lookup {c : CodePoint} {letters : String}
    (h : asciiCapitals.lookup c.val = some letters) : c.isAscii = false := by
  have habove : (asciiCapitals.all fun e => 0x80 ≤ e.1) = true := by decide
  obtain ⟨front, back, htable, _⟩ := List.lookup_eq_some_iff.1 h
  have hmem : (c.val, letters) ∈ asciiCapitals := by
    rw [htable]
    simp
  have hle := of_decide_eq_true (List.all_eq_true.1 habove _ hmem)
  apply decide_eq_false
  omega

theorem capital_of_ascii {c : CodePoint} (hc : c.isAscii = true)
    (hletter : ¬ (0x61 ≤ c.val ∧ c.val ≤ 0x7A)) : capital c = [c] := by
  rw [capital, if_neg hletter]
  cases hlookup : asciiCapitals.lookup c.val with
  | none => rfl
  | some letters =>
    rw [isAscii_eq_false_of_lookup hlookup] at hc
    cases hc

theorem capital_of_not_ascii {c : CodePoint} (hc : c.isAscii = false) :
    capital c = match asciiCapitals.lookup c.val with
      | some letters => ofString letters
      | none => [c] := by
  have hle := of_decide_eq_false hc
  have hletter : ¬ (0x61 ≤ c.val ∧ c.val ≤ 0x7A) := by omega
  exact if_neg hletter

theorem capitalizes_capital : Capitalizes capital := by
  refine ⟨?_, fun c => capital_of_ascii, ?_, ?_⟩
  · intro c hletter
    rw [capital, if_pos hletter]
  · intro c letters hlookup
    rw [capital_of_not_ascii (isAscii_eq_false_of_lookup hlookup), hlookup]
  · intro c hc hlookup
    refine ⟨c, ?_, hc⟩
    rw [capital_of_not_ascii hc, hlookup]
    exact List.mem_singleton_self c

namespace Capitalizes

variable {upper : CodePoint → Text} {t name : Text}

/-- All ways to put code points in capitals agree where a capital form is spelled in ASCII. -/
theorem eq_capital (h : Capitalizes upper) {c : CodePoint}
    (hc : c.isAscii = true ∨ asciiCapitals.lookup c.val ≠ none) : upper c = capital c := by
  by_cases hletter : 0x61 ≤ c.val ∧ c.val ≤ 0x7A
  · rw [h.letter c hletter, capitalizes_capital.letter c hletter]
  rcases hc with hc | hc
  · rw [h.ascii c hc hletter, capitalizes_capital.ascii c hc hletter]
  · obtain ⟨letters, hlookup⟩ := Option.ne_none_iff_exists'.1 hc
    rw [h.spelled c letters hlookup, capitalizes_capital.spelled c letters hlookup]

/-- A code point whose capital form is not spelled in ASCII is in no text that comes to an ASCII
name. -/
theorem flatMap_ne (h : Capitalizes upper) (hname : name.InAscii) {c : CodePoint} (hmem : c ∈ t)
    (hc : c.isAscii = false) (hlookup : asciiCapitals.lookup c.val = none) :
    t.flatMap upper ≠ name := by
  rintro rfl
  obtain ⟨d, hd, hforeign⟩ := h.foreign c hc hlookup
  have hin := List.all_eq_true.1 hname d (List.mem_flatMap.2 ⟨c, hmem, hd⟩)
  rw [hforeign] at hin
  cases hin

/-- A text comes to an ASCII name in one way to put code points in capitals if it does in all. -/
theorem flatMap_eq_iff (h : Capitalizes upper) (hname : name.InAscii) :
    t.flatMap upper = name ↔ capitals t = name := by
  by_cases hforeign : ∃ c ∈ t, c.isAscii = false ∧ asciiCapitals.lookup c.val = none
  -- Such a code point keeps the text from the name in either way; without one the two ways agree.
  · obtain ⟨c, hmem, hc, hlookup⟩ := hforeign
    exact iff_of_false (h.flatMap_ne hname hmem hc hlookup)
      (capitalizes_capital.flatMap_ne hname hmem hc hlookup)
  · have hknown : ∀ c ∈ t, upper c = capital c := by
      intro c hmem
      apply h.eq_capital
      by_cases hc : c.isAscii = true
      · exact .inl hc
      · exact .inr fun hlookup => hforeign ⟨c, hmem, Bool.eq_false_iff.2 hc, hlookup⟩
    rw [capitals, List.flatMap_def, List.flatMap_def, List.map_congr_left hknown]

end Capitalizes

end Text

/-! ## Signs -/

/-- A code point of ASCII that is neither a letter nor an underscore. -/
def CodePoint.isSign (c : CodePoint) : Bool :=
  c.isAscii && !(0x41 ≤ c.val && c.val ≤ 0x5A) && !(0x61 ≤ c.val && c.val ≤ 0x7A) && c.val ≠ 0x5F

/-- A sign stands in capitals as it is. -/
theorem Text.Capitalizes.mem_flatMap_of_sign {upper : CodePoint → Text} (h : Capitalizes upper)
    {t : Text} {c : CodePoint} (hmem : c ∈ t) (hc : c.isSign = true) : c ∈ t.flatMap upper := by
  simp only [CodePoint.isSign, Bool.and_eq_true, Bool.not_eq_true', Bool.and_eq_false_iff,
    decide_eq_false_iff_not] at hc
  obtain ⟨⟨⟨hascii, _⟩, hsmall⟩, _⟩ := hc
  rw [List.mem_flatMap]
  refine ⟨c, hmem, ?_⟩
  rw [h.ascii c hascii (by omega)]
  exact List.mem_singleton_self c

end StaticHttp
