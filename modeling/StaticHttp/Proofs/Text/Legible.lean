import StaticHttp.Text.Quoted

/-!
# Texts without controls

A text is legible when every code point of it comes after the controls of ASCII.  Numbers are, and
so is whatever stands between quotes: neither brings the end of a line or the beginning of an escape
sequence into what it is put in.

    t.Legible → c.val < 0x20 → c ∉ t                                   (Legible.notMem)
    (quoted t).Legible, (quotedBytes bs).Legible      (legible_quoted, legible_quotedBytes)
-/

namespace StaticHttp.Text

/-- A text without the controls of ASCII.  The check is one that runs. -/
def Legible (t : Text) : Prop := (t.all fun c => 0x20 ≤ c.val) = true

instance (t : Text) : Decidable t.Legible := inferInstanceAs (Decidable (_ = true))

theorem legible_iff {t : Text} : t.Legible ↔ ∀ c ∈ t, 0x20 ≤ c.val := by
  unfold Legible
  rw [List.all_eq_true]
  simp only [decide_eq_true_eq]

theorem Legible.notMem {t : Text} (h : t.Legible) {c : CodePoint} (hc : c.val < 0x20) : c ∉ t := by
  intro hmem
  have := legible_iff.1 h c hmem
  omega

theorem legible_append_iff {t u : Text} : (t ++ u).Legible ↔ t.Legible ∧ u.Legible := by
  simp only [legible_iff, List.forall_mem_append]

/-! ## Numbers -/

/-- The characters of a number in base ten are digits, and digits are ASCII. -/
theorem range_of_mem_toDigits {n : Nat} {c : Char} (h : c ∈ Nat.toDigits 10 n) :
    0x30 ≤ c.toNat ∧ c.toNat ≤ 0x39 := by
  have hdigit := Nat.isDigit_of_mem_toDigits (by decide) (by decide) h
  simp only [Char.isDigit, Bool.and_eq_true, decide_eq_true_eq] at hdigit
  exact ⟨UInt32.le_iff_toNat_le.1 hdigit.1, UInt32.le_iff_toNat_le.1 hdigit.2⟩

theorem legible_ofNat (n : Nat) : (ofNat n).Legible := by
  rw [legible_iff]
  intro c hc
  obtain ⟨d, hd, rfl⟩ := List.mem_map.1 hc
  have := range_of_mem_toDigits hd
  show 0x20 ≤ d.toNat
  omega

theorem legible_ofInt (n : Int) : (ofInt n).Legible := by
  cases n with
  | ofNat n => exact legible_ofNat n
  | negSucc n => exact legible_append_iff.2 ⟨by decide, legible_ofNat (n + 1)⟩

theorem legible_zeroPadded (width n : Nat) : (zeroPadded width n).Legible := by
  rw [zeroPadded, legible_append_iff]
  refine ⟨?_, legible_ofNat n⟩
  rw [legible_iff]
  intro c hc
  rw [List.eq_of_mem_replicate hc]
  decide

/-! ## Between quotes -/

theorem legible_cons_iff {c : CodePoint} {t : Text} :
    Legible (c :: t) ↔ 0x20 ≤ c.val ∧ t.Legible := by
  simp only [legible_iff, List.forall_mem_cons]

theorem legible_hex (width n : Nat) : (hex width n).Legible := by
  induction width generalizing n with
  | zero =>
    show Legible []
    decide
  | succ width ih =>
    have hdigit : 0x20 ≤ (hexDigit (n % 16)).val := by
      rw [hexDigit, CodePoint.val_ofNat (by split <;> omega)]
      split <;> omega
    exact legible_append_iff.2 ⟨ih (n / 16), legible_cons_iff.2 ⟨hdigit, by decide⟩⟩

theorem le_of_controlLetter? {n : Nat} {letter : CodePoint} (h : controlLetter? n = some letter) :
    0x20 ≤ letter.val := by
  unfold controlLetter? at h
  split at h
  · cases h
    decide
  split at h
  · cases h
    decide
  split at h
  · cases h
    decide
  · cases h

theorem le_of_isPrintable {c : CodePoint} (h : isPrintable c = true) : 0x20 ≤ c.val := by
  apply Nat.le_of_not_lt
  intro hlt
  rw [not_isPrintable_of_lt hlt] at h
  cases h

theorem le_quoteFor (single double : Bool) : 0x20 ≤ (quoteFor single double).val := by
  unfold quoteFor
  split <;> decide

/-- A backslash and what stands behind it. -/
theorem legible_escaped {c : CodePoint} (h : 0x20 ≤ c.val) : Legible ['\\', c] := by
  rw [legible_cons_iff, legible_cons_iff]
  exact ⟨by decide, h, by decide⟩

theorem le_of_eq_quote {quote c : CodePoint} (hquote : 0x20 ≤ quote.val)
    (h : c = quote ∨ c = '\\') : 0x20 ≤ c.val := by
  rcases h with rfl | rfl
  · exact hquote
  · decide

theorem legible_escapeWithin {quote : CodePoint} (hquote : 0x20 ≤ quote.val) (c : CodePoint) :
    (escapeWithin quote c).Legible := by
  unfold escapeWithin
  split
  · next h => exact legible_escaped (le_of_eq_quote hquote h)
  split
  · next letter h => exact legible_escaped (le_of_controlLetter? h)
  split
  · next h => exact legible_cons_iff.2 ⟨le_of_isPrintable h, by decide⟩
  split
  · exact legible_append_iff.2 ⟨by decide, legible_hex 2 _⟩
  split
  · exact legible_append_iff.2 ⟨by decide, legible_hex 4 _⟩
  · exact legible_append_iff.2 ⟨by decide, legible_hex 8 _⟩

theorem legible_escapeByte {quote : CodePoint} (hquote : 0x20 ≤ quote.val) (b : UInt8) :
    (escapeByte quote b).Legible := by
  unfold escapeByte
  dsimp only
  split
  · next h => exact legible_escaped (le_of_eq_quote hquote h)
  split
  · next letter h => exact legible_escaped (le_of_controlLetter? h)
  split
  · next h =>
    rw [Bool.and_eq_true] at h
    exact legible_cons_iff.2 ⟨le_of_isPrintable h.2, by decide⟩
  · exact legible_append_iff.2 ⟨by decide, legible_hex 2 _⟩

theorem legible_flatMap {α : Type} {f : α → Text} (h : ∀ a, (f a).Legible) (as : List α) :
    Legible (as.flatMap f) := by
  rw [legible_iff]
  intro c hc
  obtain ⟨a, _, hc⟩ := List.mem_flatMap.1 hc
  exact legible_iff.1 (h a) c hc

/-- Nothing between quotes is a control, whatever was put there. -/
theorem legible_quoted (t : Text) : t.quoted.Legible := by
  have hquote := le_quoteFor (t.contains '\'') (t.contains '"')
  have hinner := legible_flatMap (legible_escapeWithin hquote) t
  exact legible_append_iff.2 ⟨legible_cons_iff.2 ⟨hquote, hinner⟩,
    legible_cons_iff.2 ⟨hquote, by decide⟩⟩

theorem legible_quotedBytes (bs : Bytes) : (quotedBytes bs).Legible := by
  have hquote := le_quoteFor (bs.contains 0x27) (bs.contains 0x22)
  have hinner := legible_flatMap (legible_escapeByte hquote) bs
  exact legible_append_iff.2 ⟨legible_append_iff.2 ⟨by decide, legible_cons_iff.2 ⟨hquote, hinner⟩⟩,
    legible_cons_iff.2 ⟨hquote, by decide⟩⟩

end StaticHttp.Text
