import StaticHttp.Text.Utf8

/-!
# What a text is written as

A text is written code point by code point, so that the bytes of two texts one after the other
are the bytes of both.  A byte below 128 is only ever written for the code point of the same
number, and alone: at such a byte the bytes can be cut, and the text is cut with them.

    encodeEscaping t = .ok bs ↔ Written t bs                       (encodeEscaping_eq_ok_iff)
    Written t (xs ++ b :: ys) → t = s ++ ofNat b :: u              for b < 128   (Written.cut)
-/

namespace StaticHttp.Utf8

/-- The bytes of a text are those of its code points. -/
inductive Written : Text → Bytes → Prop
  | nil : Written [] []
  | cons {c : CodePoint} {bs : Bytes} {t : Text} {tail : Bytes} :
      written? c = some bs → Written t tail → Written (c :: t) (bs ++ tail)

theorem encodeFrom_eq_ok_iff (t : Text) (i : Nat) (bs : Bytes) :
    encodeFrom i t = .ok bs ↔ Written t bs := by
  induction t generalizing i bs with
  | nil =>
    constructor
    · intro h
      cases h
      exact .nil
    · intro h
      cases h
      rfl
  | cons c t ih =>
    constructor
    · intro h
      simp only [encodeFrom] at h
      split at h
      · cases h
      · next cs hc =>
        split at h
        · next tail ht =>
          cases h
          exact .cons hc ((ih (i + 1) tail).1 ht)
        · cases h
    · intro h
      cases h with
      | cons hc ht =>
        rw [encodeFrom_cons hc, (ih (i + 1) _).2 ht]
        rfl

theorem encodeEscaping_eq_ok_iff (t : Text) (bs : Bytes) :
    encodeEscaping t = .ok bs ↔ Written t bs :=
  encodeFrom_eq_ok_iff t 0 bs

theorem Written.unique {t : Text} {xs ys : Bytes} (hx : Written t xs) (hy : Written t ys) :
    xs = ys := by
  rw [← encodeEscaping_eq_ok_iff] at hx hy
  rw [hx] at hy
  exact Except.ok.inj hy

theorem Written.append {s t : Text} {xs ys : Bytes} (hs : Written s xs) (ht : Written t ys) :
    Written (s ++ t) (xs ++ ys) := by
  induction hs with
  | nil => exact ht
  | cons hc _ ih =>
    rw [List.append_assoc]
    exact .cons hc ih

theorem Written.of_append {s t : Text} {bs : Bytes} (h : Written (s ++ t) bs) :
    ∃ xs ys, bs = xs ++ ys ∧ Written s xs ∧ Written t ys := by
  induction s generalizing bs with
  | nil => exact ⟨[], bs, rfl, .nil, h⟩
  | cons c s ih =>
    cases h with
    | @cons _ cs _ tail hc ht =>
      obtain ⟨xs, ys, rfl, hx, hy⟩ := ih ht
      exact ⟨cs ++ xs, ys, by rw [List.append_assoc], .cons hc hx, hy⟩

/-! ## Bytes below 128 -/

theorem octets_of_lt {c : CodePoint} (h : c.val < 0x80) : octets c = [UInt8.ofNat c.val] := by
  unfold octets
  rw [if_pos h]

/-- A code point from 128 on has no octet below 128. -/
theorem le_of_mem_octets {c : CodePoint} (h : 0x80 ≤ c.val) {b : UInt8} (hb : b ∈ octets c) :
    0x80 ≤ b.toNat := by
  have hlt := c.val_lt
  unfold octets at hb
  rw [if_neg (by omega)] at hb
  split at hb
  · simp only [List.mem_cons, List.not_mem_nil, or_false] at hb
    rcases hb with rfl | rfl
    all_goals rw [UInt8.toNat_ofNat']; omega
  split at hb
  · simp only [List.mem_cons, List.not_mem_nil, or_false] at hb
    rcases hb with rfl | rfl | rfl
    all_goals rw [UInt8.toNat_ofNat']; omega
  · simp only [List.mem_cons, List.not_mem_nil, or_false] at hb
    rcases hb with rfl | rfl | rfl | rfl
    all_goals rw [UInt8.toNat_ofNat']; omega

theorem le_of_escaped? {c : CodePoint} {b : UInt8} (h : c.escaped? = some b) : 0x80 ≤ b.toNat := by
  unfold CodePoint.escaped? at h
  split at h
  · rw [← Option.some.inj h, UInt8.toNat_ofNat']
    omega
  · cases h

/-- A byte below 128 is written for the code point of its number, which is written as that byte. -/
theorem eq_of_mem_written? {c : CodePoint} {bs : Bytes} (h : written? c = some bs) {b : UInt8}
    (hb : b ∈ bs) (hlt : b.toNat < 0x80) : c = CodePoint.ofNat b.toNat ∧ bs = [b] := by
  unfold written? at h
  split at h
  · obtain ⟨e, he, rfl⟩ := Option.map_eq_some_iff.1 h
    rw [List.mem_singleton] at hb
    subst hb
    have := le_of_escaped? he
    omega
  · obtain rfl := Option.some.inj h
    have hc : c.val < 0x80 := by
      apply Nat.lt_of_not_le
      intro hle
      have := le_of_mem_octets hle hb
      omega
    rw [octets_of_lt hc, List.mem_singleton] at hb
    have hval : b.toNat = c.val := by
      rw [hb, UInt8.toNat_ofNat']
      omega
    refine ⟨CodePoint.ext ?_, by rw [octets_of_lt hc, hb]⟩
    rw [CodePoint.val_ofNat (by omega), hval]

theorem written?_ofNat {b : UInt8} (h : b.toNat < 0x80) :
    written? (CodePoint.ofNat b.toNat) = some [b] := by
  have hval : (CodePoint.ofNat b.toNat).val = b.toNat := CodePoint.val_ofNat (by omega)
  have hs : (CodePoint.ofNat b.toNat).isSurrogate = false := by
    rw [Bool.eq_false_iff, Ne, CodePoint.isSurrogate_iff, hval]
    omega
  simp only [written?, hs, Bool.false_eq_true, if_false]
  rw [octets_of_lt (by omega), hval, UInt8.ofNat_toNat]

/-- Where the bytes of a text are cut at a byte below 128, the text is cut at its code point. -/
theorem Written.cut {t : Text} {xs ys : Bytes} {b : UInt8} (h : Written t (xs ++ b :: ys))
    (hb : b.toNat < 0x80) :
    ∃ s u, t = s ++ CodePoint.ofNat b.toNat :: u ∧ Written s xs ∧ Written u ys := by
  generalize hbs : xs ++ b :: ys = bs at h
  induction h generalizing xs with
  | nil => simp at hbs
  | @cons c cs t tail hc ht ih =>
    rcases List.append_eq_append_iff.1 hbs with ⟨as, hcs, htail⟩ | ⟨as, rfl, htail⟩
    · cases as with
      | nil =>
        -- the cut is in front of the byte that the rest of the text begins with
        obtain ⟨s, u, rfl, hs, hu⟩ := @ih [] htail
        refine ⟨c :: s, u, rfl, ?_, hu⟩
        rw [← List.append_nil xs, ← hcs, ← List.append_nil cs]
        exact .cons hc hs
      | cons a as =>
        -- the byte at the cut is among those of the first code point, hence the only one
        rw [List.cons_append, List.cons.injEq] at htail
        obtain ⟨rfl, rfl⟩ := htail
        obtain ⟨rfl, hone⟩ := eq_of_mem_written? hc (by rw [hcs]; simp) hb
        rw [hone] at hcs
        obtain ⟨rfl, rfl⟩ : xs = [] ∧ as = [] := by
          cases xs with
          | nil => simpa using hcs.symm
          | cons x xs => simp at hcs
        exact ⟨[], t, rfl, .nil, ht⟩
    · obtain ⟨s, u, rfl, hs, hu⟩ := @ih as htail.symm
      exact ⟨c :: s, u, rfl, .cons hc hs, hu⟩

theorem Written.mem_iff {t : Text} {bs : Bytes} (h : Written t bs) {b : UInt8}
    (hb : b.toNat < 0x80) : b ∈ bs ↔ CodePoint.ofNat b.toNat ∈ t := by
  constructor
  · intro hmem
    obtain ⟨xs, ys, rfl⟩ := List.append_of_mem hmem
    obtain ⟨s, u, rfl, _, _⟩ := h.cut hb
    simp
  · intro hmem
    obtain ⟨s, u, rfl⟩ := List.append_of_mem hmem
    obtain ⟨xs, ys, rfl, _, hy⟩ := h.of_append
    cases hy with
    | cons hc _ =>
      rw [written?_ofNat hb] at hc
      cases hc
      simp

/-! ## ASCII texts -/

theorem octets_ne_nil (c : CodePoint) : octets c ≠ [] := by
  simp only [octets]
  split
  · simp
  split
  · simp
  split
  · simp
  · simp

theorem written?_ne_nil (c : CodePoint) : written? c ≠ some [] := by
  unfold written?
  split
  · cases c.escaped? with
    | none => simp
    | some b => simp
  · rw [Ne, Option.some.injEq]
    exact octets_ne_nil c

theorem Written.eq_nil {t : Text} (h : Written t []) : t = [] := by
  generalize hbs : ([] : Bytes) = bs at h
  cases h with
  | nil => rfl
  | cons hc _ =>
    obtain ⟨rfl, _⟩ := List.append_eq_nil_iff.1 hbs.symm
    exact absurd hc (written?_ne_nil _)

theorem written_map_ofChar {cs : List Char} (h : ∀ c ∈ cs, c.toNat < 0x80) :
    Written (cs.map CodePoint.ofChar) (cs.map fun c => UInt8.ofNat c.toNat) := by
  induction cs with
  | nil => exact .nil
  | cons c cs ih =>
    rw [List.forall_mem_cons] at h
    have hb : (UInt8.ofNat c.toNat).toNat = c.toNat := by
      rw [UInt8.toNat_ofNat']
      omega
    have hc : CodePoint.ofChar c = CodePoint.ofNat (UInt8.ofNat c.toNat).toNat := by
      apply CodePoint.ext
      rw [CodePoint.val_ofNat (by omega), hb]
      rfl
    rw [List.map_cons, List.map_cons, hc]
    exact .cons (written?_ofNat (by omega)) (ih h.2)

/-- A string of ASCII characters.  The check is one that runs. -/
def IsAscii (s : String) : Prop := (s.toList.all fun c => c.toNat < 0x80) = true

instance (s : String) : Decidable (IsAscii s) := inferInstanceAs (Decidable (_ = true))

theorem IsAscii.lt {s : String} (h : IsAscii s) : ∀ c ∈ s.toList, c.toNat < 0x80 := by
  intro c hc
  exact of_decide_eq_true (List.all_eq_true.1 h c hc)

/-- An ASCII string is written as its bytes. -/
theorem written_ofAscii {s : String} (h : IsAscii s) :
    Written (Text.ofString s) (Bytes.ofAscii s) :=
  written_map_ofChar h.lt

/-- Only one text is written with bytes below 128. -/
theorem Written.eq_of_lt {s t : Text} {bs : Bytes} (hs : Written s bs) (ht : Written t bs)
    (h : ∀ b ∈ bs, b.toNat < 0x80) : s = t := by
  induction bs generalizing s t with
  | nil => rw [hs.eq_nil, ht.eq_nil]
  | cons b bs ih =>
    rw [List.forall_mem_cons] at h
    rw [← List.nil_append (b :: bs)] at hs ht
    obtain ⟨s₁, s₂, rfl, hs₁, hs₂⟩ := hs.cut h.1
    obtain ⟨t₁, t₂, rfl, ht₁, ht₂⟩ := ht.cut h.1
    rw [hs₁.eq_nil, ht₁.eq_nil, ih hs₂ ht₂ h.2]

/-- A text is a given ASCII string when its bytes are. -/
theorem Written.eq_ofString_iff {t : Text} {bs : Bytes} (h : Written t bs) {s : String}
    (hs : IsAscii s) : t = Text.ofString s ↔ bs = Bytes.ofAscii s := by
  constructor
  · rintro rfl
    exact h.unique (written_ofAscii hs)
  · rintro rfl
    refine h.eq_of_lt (written_ofAscii hs) ?_
    intro b hb
    obtain ⟨c, hc, rfl⟩ := List.mem_map.1 hb
    have := hs.lt c hc
    rw [UInt8.toNat_ofNat']
    omega

end StaticHttp.Utf8
