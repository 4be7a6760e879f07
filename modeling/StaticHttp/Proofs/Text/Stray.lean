import StaticHttp.Proofs.Text.Written

/-!
# Texts that cannot be written

A surrogate that stands for no byte is stray: nothing is written for it, and a text can be written
when none is in it.  Otherwise the fault tells the first stray surrogate and the run of surrogates
that begins with it, and what stands behind the run makes no difference to the fault.

    (∃ bs, Written t bs) ↔ ∀ c ∈ t, ¬ c.IsStray                    (exists_written_iff)
    encodeEscaping s = .error f → encodeEscaping (s ++ c :: t) = .error f
      where c is no surrogate                                      (encodeEscaping_append_of_error)
-/

namespace StaticHttp

/-- A surrogate that stands for no byte. -/
def CodePoint.IsStray (c : CodePoint) : Prop :=
  0xD800 ≤ c.val ∧ c.val ≤ 0xDFFF ∧ ¬ (0xDC80 ≤ c.val ∧ c.val ≤ 0xDCFF)

instance (c : CodePoint) : Decidable c.IsStray := inferInstanceAs (Decidable (_ ∧ _ ∧ ¬ _))

namespace Utf8

theorem written?_eq_none_iff {c : CodePoint} : written? c = none ↔ c.IsStray := by
  unfold written? CodePoint.IsStray
  by_cases hs : c.isSurrogate = true
  · rw [if_pos hs, Option.map_eq_none_iff, CodePoint.escaped?]
    rw [CodePoint.isSurrogate_iff] at hs
    split
    · constructor
      · intro h
        cases h
      · rintro ⟨_, _, h⟩
        omega
    · constructor
      · intro _
        omega
      · intro _
        rfl
  · rw [if_neg hs]
    rw [CodePoint.isSurrogate_iff] at hs
    constructor
    · intro h
      cases h
    · rintro ⟨hlo, hhi, _⟩
      omega

/-- A text can be written when no surrogate in it is stray. -/
theorem exists_written_iff {t : Text} : (∃ bs, Written t bs) ↔ ∀ c ∈ t, ¬ c.IsStray := by
  constructor
  · rintro ⟨bs, h⟩
    induction h with
    | nil => simp
    | cons hc _ ih =>
      rw [List.forall_mem_cons]
      refine ⟨?_, ih⟩
      rw [← written?_eq_none_iff, hc]
      simp
  · intro h
    induction t with
    | nil => exact ⟨[], .nil⟩
    | cons c t ih =>
      rw [List.forall_mem_cons, ← written?_eq_none_iff] at h
      obtain ⟨tail, htail⟩ := ih h.2
      obtain ⟨bs, hbs⟩ := Option.ne_none_iff_exists'.1 h.1
      exact ⟨bs ++ tail, .cons hbs htail⟩

/-- Behind a code point that is no surrogate nothing matters to a fault in front of it. -/
theorem encodeFrom_append_of_error {s : Text} {i : Nat} {fault : EncodeFault}
    (h : encodeFrom i s = .error fault) {c : CodePoint} (hc : c.isSurrogate = false) (t : Text) :
    encodeFrom i (s ++ c :: t) = .error fault := by
  induction s generalizing i with
  | nil => cases h
  | cons d s ih =>
    rw [List.cons_append]
    cases hd : written? d with
    | none =>
      -- the run of surrogates ends where it did, at the latest in front of the other code point
      have hrun : (s ++ c :: t).takeWhile CodePoint.isSurrogate =
          s.takeWhile CodePoint.isSurrogate := by
        rw [List.takeWhile_append, List.takeWhile_cons_of_neg (by simp [hc]), List.append_nil]
        split
        · next hall => rw [(List.takeWhile_prefix _).eq_of_length hall]
        · rfl
      simp only [encodeFrom, hd] at h ⊢
      rw [hrun]
      exact h
    | some bs =>
      rw [encodeFrom_cons hd] at h ⊢
      cases hs : encodeFrom (i + 1) s with
      | ok tail =>
        rw [hs] at h
        cases h
      | error f =>
        rw [hs] at h
        cases h
        rw [ih hs]
        rfl

theorem encodeEscaping_append_of_error {s : Text} {fault : EncodeFault}
    (h : encodeEscaping s = .error fault) {c : CodePoint} (hc : c.isSurrogate = false) (t : Text) :
    encodeEscaping (s ++ c :: t) = .error fault :=
  encodeFrom_append_of_error h hc t

end Utf8

end StaticHttp
