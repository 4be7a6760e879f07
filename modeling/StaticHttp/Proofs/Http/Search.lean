import Mathlib.Data.Nat.Find
import StaticHttp.Http.Head

/-!
# The first occurrence of a pattern

`indexOf?` finds the first position at which a pattern stands.  Bytes that come in later change
nothing about an occurrence that is there already, and when there is none yet, the next one begins
at most one byte less than the pattern's length before the new bytes.  This is why the search for
a blank line can go on where it does.

    indexOf? p bs = some n ↔ p <+: bs.drop n ∧ ∀ m < n, ¬ p <+: bs.drop m   (indexOf?_eq_some_iff)
-/

namespace StaticHttp.Request

theorem indexOf?_eq_some_iff (p bs : Bytes) (n : Nat) :
    indexOf? p bs = some n ↔ p <+: bs.drop n ∧ ∀ m < n, ¬ p <+: bs.drop m := by
  induction bs generalizing n with
  | nil =>
    cases p with
    | nil =>
      constructor
      · intro h
        cases h
        exact ⟨List.nil_prefix, fun m hm => absurd hm (Nat.not_lt_zero m)⟩
      · rintro ⟨_, h⟩
        cases n with
        | zero => rfl
        | succ n => exact absurd List.nil_prefix (h 0 (Nat.succ_pos n))
    | cons a p => simp [indexOf?]
  | cons b rest ih =>
    rw [indexOf?]
    by_cases hb : p <+: b :: rest
    · rw [if_pos (List.isPrefixOf_iff_prefix.2 hb)]
      constructor
      · intro h
        cases h
        exact ⟨hb, fun m hm => absurd hm (Nat.not_lt_zero m)⟩
      · rintro ⟨_, h⟩
        cases n with
        | zero => rfl
        | succ n => exact absurd hb (h 0 (Nat.succ_pos n))
    · rw [if_neg (fun h => hb (List.isPrefixOf_iff_prefix.1 h))]
      constructor
      · intro h
        obtain ⟨k, hk, rfl⟩ := Option.map_eq_some_iff.1 h
        obtain ⟨hat, hbefore⟩ := (ih k).1 hk
        refine ⟨hat, fun m hm => ?_⟩
        cases m with
        | zero => exact hb
        | succ m => exact hbefore m (by omega)
      · rintro ⟨hat, hbefore⟩
        cases n with
        | zero => exact absurd hat hb
        | succ n =>
          have hn : indexOf? p rest = some n :=
            (ih n).2 ⟨hat, fun m hm => hbefore (m + 1) (by omega)⟩
          rw [hn]
          rfl

theorem indexOf?_eq_none_iff (p bs : Bytes) :
    indexOf? p bs = none ↔ ∀ n, ¬ p <+: bs.drop n := by
  constructor
  · intro h n hn
    -- the least position of an occurrence would be found
    classical
    have hex : ∃ n, p <+: bs.drop n := ⟨n, hn⟩
    have := (indexOf?_eq_some_iff p bs (Nat.find hex)).2
      ⟨Nat.find_spec hex, fun m hm => Nat.find_min hex hm⟩
    rw [h] at this
    cases this
  · intro h
    cases hs : indexOf? p bs with
    | none => rfl
    | some n => exact absurd ((indexOf?_eq_some_iff p bs n).1 hs).1 (h n)

/-- Where an occurrence ends within the first of two lists, it is one in that list. -/
theorem prefix_drop_of_append {p a b : Bytes} {m : Nat} (h : p <+: (a ++ b).drop m)
    (hm : m + p.length ≤ a.length) : p <+: a.drop m := by
  rw [List.drop_append_of_le_length (by omega)] at h
  exact List.prefix_of_prefix_length_le h (List.prefix_append _ _)
    (by rw [List.length_drop]; omega)

theorem add_length_le_of_prefix_drop {p bs : Bytes} {n : Nat} (hp : p ≠ [])
    (h : p <+: bs.drop n) : n + p.length ≤ bs.length := by
  have hlen := h.length_le
  have hpos := List.length_pos_iff.2 hp
  rw [List.length_drop] at hlen
  omega

/-- More bytes behind do not change the first occurrence. -/
theorem indexOf?_append {p a : Bytes} {n : Nat} (hp : p ≠ []) (h : indexOf? p a = some n)
    (b : Bytes) : indexOf? p (a ++ b) = some n := by
  rw [indexOf?_eq_some_iff] at h ⊢
  have hend := add_length_le_of_prefix_drop hp h.1
  constructor
  · rw [List.drop_append_of_le_length (by omega)]
    exact h.1.trans (List.prefix_append _ _)
  · intro m hm hat
    exact h.2 m hm (prefix_drop_of_append hat (by omega))

/-- A search can begin behind positions at which the pattern does not stand. -/
theorem indexFrom?_eq_indexOf? {p bs : Bytes} {start : Nat}
    (h : ∀ m < start, ¬ p <+: bs.drop m) : indexFrom? p bs start = indexOf? p bs := by
  rw [indexFrom?]
  cases hs : indexOf? p (bs.drop start) with
  | none =>
    rw [indexOf?_eq_none_iff] at hs
    symm
    rw [Option.map_none, indexOf?_eq_none_iff]
    intro n hn
    by_cases hlt : n < start
    · exact h n hlt hn
    · apply hs (n - start)
      rwa [List.drop_drop, show start + (n - start) = n by omega]
  | some k =>
    rw [indexOf?_eq_some_iff, List.drop_drop] at hs
    symm
    rw [Option.map_some, indexOf?_eq_some_iff, Nat.add_comm]
    refine ⟨hs.1, fun m hm hat => ?_⟩
    by_cases hlt : m < start
    · exact h m hlt hat
    · apply hs.2 (m - start) (by omega)
      rwa [List.drop_drop, show start + (m - start) = m by omega]

/-- Bytes without the first byte of the pattern can be passed over. -/
theorem indexOf?_append_of_notMem {c : UInt8} {p l : Bytes} (h : c ∉ l) (rest : Bytes) :
    indexOf? (c :: p) (l ++ rest) = (indexOf? (c :: p) rest).map (· + l.length) := by
  induction l with
  | nil => simp
  | cons b l ih =>
    rw [List.mem_cons, not_or] at h
    have hb : ¬ (c :: p).isPrefixOf (b :: (l ++ rest)) = true := by
      rw [List.isPrefixOf_iff_prefix, List.cons_prefix_cons]
      exact fun hc => h.1 hc.1
    rw [List.cons_append, indexOf?, if_neg hb, ih h.2, Option.map_map]
    congr 1

/-! ## Blank lines -/

theorem blankLine_ne_nil : blankLine ≠ [] := List.cons_ne_nil _ _

/-- When no blank line has been received yet, the search in the window is one in all that has been
received. -/
theorem indexOf?_window {seen : Bytes} (h : indexOf? blankLine seen.reverse = none)
    (chunk : Bytes) :
    indexOf? blankLine (seen.reverse ++ chunk) =
      (indexOf? blankLine (window seen chunk)).map (· + resumeAt seen.length) := by
  rw [← indexFrom?_resumeAt, indexFrom?_eq_indexOf?]
  intro m hm hat
  rw [indexOf?_eq_none_iff] at h
  apply h m (prefix_drop_of_append hat _)
  rw [List.length_reverse]
  simp only [resumeAt, overlap] at hm
  have : 0 < blankLine.length := by decide
  omega

end StaticHttp.Request
