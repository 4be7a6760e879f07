import StaticHttp.Json.Reading

/-!
# How deep a text nests

The nesting of a text is the greatest number of brackets outside its strings that stand open at
once.  It is found in one pass over the text, without reading a value.  Reading stops for depth only
where more brackets than `maxDepth` stand open at once, whatever else is wrong with the text.

    read? t = .error (.tooDeep b) → maxDepth < nesting .between 0 t          (maxDepth_lt_nesting)
    maxDepth < n → read? (List.replicate n '[') = .error (.tooDeep true)         (read?_replicate)
-/

namespace StaticHttp.Json

/-! ## Nesting -/

/-- Where one is in a text: between its strings, in a string, or behind a backslash in one. -/
inductive Mode
  | between
  | quoted
  | escaped

/-- Where one is behind a code point. -/
def Mode.next : Mode → CodePoint → Mode
  | between, c => if c = '"' then quoted else between
  | quoted, c => if c = '"' then between else if c = '\\' then escaped else quoted
  | escaped, _ => quoted

/-- How many brackets stand open behind a code point, when `n` do in front of it. -/
def Mode.opened (m : Mode) (n : Nat) (c : CodePoint) : Nat :=
  match m with
  | between =>
    if c = '[' ∨ c = '\x7b' then n + 1 else if c = ']' ∨ c = '\x7d' then n - 1 else n
  | _ => n

/-- The most brackets that stand open at once from a place in a text on, when `n` do there. -/
def nesting (m : Mode) (n : Nat) : Text → Nat
  | [] => n
  | c :: rest => max n (nesting (m.next c) (m.opened n c) rest)

theorem le_nesting (m : Mode) (n : Nat) (t : Text) : n ≤ nesting m n t := by
  cases t with
  | nil => exact Nat.le_refl n
  | cons c rest => exact Nat.le_max_left _ _

theorem nesting_le_cons (m : Mode) (n : Nat) (c : CodePoint) (rest : Text) :
    nesting (m.next c) (m.opened n c) rest ≤ nesting m n (c :: rest) := Nat.le_max_right _ _

/-- Behind one place of a text lies another, with as many brackets open. -/
def Level (m : Mode) (t : Text) (m' : Mode) (t' : Text) : Prop :=
  ∀ n, nesting m' n t' ≤ nesting m n t

theorem Level.refl (m : Mode) (t : Text) : Level m t m t := fun _ => Nat.le_refl _

theorem Level.trans {m m' m'' : Mode} {t t' t'' : Text} (h : Level m t m' t')
    (h' : Level m' t' m'' t'') : Level m t m'' t'' := fun n => Nat.le_trans (h' n) (h n)

theorem Level.cons {m : Mode} {c : CodePoint} (h : ∀ n, m.opened n c = n) (rest : Text) :
    Level m (c :: rest) (m.next c) rest := by
  intro n
  have hle := nesting_le_cons m n c rest
  rwa [h n] at hle

/-! ## What is passed over -/

/-- The rest of a text behind code points that satisfy `p`. -/
inductive Skips (p : CodePoint → Bool) : Text → Text → Prop
  | refl {t : Text} : Skips p t t
  | step {c : CodePoint} {t t' : Text} : p c = true → Skips p t t' → Skips p (c :: t) t'

namespace Skips

variable {p q : CodePoint → Bool} {s t u : Text}

theorem trans (h : Skips p s t) (h' : Skips p t u) : Skips p s u := by
  induction h with
  | refl => exact h'
  | step hc _ ih => exact .step hc (ih h')

theorem mono (h : Skips p s t) (hpq : ∀ c, p c = true → q c = true) : Skips q s t := by
  induction h with
  | refl => exact .refl
  | step hc _ ih => exact .step (hpq _ hc) ih

theorem append (h : ∀ c ∈ s, p c = true) (t : Text) : Skips p (s ++ t) t := by
  induction s with
  | nil => exact .refl
  | cons c s ih =>
    obtain ⟨hc, hs⟩ := List.forall_mem_cons.1 h
    exact .step hc (ih hs)

theorem takeWhile (p : CodePoint → Bool) (t : Text) : Skips p t (t.drop (t.takeWhile p).length) := by
  induction t with
  | nil => exact .refl
  | cons c t ih =>
    rw [List.takeWhile_cons]
    split
    · next hc => exact .step hc ih
    · exact .refl

/-- Code points that change neither the mode nor what stands open leave the level. -/
theorem level {m : Mode} (h : Skips p s t)
    (hp : ∀ c, p c = true → m.next c = m ∧ ∀ n, m.opened n c = n) : Level m s m t := by
  induction h with
  | refl => exact Level.refl _ _
  | @step c s t hc _ ih =>
    obtain ⟨hmode, hopened⟩ := hp c hc
    have hstep := Level.cons hopened s
    rw [hmode] at hstep
    exact hstep.trans ih

theorem ne_of_all {ds : Text} {c : CodePoint} (hc : p c = true)
    (hds : ds.all (fun d => !p d) = true) : ∀ d ∈ ds, c ≠ d := by
  rintro d hd rfl
  have hnot := List.all_eq_true.1 hds c hd
  rw [hc] at hnot
  cases hnot

/-- Between strings nothing matters but quotes and brackets. -/
theorem between (h : Skips p s t)
    (hp : (['"', '[', ']', '\x7b', '\x7d'] : Text).all (fun c => !p c) = true) :
    Level .between s .between t := by
  refine h.level fun c hc => ?_
  have hne := ne_of_all hc hp
  simp only [List.forall_mem_cons, List.not_mem_nil, false_implies, implies_true, and_true] at hne
  obtain ⟨hquote, hopen, hclose, hopen', hclose'⟩ := hne
  exact ⟨if_neg hquote, fun n => by simp [Mode.opened, *]⟩

/-- In a string nothing matters but quotes and backslashes. -/
theorem quoted (h : Skips p s t) (hp : (['"', '\\'] : Text).all (fun c => !p c) = true) :
    Level .quoted s .quoted t := by
  refine h.level fun c hc => ?_
  have hne := ne_of_all hc hp
  simp only [List.forall_mem_cons, List.not_mem_nil, false_implies, implies_true, and_true] at hne
  obtain ⟨hquote, hslash⟩ := hne
  exact ⟨(if_neg hquote).trans (if_neg hslash), fun _ => rfl⟩

end Skips

theorem level_skipSpace (k : Cursor) : Level .between k.rest .between k.skipSpace.rest :=
  (Skips.takeWhile isSpace k.rest).between (by decide)

theorem Cursor.rest_of_at {k : Cursor} {c : CodePoint} (h : k.at c = true) :
    k.rest = c :: (k.advance 1).rest := by
  have hhead : k.rest.head? = some c := of_decide_eq_true h
  obtain ⟨rest, hrest⟩ := List.head?_eq_some_iff.1 hhead
  rw [Cursor.advance, hrest]
  rfl

/-! ## Strings -/

/-- Reading stopped for another reason than depth. -/
def Stop.IsShallow : Stop → Prop
  | tooDeep _ => False
  | _ => True

/-- What is read from a text leaves as many brackets open, and does not stop for depth. -/
def Keeps {α : Type} (m : Mode) (t : Text) (m' : Mode) : Except Stop (α × Cursor) → Prop
  | .ok (_, k) => Level m t m' k.rest
  | .error s => s.IsShallow

theorem Keeps.behind {α : Type} {m m' m'' : Mode} {t t' : Text} {r : Except Stop (α × Cursor)}
    (h : Level m t m' t') (hr : Keeps m' t' m'' r) : Keeps m t m'' r := by
  cases r with
  | ok read => exact h.trans hr
  | error s => exact hr

theorem hexFour?_level {t rest : Text} {n : Nat} (h : hexFour? t = some (n, rest)) :
    Level .quoted t .quoted (t.drop 4) := by
  unfold hexFour? at h
  split at h
  · next a b c d rest' =>
    split at h
    · next ha hb hc hd =>
      have hskips : Skips (fun c => c.hexValue?.isSome) (a :: b :: c :: d :: rest') rest' :=
        .step (by rw [ha]; rfl) (.step (by rw [hb]; rfl) (.step (by rw [hc]; rfl)
          (.step (by rw [hd]; rfl) .refl)))
      exact hskips.quoted (by decide)
    · cases h
  · cases h

/-- A backslash and what is behind it are passed over together. -/
theorem level_escape (c : CodePoint) (rest : Text) :
    Level .quoted ('\\' :: c :: rest) .quoted rest :=
  (Level.cons (fun _ => rfl) _).trans (Level.cons (m := .escaped) (fun _ => rfl) _)

theorem lowHalf?_keeps (k : Cursor) :
    (∀ s, lowHalf? k = .error s → s.IsShallow) ∧
      ∀ n k', lowHalf? k = .ok (some (n, k')) → Level .quoted k.rest .quoted k'.rest := by
  unfold lowHalf?
  split
  · next b u digits hrest =>
    split
    · next hescape =>
      obtain ⟨rfl, rfl, _⟩ := hescape
      split
      · refine ⟨?_, ?_⟩
        · intro s hs
          cases hs
          trivial
        · intro n k' h
          cases h
      · next n rest hdigits =>
        refine ⟨by simp, ?_⟩
        intro n' k' h
        split at h
        · cases h
          have hbehind : (k.advance 6).rest = digits.drop 4 := by
            rw [Cursor.advance, hrest]
            rfl
          rw [hrest, hbehind]
          exact (level_escape _ _).trans (hexFour?_level hdigits)
        · cases h
    · simp
  · simp

theorem unicodeEscape_keeps (k : Cursor) : Keeps .quoted k.rest .quoted (unicodeEscape k) := by
  unfold unicodeEscape
  simp only
  split
  · trivial
  · split
    · trivial
    · next n rest hdigits =>
      have hfour : Level .quoted k.rest .quoted (k.advance 4).rest := hexFour?_level hdigits
      split
      · obtain ⟨hstop, hpair⟩ := lowHalf?_keeps (k.advance 4)
        split
        · next s hs => exact hstop s hs
        · next low k' hk' => exact hfour.trans (hpair low k' hk')
        · exact hfour
      · exact hfour

theorem stringTail_keeps (opening fuel : Nat) (acc : Text) (k : Cursor) :
    Keeps .quoted k.rest .between (stringTail opening fuel acc k) := by
  induction fuel generalizing acc k with
  | zero => trivial
  | succ fuel ih =>
    rw [stringTail]
    split
    · trivial
    · next c rest hrest =>
      have hone : (k.advance 1).rest = rest := by rw [Cursor.advance, hrest]; rfl
      split
      · next hquote =>
        subst hquote
        show Level _ _ _ (k.advance 1).rest
        rw [hrest, hone]
        exact Level.cons (m := .quoted) (fun _ => rfl) rest
      split
      · next hslash =>
        subst hslash
        split
        · trivial
        · next letter more hmore =>
          have htwo : Level .quoted k.rest .quoted (k.advance 2).rest := by
            rw [Cursor.advance, hrest]
            exact level_escape _ _
          split
          · have hkeeps := unicodeEscape_keeps (k.advance 2)
            split
            · next s hs =>
              rw [hs] at hkeeps
              exact hkeeps
            · next d k' hk' =>
              rw [hk'] at hkeeps
              exact Keeps.behind (htwo.trans hkeeps) (ih _ k')
          · split
            · trivial
            · exact Keeps.behind htwo (ih _ _)
      split
      · trivial
      · next hquote hslash _ =>
        refine Keeps.behind ?_ (ih _ _)
        have hskips : Skips (fun d => d ≠ '"' ∧ d ≠ '\\') (c :: rest) rest :=
          .step (decide_eq_true ⟨hquote, hslash⟩) .refl
        rw [hrest, hone]
        exact hskips.quoted (by decide)

theorem string_keeps {k : Cursor} (h : k.at '"' = true) :
    Keeps .between k.rest .between (string k) := by
  have hopen : Level .between k.rest .quoted (k.advance 1).rest := by
    rw [Cursor.rest_of_at h]
    exact Level.cons (m := .between) (fun _ => rfl) _
  exact Keeps.behind hopen (stringTail_keeps k.position (k.rest.length + 1) [] (k.advance 1))

/-! ## Numbers and words -/

/-- What a number is spelled with. -/
def isNumeric (c : CodePoint) : Bool :=
  c.isAsciiDigit || c = '-' || c = '+' || c = '.' || c = 'e' || c = 'E'

theorem isNumeric_of_isAsciiDigit (c : CodePoint) (h : c.isAsciiDigit = true) :
    isNumeric c = true := by
  simp [isNumeric, h]

theorem skips_digits (t : Text) :
    Skips isNumeric t (t.drop (t.takeWhile CodePoint.isAsciiDigit).length) :=
  (Skips.takeWhile _ t).mono isNumeric_of_isAsciiDigit

theorem skips_wholeDigits (t : Text) : Skips isNumeric t (t.drop (wholeDigits t).length) := by
  unfold wholeDigits
  split
  · exact .refl
  · next c rest =>
    split
    · next hzero =>
      subst hzero
      exact .step (by decide) .refl
    · exact skips_digits _

theorem skips_fractionDigits {t : Text} (h : fractionDigits t ≠ []) :
    Skips isNumeric t (t.drop ((fractionDigits t).length + 1)) := by
  unfold fractionDigits at h ⊢
  split at h
  · exact absurd rfl h
  · next c rest =>
    split at h
    · next hpoint =>
      subst hpoint
      exact .step (by decide) (skips_digits rest)
    · exact absurd rfl h

theorem skips_splitSign (t : Text) :
    Skips isNumeric t (Number.splitSign t).2 ∧
      (Number.splitSign t).2 = t.drop (t.length - (Number.splitSign t).2.length) := by
  unfold Number.splitSign
  split
  · exact ⟨.refl, rfl⟩
  · next c rest =>
    have hdrop : rest = (c :: rest).drop ((c :: rest).length - rest.length) := by
      have hone : (c :: rest).length - rest.length = 1 := by simp
      rw [hone]
      rfl
    split
    · next hminus =>
      subst hminus
      exact ⟨.step (by decide) .refl, hdrop⟩
    split
    · next hplus =>
      subst hplus
      exact ⟨.step (by decide) .refl, hdrop⟩
    · exact ⟨.refl, by simp⟩

theorem skips_exponent {t : Text} {e : Int} {n : Nat} (h : exponentOf? t = some (e, n)) :
    Skips isNumeric t (t.drop n) := by
  unfold exponentOf? at h
  split at h
  · cases h
  · next c rest =>
    split at h
    · next he =>
      have hc : isNumeric c = true := by
        rcases he with rfl | rfl <;> decide
      obtain ⟨hsign, htail⟩ := skips_splitSign rest
      rcases hsplit : Number.splitSign rest with ⟨negative, tail⟩
      rw [hsplit] at h hsign htail
      simp only at h
      split at h
      · cases h
      · cases h
        have hbehind (d : Nat) :
            (c :: rest).drop (1 + (rest.length - tail.length) + d) = tail.drop d := by
          rw [Nat.add_assoc, Nat.add_comm 1, List.drop_succ_cons, ← List.drop_drop, ← htail]
        rw [hbehind]
        exact .step hc (hsign.trans (skips_digits tail))
    · cases h

theorem number_keeps (k : Cursor) : Keeps .between k.rest .between (number k) := by
  unfold number
  extract_lets negative signed whole behindWhole fraction behindFraction
  have hsigned : Skips isNumeric k.rest signed.rest := by
    by_cases hminus : negative = true
    · have hrest : signed = k.advance 1 := if_pos hminus
      rw [hrest, Cursor.rest_of_at hminus]
      exact .step (by decide) .refl
    · have hrest : signed = k := if_neg hminus
      rw [hrest]
      exact .refl
  have hwhole : Skips isNumeric signed.rest behindWhole.rest := skips_wholeDigits signed.rest
  have hfraction : Skips isNumeric behindWhole.rest behindFraction.rest := by
    by_cases hempty : fraction.isEmpty = true
    · have hrest : behindFraction = behindWhole := if_pos hempty
      rw [hrest]
      exact .refl
    · have hrest : behindFraction = behindWhole.advance (fraction.length + 1) := if_neg hempty
      rw [hrest]
      exact skips_fractionDigits fun hnil => hempty (List.isEmpty_iff.2 hnil)
  have hplain {t : Text} (h : Skips isNumeric k.rest t) : Level .between k.rest .between t :=
    h.between (by decide)
  have hbehind := (hsigned.trans hwhole).trans hfraction
  split
  · trivial
  · split
    · next e n hexponent => exact hplain (hbehind.trans (skips_exponent hexponent))
    · split
      · split
        · trivial
        · exact hplain (hsigned.trans hwhole)
      · exact hplain hbehind

theorem word_level {k : Cursor} {word : Text} {v : Value}
    (h : words.find? (fun w => w.1.isPrefixOf k.rest) = some (word, v)) :
    Level .between k.rest .between (k.advance word.length).rest := by
  have hfront := List.find?_some h
  simp only at hfront
  obtain ⟨rest, hrest⟩ := List.isPrefixOf_iff_prefix.1 hfront
  have hletters : words.all (fun w => w.1.all fun c => c = '-' || (0x41 ≤ c.val && c.val ≤ 0x5A) ||
      (0x61 ≤ c.val && c.val ≤ 0x7A)) = true := by decide
  have hword := List.all_eq_true.1 (List.all_eq_true.1 hletters _ (List.mem_of_find?_eq_some h))
  have hskips := Skips.append hword rest
  rw [Cursor.advance, ← hrest, List.drop_left]
  exact hskips.between (by decide)

/-! ## Values -/

/-- What is read from a text, in which `j` brackets stand open, by a reader that may go `depth`
deeper: it leaves the text with these brackets closed, or stops for depth with more than `depth`
open. -/
def Bounds (j depth : Nat) (t : Text) : Except Stop (Value × Cursor) → Prop
  | .ok (_, k) => ∀ n, nesting .between n k.rest ≤ nesting .between (n + j) t
  | .error (.tooDeep _) => ∀ n, n + j + depth < nesting .between (n + j) t
  | .error _ => True

namespace Bounds

variable {j depth : Nat} {t t' : Text} {r : Except Stop (Value × Cursor)}

theorem of_shallow {s : Stop} (h : s.IsShallow) : Bounds j depth t (.error s) := by
  cases s with
  | complaint c position => trivial
  | tooManyDigits count => trivial
  | tooDeep inArray => exact h.elim

theorem of_level {k : Cursor} {v : Value} (h : Level .between t .between k.rest) :
    Bounds 0 depth t (.ok (v, k)) := h

theorem of_keeps (h : Keeps .between t .between r) : Bounds 0 depth t r := by
  cases r with
  | ok read => exact of_level h
  | error s => exact of_shallow h

/-- Where reading stops, it does not matter how many brackets are to be closed behind. -/
theorem of_error {s : Stop} (h : Bounds 0 depth t (.error s)) (j : Nat) :
    Bounds j depth t (.error s) := by
  cases s with
  | complaint c position => trivial
  | tooManyDigits count => trivial
  | tooDeep inArray => exact fun n => h (n + j)

theorem behind (h : Level .between t .between t') (hr : Bounds j depth t' r) :
    Bounds j depth t r := by
  unfold Bounds at hr ⊢
  split at hr
  · intro n
    exact Nat.le_trans (hr n) (h (n + j))
  · intro n
    exact Nat.lt_of_lt_of_le (hr n) (h (n + j))
  · trivial

/-- A bracket is opened. -/
theorem opening {c : CodePoint} (hc : c = '[' ∨ c = '\x7b') (hr : Bounds 1 depth t r) :
    Bounds 0 (depth + 1) (c :: t) r := by
  have hopen : ∀ n, nesting .between (n + 1) t ≤ nesting .between n (c :: t) := by
    intro n
    have hle := nesting_le_cons .between n c t
    rcases hc with rfl | rfl
    · exact hle
    · exact hle
  unfold Bounds at hr ⊢
  split at hr
  · intro n
    exact Nat.le_trans (hr n) (hopen n)
  · intro n
    rw [Nat.add_zero, Nat.add_comm depth, ← Nat.add_assoc]
    exact Nat.lt_of_lt_of_le (hr n) (hopen n)
  · trivial

/-- A bracket is opened where the reader may not go deeper. -/
theorem deepest {c : CodePoint} (hc : c = '[' ∨ c = '\x7b') (inArray : Bool) :
    Bounds 0 0 (c :: t) (.error (.tooDeep inArray)) := by
  intro n
  have hle := nesting_le_cons .between n c t
  have hopened : Mode.between.opened n c = n + 1 := by
    rcases hc with rfl | rfl
    · rfl
    · rfl
  rw [hopened] at hle
  exact Nat.lt_of_succ_le (Nat.le_trans (le_nesting _ _ _) hle)

/-- A bracket is closed. -/
theorem closing {k : Cursor} {c : CodePoint} {v : Value} (h : k.at c = true)
    (hc : c = ']' ∨ c = '\x7d') : Bounds 1 depth k.rest (.ok (v, k.advance 1)) := by
  intro n
  have hle := nesting_le_cons .between (n + 1) c (k.advance 1).rest
  rw [Cursor.rest_of_at h]
  rcases hc with rfl | rfl
  · exact hle
  · exact hle

/-- An array or an object, if the reader may go deeper. -/
theorem bracketed {k : Cursor} {c : CodePoint} (h : k.at c = true) (hc : c = '[' ∨ c = '\x7b')
    (inArray : Bool) {inner : Nat → Except Stop (Value × Cursor)}
    (hr : ∀ d, Bounds 1 d (k.advance 1).skipSpace.rest (inner d)) :
    Bounds 0 depth k.rest (match depth with
      | 0 => .error (.tooDeep inArray)
      | d + 1 => inner d) := by
  rw [Cursor.rest_of_at h]
  cases depth with
  | zero => exact deepest hc inArray
  | succ d => exact opening hc (behind (level_skipSpace _) (hr d))

end Bounds

/-- A comma or a colon is passed over, and the white space behind it. -/
theorem level_separator {k : Cursor} {c : CodePoint} (h : k.at c = true) (hc : c = ',' ∨ c = ':') :
    Level .between k.rest .between (k.advance 1).skipSpace.rest := by
  refine Level.trans ?_ (level_skipSpace _)
  rw [Cursor.rest_of_at h]
  rcases hc with rfl | rfl
  · exact Level.cons (m := .between) (fun _ => rfl) _
  · exact Level.cons (m := .between) (fun _ => rfl) _

/-- Every reader of values keeps to the depth that it may go. -/
theorem bounds (fuel : Nat) :
    (∀ depth k, Bounds 0 depth k.rest (value fuel depth k)) ∧
      (∀ depth acc k, Bounds 1 depth k.rest (items fuel depth acc k)) ∧
      ∀ depth acc k, Bounds 1 depth k.rest (members fuel depth acc k) := by
  induction fuel with
  | zero => exact ⟨fun _ _ => trivial, fun _ _ _ => trivial, fun _ _ _ => trivial⟩
  | succ fuel ih =>
    obtain ⟨hvalue, hitems, hmembers⟩ := ih
    refine ⟨?_, ?_, ?_⟩
    · intro depth k
      rw [value.eq_def]
      simp only
      split
      · next hquote =>
        have hkeeps := string_keeps hquote
        split
        · next s hs =>
          rw [hs] at hkeeps
          exact .of_shallow hkeeps
        · next name k' hname =>
          rw [hname] at hkeeps
          exact .of_level hkeeps
      split
      · next hbrace =>
        refine .bracketed hbrace (.inr rfl) false fun d => ?_
        split
        · next hclose => exact .closing hclose (.inr rfl)
        · exact hmembers d [] _
      split
      · next hbracket =>
        refine .bracketed hbracket (.inl rfl) true fun d => ?_
        split
        · next hclose => exact .closing hclose (.inl rfl)
        · exact hitems d [] _
      split
      · next hword => exact .of_keeps (word_level hword)
      · exact .of_keeps (number_keeps k)
    · intro depth acc k
      rw [items]
      have hitem := hvalue depth k
      split
      · next s hs =>
        rw [hs] at hitem
        exact hitem.of_error 1
      · next v k' hk' =>
        rw [hk'] at hitem
        refine .behind (Level.trans hitem (level_skipSpace k')) ?_
        simp only
        split
        · next hclose => exact .closing hclose (.inl rfl)
        split
        · next hcomma => exact .behind (level_separator hcomma (.inl rfl)) (hitems _ _ _)
        · trivial
    · intro depth acc k
      rw [members]
      split
      · next hquote =>
        have hkeeps := string_keeps hquote
        split
        · next s hs =>
          rw [hs] at hkeeps
          exact .of_shallow hkeeps
        · next name k' hname =>
          rw [hname] at hkeeps
          refine .behind (Level.trans hkeeps (level_skipSpace k')) ?_
          simp only
          split
          · next hcolon =>
            refine .behind (level_separator hcolon (.inr rfl)) ?_
            have hmember := hvalue depth (k'.skipSpace.advance 1).skipSpace
            split
            · next s hs =>
              rw [hs] at hmember
              exact hmember.of_error 1
            · next v k'' hk'' =>
              rw [hk''] at hmember
              refine .behind (Level.trans hmember (level_skipSpace k'')) ?_
              split
              · next hclose => exact .closing hclose (.inr rfl)
              split
              · next hcomma => exact .behind (level_separator hcomma (.inl rfl)) (hmembers _ _ _)
              · trivial
          · trivial
      · trivial

/-- **Reading stops for depth only where more brackets than `maxDepth` stand open at once.** -/
theorem maxDepth_lt_nesting {t : Text} {inArray : Bool}
    (h : read? t = .error (.tooDeep inArray)) : maxDepth < nesting .between 0 t := by
  have hwhole : wholeValue t = .error (.tooDeep inArray) := by
    unfold read? at h
    split at h
    · cases h
    · cases h
    · cases h
    · next heq =>
      cases h
      exact heq
  unfold wholeValue at hwhole
  split at hwhole
  · cases hwhole
  · have hbounds := (bounds (2 * t.length + 2)).1 maxDepth (Cursor.mk 0 t).skipSpace
    split at hwhole
    · next s hs =>
      cases hwhole
      rw [hs] at hbounds
      have hdeep := hbounds 0
      rw [Nat.zero_add, Nat.zero_add] at hdeep
      exact Nat.lt_of_lt_of_le hdeep (level_skipSpace (Cursor.mk 0 t) 0)
    · simp only at hwhole
      split at hwhole
      · cases hwhole
      · cases hwhole

/-! ## Nothing but brackets -/

theorem Cursor.skipSpace_replicate {c : CodePoint} (hc : isSpace c = false) (position n : Nat) :
    (Cursor.mk position (List.replicate n c)).skipSpace = ⟨position, List.replicate n c⟩ := by
  unfold skipSpace
  cases n with
  | zero => rfl
  | succ n =>
    rw [List.replicate_succ, List.takeWhile_cons, hc]
    rfl

/-- Brackets that nothing closes are read until the reader may not go deeper. -/
theorem value_replicate {depth n : Nat} (h : depth < n) (fuel position : Nat) :
    value (2 * depth + 1 + fuel) depth ⟨position, List.replicate n '['⟩ = .error (.tooDeep true) := by
  induction depth generalizing n position with
  | zero =>
    obtain ⟨n, rfl⟩ := Nat.exists_eq_add_of_lt h
    have hfuel : 2 * 0 + 1 + fuel = fuel + 1 := by omega
    rw [hfuel]
    rfl
  | succ depth ih =>
    obtain ⟨n, rfl⟩ : ∃ m, n = m + 2 := ⟨n - 2, by omega⟩
    have hfuel : 2 * (depth + 1) + 1 + fuel = 2 * depth + 1 + fuel + 1 + 1 := by omega
    have hitem := ih (n := n + 1) (by omega) (position + 1)
    have hspace : ((Cursor.mk position (List.replicate (n + 2) '[')).advance 1).skipSpace =
        ⟨position + 1, List.replicate (n + 1) '['⟩ :=
      Cursor.skipSpace_replicate (by decide) (position + 1) (n + 1)
    have hnested : value (2 * depth + 1 + fuel + 1 + 1) (depth + 1)
        ⟨position, List.replicate (n + 2) '['⟩ =
        items (2 * depth + 1 + fuel + 1) depth [] ⟨position + 1, List.replicate (n + 1) '['⟩ := by
      rw [← hspace]
      rfl
    rw [hfuel, hnested, items, hitem]

/-- Nothing but brackets, and more of them than may be opened. -/
theorem read?_replicate {n : Nat} (h : maxDepth < n) :
    read? (List.replicate n '[') = .error (.tooDeep true) := by
  obtain ⟨fuel, hfuel⟩ : ∃ fuel, 2 * (List.replicate n ('[' : CodePoint)).length + 2 =
      2 * maxDepth + 1 + fuel := by
    rw [List.length_replicate]
    exact ⟨2 * n + 2 - (2 * maxDepth + 1), by omega⟩
  have hvalue := value_replicate h fuel 0
  have hmark : (List.replicate n ('[' : CodePoint)).head? ≠ some (CodePoint.ofNat 0xFEFF) := by
    obtain ⟨n, rfl⟩ := Nat.exists_eq_add_of_lt h
    intro hmark
    exact absurd (Option.some.inj hmark) (by decide)
  have hwhole : wholeValue (List.replicate n '[') = .error (.tooDeep true) := by
    rw [wholeValue, if_neg hmark, Cursor.skipSpace_replicate (by decide), hfuel, hvalue]
  rw [read?, hwhole]

end StaticHttp.Json
