import StaticHttp.Log.Console

/-!
# Writing through wrappers

On a terminal every wrapper adds a reset to whatever is written, also to the resets of the others.
Anywhere else the wrappers take escape sequences out: a text without ESC passes through them as it
is, and a coloured line without marks loses its colours and nothing else.

    write true m t = write true n t → m = n                              (write_terminal_inj)
    write false n t = t                          for t without ESC            (write_plain)
    write false (n + 1) (colored level line ++ "\n") = line ++ "\n"           (write_colored)
-/

namespace StaticHttp.Log.Console

/-! ## On a terminal -/

/-- A text without ESC and without the marks that may stand around an escape sequence. -/
structure Unmarked (t : Text) : Prop where
  noEscape : escape ∉ t
  noOpen : openMark ∉ t
  noClose : closeMark ∉ t

theorem unmarked_append_iff {t u : Text} : Unmarked (t ++ u) ↔ Unmarked t ∧ Unmarked u := by
  constructor
  · rintro ⟨he, ho, hc⟩
    rw [List.mem_append, not_or] at he ho hc
    exact ⟨⟨he.1, ho.1, hc.1⟩, he.2, ho.2, hc.2⟩
  · rintro ⟨⟨he, ho, hc⟩, he', ho', hc'⟩
    exact ⟨by simp [he, he'], by simp [ho, ho'], by simp [hc, hc']⟩

/-- What stands behind ESC in a sequence that sets a style: a bracket, numbers, and the letter m. -/
def styleBody (parameters : Text) : Text := '[' :: (parameters ++ (['m'] : Text))

/-- An escape sequence that sets a style. -/
def IsStyle (s : Text) : Prop :=
  ∃ parameters : Text, (parameters.all fun c => Text.isDigit c || c = ';') = true ∧
    s = escape :: styleBody parameters

theorem length_styleBody (parameters : Text) :
    (styleBody parameters).length = parameters.length + 2 := by
  simp [styleBody]

theorem notMem_styleBody {parameters : Text}
    (hall : (parameters.all fun c => Text.isDigit c || c = ';') = true) {c : CodePoint}
    (hparameter : (Text.isDigit c || c = ';') = false) (hbracket : c ≠ '[') (hletter : c ≠ 'm') :
    c ∉ styleBody parameters := by
  have hmem : c ∉ parameters := by
    intro hmem
    rw [List.all_eq_true.1 hall c hmem] at hparameter
    cases hparameter
  simp only [styleBody, List.mem_cons, List.mem_append, List.not_mem_nil, or_false, not_or]
  exact ⟨hbracket, hmem, hletter⟩

theorem eq_of_bracketedLength? {t : Text} {n : Nat} (h : bracketedLength? t = some n) :
    ∃ rest, t = escape :: '[' :: rest := by
  unfold bracketedLength? at h
  split at h
  · next e b rest =>
    split at h
    · next heq =>
      obtain ⟨rfl, rfl⟩ := heq
      exact ⟨rest, rfl⟩
    · cases h
  · cases h

theorem eq_of_systemLength? {t : Text} {n : Nat} (h : systemLength? t = some n) :
    ∃ rest, t = escape :: ']' :: rest := by
  unfold systemLength? at h
  split at h
  · next e b rest =>
    split at h
    · next heq =>
      obtain ⟨rfl, rfl⟩ := heq
      exact ⟨rest, rfl⟩
    · cases h
  · cases h

/-- A style is a sequence, as long as no mark closes it. -/
theorem bracketedLength?_style {s rest : Text} (hs : IsStyle s)
    (hrest : rest.head? ≠ some closeMark) : bracketedLength? (s ++ rest) = some s.length := by
  obtain ⟨parameters, hall, rfl⟩ := hs
  have hm : (Text.isDigit ('m' : CodePoint) || ('m' : CodePoint) = (';' : CodePoint)) = false := by
    decide
  have htake : (parameters ++ (('m' : CodePoint) :: rest)).takeWhile
      (fun c => Text.isDigit c || c = ';') = parameters := by
    rw [List.takeWhile_append_of_pos (List.all_eq_true.1 hall), List.takeWhile_cons, hm]
    simp
  have hletter : isLetter ('m' : CodePoint) = true := by decide
  have hshape : escape :: styleBody parameters ++ rest =
      escape :: '[' :: (parameters ++ (('m' : CodePoint) :: rest)) := by simp [styleBody]
  rw [hshape, bracketedLength?, List.length_cons, length_styleBody]
  simp only [and_self, if_true, htake, List.drop_left, hletter, withCloseMark, hrest, if_false]

/-! ## Spans -/

section

variable {length? : Text → Option Nat} {opener : CodePoint}

theorem markedLength?_of_ne (hopen : ∀ t n, length? t = some n → ∃ rest, t = escape :: opener :: rest)
    {c : CodePoint} (he : c ≠ escape) (ho : c ≠ openMark) (rest : Text) :
    markedLength? length? (c :: rest) = none := by
  rw [markedLength?, if_neg ho]
  cases h : length? (c :: rest) with
  | none => rfl
  | some n =>
    obtain ⟨_, heq⟩ := hopen _ _ h
    cases heq
    exact absurd rfl he

/-- Where there is no ESC there is no sequence. -/
theorem spansFrom_eq_nil
    (hopen : ∀ t n, length? t = some n → ∃ rest, t = escape :: opener :: rest) {t : Text}
    (h : escape ∉ t) (position : Nat) : spansFrom length? position 0 t = [] := by
  have hnone : ∀ u : Text, escape ∉ u → length? u = none := by
    intro u hu
    cases hlength : length? u with
    | none => rfl
    | some n =>
      obtain ⟨_, rfl⟩ := hopen _ _ hlength
      exact absurd List.mem_cons_self hu
  induction t generalizing position with
  | nil => rfl
  | cons c t ih =>
    have ht : escape ∉ t := fun hmem => h (List.mem_cons_of_mem c hmem)
    have hmarked : markedLength? length? (c :: t) = none := by
      rw [markedLength?]
      split
      · rw [hnone t ht]
        rfl
      · exact hnone _ h
    simp only [spansFrom, hmarked]
    exact ih ht (position + 1)

/-- Text in which no sequence begins is passed over. -/
theorem spansFrom_append
    (hopen : ∀ t n, length? t = some n → ∃ rest, t = escape :: opener :: rest) {front : Text}
    (he : escape ∉ front) (ho : openMark ∉ front) (position : Nat) (rest : Text) :
    spansFrom length? position 0 (front ++ rest) =
      spansFrom length? (position + front.length) 0 rest := by
  induction front generalizing position with
  | nil => rfl
  | cons c front ih =>
    rw [List.mem_cons, not_or] at he ho
    have hmarked := markedLength?_of_ne hopen (Ne.symm he.1) (Ne.symm ho.1) (front ++ rest)
    rw [List.cons_append]
    simp only [spansFrom, hmarked]
    rw [ih he.2 ho.2, List.length_cons]
    congr 1
    omega

/-- What is part of a sequence is skipped. -/
theorem spansFrom_skip (front rest : Text) (position : Nat) :
    spansFrom length? position front.length (front ++ rest) =
      spansFrom length? (position + front.length) 0 rest := by
  induction front generalizing position with
  | nil => rfl
  | cons c front ih =>
    rw [List.cons_append, List.length_cons]
    simp only [spansFrom]
    rw [ih]
    congr 1
    omega

end

/-- A style is one span. -/
theorem spansFrom_bracketed_style {s rest : Text} (hs : IsStyle s)
    (hrest : rest.head? ≠ some closeMark) (position : Nat) :
    spansFrom bracketedLength? position 0 (s ++ rest) =
      (position, s.length) :: spansFrom bracketedLength? (position + s.length) 0 rest := by
  have hlength := bracketedLength?_style hs hrest
  obtain ⟨parameters, _, rfl⟩ := hs
  rw [List.length_cons, length_styleBody] at hlength ⊢
  have hmarked : markedLength? bracketedLength? (escape :: (styleBody parameters ++ rest)) =
      some (parameters.length + 2 + 1) := by
    rw [markedLength?, if_neg (by decide)]
    exact hlength
  have hskip := @spansFrom_skip bracketedLength? (styleBody parameters) rest (position + 1)
  rw [length_styleBody] at hskip
  rw [List.cons_append]
  simp only [spansFrom, hmarked, Nat.add_sub_cancel]
  rw [hskip]
  congr 2
  omega

/-- A style is no sequence of the operating-system kind. -/
theorem spansFrom_system_style {s : Text} (hs : IsStyle s) (position : Nat) (rest : Text) :
    spansFrom systemLength? position 0 (s ++ rest) =
      spansFrom systemLength? (position + s.length) 0 rest := by
  obtain ⟨parameters, hall, rfl⟩ := hs
  have hmarked : markedLength? systemLength? (escape :: (styleBody parameters ++ rest)) = none := by
    rw [markedLength?, if_neg (by decide)]
    cases h : systemLength? (escape :: (styleBody parameters ++ rest)) with
    | none => rfl
    | some n =>
      obtain ⟨_, heq⟩ := eq_of_systemLength? h
      rw [styleBody, List.cons_append] at heq
      injection heq with _ heq
      injection heq with heq
      exact absurd heq (by decide)
  have he : escape ∉ styleBody parameters :=
    notMem_styleBody hall (by decide) (by decide) (by decide)
  have ho : openMark ∉ styleBody parameters :=
    notMem_styleBody hall (by decide) (by decide) (by decide)
  rw [List.cons_append]
  simp only [spansFrom, hmarked]
  rw [spansFrom_append (fun _ _ => eq_of_systemLength?) he ho, List.length_cons]
  congr 1
  omega

/-! ## Pieces -/

/-- The text as a piece, unless it is empty. -/
def piece (t : Text) : List Text := if t.isEmpty then [] else [t]

/-- The pieces of a text that lie between its sequences, from a position on. -/
def piecesFrom (position : Nat) (t : Text) : List Text :=
  between position t (spansFrom bracketedLength? position 0 t)

theorem piecesFrom_plain {t : Text} (h : escape ∉ t) (position : Nat) :
    piecesFrom position t = piece t := by
  rw [piecesFrom, spansFrom_eq_nil (fun _ _ => eq_of_bracketedLength?) h]
  rfl

theorem piecesFrom_style {front s rest : Text} (he : escape ∉ front) (ho : openMark ∉ front)
    (hs : IsStyle s) (hrest : rest.head? ≠ some closeMark) (position : Nat) :
    piecesFrom position (front ++ (s ++ rest)) =
      piece front ++ piecesFrom (position + front.length + s.length) rest := by
  have hspans : spansFrom bracketedLength? position 0 (front ++ (s ++ rest)) =
      (position + front.length, s.length) ::
        spansFrom bracketedLength? (position + front.length + s.length) 0 rest := by
    rw [spansFrom_append (fun _ _ => eq_of_bracketedLength?) he ho, spansFrom_bracketed_style hs hrest]
  rw [piecesFrom, hspans, between]
  have hfront : position + front.length - position = front.length := by omega
  have hdrop : (front ++ (s ++ rest)).drop (front.length + s.length) = rest := by
    rw [← List.append_assoc, ← List.length_append, List.drop_left]
  simp only [hfront, List.take_left, hdrop]
  rw [piece, piecesFrom]
  split <;> rfl

theorem piecesFrom_styles {styles : List Text} (hstyles : ∀ s ∈ styles, IsStyle s) {rest : Text}
    (hrest : rest.head? ≠ some closeMark) (position : Nat) :
    piecesFrom position (styles.flatten ++ rest) =
      piecesFrom (position + styles.flatten.length) rest := by
  induction styles generalizing position with
  | nil => rfl
  | cons s styles ih =>
    rw [List.forall_mem_cons] at hstyles
    have hhead : (styles.flatten ++ rest).head? ≠ some closeMark := by
      cases styles with
      | nil => exact hrest
      | cons s' styles =>
        obtain ⟨parameters, _, rfl⟩ := hstyles.2 s' List.mem_cons_self
        simp only [List.flatten_cons, List.cons_append, List.head?_cons]
        decide
    have hfirst := @piecesFrom_style [] s _ List.not_mem_nil List.not_mem_nil hstyles.1 hhead position
    rw [List.flatten_cons, List.append_assoc, List.length_append, ← Nat.add_assoc]
    exact hfirst.trans (ih hstyles.2 _)

theorem spansFrom_system_styles {styles : List Text} (hstyles : ∀ s ∈ styles, IsStyle s)
    (position : Nat) (rest : Text) :
    spansFrom systemLength? position 0 (styles.flatten ++ rest) =
      spansFrom systemLength? (position + styles.flatten.length) 0 rest := by
  induction styles generalizing position with
  | nil => rfl
  | cons s styles ih =>
    rw [List.forall_mem_cons] at hstyles
    rw [List.flatten_cons, List.append_assoc, spansFrom_system_style hstyles.1, ih hstyles.2,
      List.length_append, Nat.add_assoc]

/-! ## Off a terminal -/

theorem plainPieces_plain {t : Text} (h : escape ∉ t) : plainPieces t = piece t := by
  have hsystem : withoutSystem t = t := by
    rw [withoutSystem, spans, spansFrom_eq_nil (fun _ _ => eq_of_systemLength?) h]
    rfl
  rw [plainPieces, hsystem]
  exact piecesFrom_plain h 0

theorem flatMap_piece (f : Text → Text) (hf : f [] = []) (t : Text) : (piece t).flatMap f = f t := by
  rw [piece]
  cases t with
  | nil => exact hf.symm
  | cons c t => simp

/-- A text without ESC passes through all wrappers. -/
theorem write_plain (n : Nat) {t : Text} (h : escape ∉ t) : write false n t = t := by
  induction n generalizing t with
  | zero => exact write_zero false t
  | succ n ih =>
    rw [write, if_neg Bool.false_ne_true, plainPieces_plain h,
      flatMap_piece _ (ih List.not_mem_nil), ih h]

theorem isStyle_reset : IsStyle reset := ⟨"0", by decide, by decide⟩

/-- The colour of a level consists of styles. -/
theorem exists_styles (level : Int) :
    ∃ styles : List Text, color level = styles.flatten ∧ ∀ s ∈ styles, IsStyle s := by
  have hone : ∀ parameters : String,
      ((parameters : Text).all fun c => Text.isDigit c || c = ';') = true →
      ∃ styles : List Text, escape :: styleBody parameters = styles.flatten ∧
        ∀ s ∈ styles, IsStyle s := by
    intro parameters h
    refine ⟨[_], (List.append_nil _).symm, ?_⟩
    intro s hs
    rw [List.mem_singleton.1 hs]
    exact ⟨parameters, h, rfl⟩
  unfold color
  split
  · exact hone "36" (by decide)
  split
  · exact hone "32" (by decide)
  split
  · exact hone "33" (by decide)
  split
  · exact hone "31" (by decide)
  split
  · refine ⟨["\x1b[31m", "\x1b[1m"], by decide, ?_⟩
    simp only [List.forall_mem_cons, List.not_mem_nil, false_implies, implies_true, and_true]
    exact ⟨⟨"31", by decide, by decide⟩, ⟨"1", by decide, by decide⟩⟩
  · exact hone "32" (by decide)

/-- The pieces of a coloured line are the line itself and its end. -/
theorem plainPieces_colored (level : Int) {line : Text} (h : Unmarked line) :
    plainPieces (colored level line ++ ("\n" : Text)) = piece line ++ [("\n" : Text)] := by
  obtain ⟨styles, hcolor, hstyles⟩ := exists_styles level
  have hshape : colored level line ++ ("\n" : Text) =
      styles.flatten ++ (line ++ (reset ++ ("\n" : Text))) := by
    rw [colored, hcolor]
    simp only [List.append_assoc]
  have hend : escape ∉ ("\n" : Text) := by decide
  have hsystem : withoutSystem (colored level line ++ ("\n" : Text)) =
      colored level line ++ ("\n" : Text) := by
    have hspans : spansFrom systemLength? 0 0 (styles.flatten ++ (line ++ (reset ++ ("\n" : Text)))) =
        [] := by
      rw [spansFrom_system_styles hstyles,
        spansFrom_append (fun _ _ => eq_of_systemLength?) h.noEscape h.noOpen,
        spansFrom_system_style isStyle_reset]
      exact spansFrom_eq_nil (fun _ _ => eq_of_systemLength?) hend _
    rw [withoutSystem, spans, hshape, hspans]
    rfl
  have hhead : (line ++ (reset ++ ("\n" : Text))).head? ≠ some closeMark := by
    cases line with
    | nil => decide
    | cons c line =>
      simp only [List.cons_append, List.head?_cons, ne_eq, Option.some.injEq]
      exact fun hc => h.noClose (hc ▸ List.mem_cons_self)
  have hpieces : piecesFrom 0 (styles.flatten ++ (line ++ (reset ++ ("\n" : Text)))) =
      piece line ++ piece ("\n" : Text) := by
    rw [piecesFrom_styles hstyles hhead,
      piecesFrom_style h.noEscape h.noOpen isStyle_reset (by decide), piecesFrom_plain hend]
  rw [plainPieces, hsystem, hshape]
  exact hpieces

/-- A coloured line without marks is written without its colours, through however many wrappers. -/
theorem write_colored (n : Nat) (level : Int) {line : Text} (h : Unmarked line) :
    write false (n + 1) (colored level line ++ ("\n" : Text)) = line ++ ("\n" : Text) := by
  rw [write, if_neg Bool.false_ne_true, plainPieces_colored level h, List.flatMap_append,
    flatMap_piece _ (write_plain n List.not_mem_nil), write_plain n h.noEscape]
  simp only [List.flatMap_cons, List.flatMap_nil, List.append_nil]
  rw [write_plain n (by decide)]

end StaticHttp.Log.Console
