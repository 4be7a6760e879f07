import StaticHttp.Http.Request
import StaticHttp.Proofs.Text.Pieces

/-!
# Words

The words of some bytes are the maximal runs of bytes that are not white space.  `Runs` says what
that means without saying how they are found: between two words there is white space, within a word
there is none, and nothing is left out.

    words bs = ws ↔ Runs bs ws                                     (words_eq_iff)
    Runs (gap ++ w ++ rest) (w :: ws)      where rest begins with white space or is empty
-/

namespace StaticHttp

namespace Request

/-- The first byte of `bs`, if there is one, is white space. -/
def SpaceFirst (bs : Bytes) : Prop := ∀ b ∈ bs.head?, isSpace b = true

/-- The maximal runs of bytes that are not white space, in their order. -/
inductive Runs : Bytes → List Bytes → Prop
  | none {gap : Bytes} : (∀ b ∈ gap, isSpace b = true) → Runs gap []
  | run {gap w rest : Bytes} {ws : List Bytes} :
      (∀ b ∈ gap, isSpace b = true) → w ≠ [] → (∀ b ∈ w, isSpace b = false) → SpaceFirst rest →
      Runs rest ws → Runs (gap ++ w ++ rest) (w :: ws)

/-! ## Lemmas -/

theorem words_space {gap : Bytes} (h : ∀ b ∈ gap, isSpace b = true) (rest : Bytes) :
    words (gap ++ rest) = words rest := by
  induction gap with
  | nil => rfl
  | cons b gap ih =>
    rw [List.forall_mem_cons] at h
    rw [← ih h.2]
    simp [words, pieces, h.1]

theorem words_run {w rest : Bytes} (hne : w ≠ []) (hw : ∀ b ∈ w, isSpace b = false)
    (hrest : SpaceFirst rest) : words (w ++ rest) = w :: words rest := by
  cases rest with
  | nil =>
    have hnil : pieces isSpace [] = [[]] := rfl
    rw [words, pieces_append isSpace hw hnil]
    simp [hne, words, pieces]
  | cons b rest =>
    have hb : isSpace b = true := hrest b rfl
    have hpieces : pieces isSpace (b :: rest) = [] :: pieces isSpace rest := by
      rw [pieces, hb]
      rfl
    rw [words, pieces_append isSpace hw hpieces, words, hpieces]
    simp [hne]

/-- The words are the runs. -/
theorem Runs.words_eq {bs : Bytes} {ws : List Bytes} (h : Runs bs ws) : words bs = ws := by
  induction h with
  | none hgap =>
    have := words_space hgap []
    rwa [List.append_nil] at this
  | run hgap hne hw hrest _ ih =>
    rw [List.append_assoc, words_space hgap, words_run hne hw hrest, ih]

theorem spaceFirst_dropWhile (bs : Bytes) : SpaceFirst (bs.dropWhile (!isSpace ·)) := by
  intro b hb
  have := List.head?_dropWhile_not (!isSpace ·) bs
  rw [Option.mem_def.1 hb] at this
  simpa using this

/-- Any bytes have runs: white space first, then a word, then the runs of what is left. -/
theorem exists_runs (bs : Bytes) : ∃ ws, Runs bs ws := by
  generalize hgap : bs.takeWhile isSpace = gap
  generalize hmid : bs.dropWhile isSpace = mid
  have hbs : gap ++ mid = bs := by rw [← hgap, ← hmid, List.takeWhile_append_dropWhile]
  have hspace : ∀ b ∈ gap, isSpace b = true := by
    intro b hb
    rw [← hgap] at hb
    exact List.all_eq_true.1 List.all_takeWhile b hb
  cases mid with
  | nil =>
    rw [List.append_nil] at hbs
    exact ⟨[], hbs ▸ .none hspace⟩
  | cons b mid =>
    have hb : isSpace b = false := by
      have := List.head?_dropWhile_not isSpace bs
      rw [hmid] at this
      simpa using this
    have hlt : ((b :: mid).dropWhile (!isSpace ·)).length < bs.length := by
      have := (List.dropWhile_suffix (l := mid) (!isSpace ·)).length_le
      rw [← hbs, List.length_append, List.length_cons, List.dropWhile_cons_of_pos (by simp [hb])]
      omega
    obtain ⟨ws, hws⟩ := exists_runs ((b :: mid).dropWhile (!isSpace ·))
    have hne : (b :: mid).takeWhile (!isSpace ·) ≠ [] := by
      rw [List.takeWhile_cons_of_pos (by simp [hb])]
      exact List.cons_ne_nil _ _
    have hword : ∀ a ∈ (b :: mid).takeWhile (!isSpace ·), isSpace a = false := by
      intro a ha
      have := List.all_eq_true.1 List.all_takeWhile a ha
      simpa using this
    have hrun := Runs.run hspace hne hword (spaceFirst_dropWhile (b :: mid)) hws
    rw [List.append_assoc, List.takeWhile_append_dropWhile, hbs] at hrun
    exact ⟨_, hrun⟩
termination_by bs.length

theorem words_eq_iff (bs : Bytes) (ws : List Bytes) : words bs = ws ↔ Runs bs ws := by
  constructor
  · rintro rfl
    obtain ⟨ws, h⟩ := exists_runs bs
    rwa [h.words_eq]
  · exact Runs.words_eq

theorem Runs.isSpace_of_mem {bs w : Bytes} {ws : List Bytes} (h : Runs bs ws) (hw : w ∈ ws) :
    ∀ b ∈ w, isSpace b = false := by
  induction h with
  | none => simp at hw
  | run _ _ hrun _ _ ih =>
    rcases List.mem_cons.1 hw with rfl | hw
    · exact hrun
    · exact ih hw

/-- There is no white space in a word. -/
theorem isSpace_of_mem_words {bs w : Bytes} (hw : w ∈ words bs) : ∀ b ∈ w, isSpace b = false :=
  ((words_eq_iff bs _).1 rfl).isSpace_of_mem hw

/-- A path is read when there are two words, and it is the second. -/
theorem path_of_getElem? {head word : Bytes} (h : (words head)[1]? = some word) :
    path head = .ok (Utf8.decodeEscaping word) := by
  unfold path
  split
  · next heq =>
    rw [heq] at h
    rw [← Option.some.inj h]
  · next hne =>
    match hwords : words head with
    | [] => rw [hwords] at h; cases h
    | [_] => rw [hwords] at h; cases h
    | first :: second :: more => exact absurd hwords (hne first second more)

theorem path_of_length_lt {head : Bytes} (h : (words head).length < 2) :
    path head = .error (.malformed head) := by
  unfold path
  split
  · next heq =>
    rw [heq, List.length_cons, List.length_cons] at h
    omega
  · rfl

theorem path_eq_ok {head : Bytes} {p : Text} (h : path head = .ok p) :
    ∃ word ∈ words head, (words head)[1]? = some word ∧ p = Utf8.decodeEscaping word := by
  unfold path at h
  split at h
  · next first word more heq =>
    refine ⟨word, by simp [heq], by simp [heq], ?_⟩
    exact (Except.ok.inj h).symm
  · cases h

/-- Nothing but the second word of a head matters to its path. -/
theorem path_congr {head head' : Bytes} {p : Text}
    (h : (words head)[1]? = (words head')[1]?) (hp : path head = .ok p) : path head' = .ok p := by
  obtain ⟨word, _, hword, rfl⟩ := path_eq_ok hp
  rw [h] at hword
  exact path_of_getElem? hword

end Request

end StaticHttp
