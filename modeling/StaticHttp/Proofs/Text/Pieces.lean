import StaticHttp.Text.CodePoint

/-!
# Pieces

What lies between the members of a list that separate.  A list is cut at each of them on its own,
and nothing but them is lost.

    pieces p (as ++ s :: bs) = pieces p as ++ pieces p bs      where s separates   (pieces_append_cons)
    (pieces p as).flatten = as.filter (!p ·)                                       (flatten_pieces)
-/

namespace StaticHttp

variable {α : Type} {separates : α → Bool}

theorem pieces_ne_nil (separates : α → Bool) (as : List α) : pieces separates as ≠ [] := by
  cases as with
  | nil => exact List.cons_ne_nil _ _
  | cons a as =>
    rw [pieces]
    split
    · exact List.cons_ne_nil _ _
    · split
      · exact List.cons_ne_nil _ _
      · exact List.cons_ne_nil _ _

theorem pieces_cons_of_pos {s : α} (hs : separates s = true) (bs : List α) :
    pieces separates (s :: bs) = [] :: pieces separates bs := by
  rw [pieces, hs]
  rfl

theorem pieces_append (separates : α → Bool) {run rest piece : List α} {more : List (List α)}
    (hrun : ∀ a ∈ run, separates a = false) (hrest : pieces separates rest = piece :: more) :
    pieces separates (run ++ rest) = (run ++ piece) :: more := by
  induction run with
  | nil => exact hrest
  | cons a run ih =>
    rw [List.forall_mem_cons] at hrun
    rw [List.cons_append, pieces, hrun.1, ih hrun.2]
    rfl

/-- What lies on the two sides of a member that separates is cut on its own. -/
theorem pieces_append_cons {s : α} (hs : separates s = true) (as bs : List α) :
    pieces separates (as ++ s :: bs) = pieces separates as ++ pieces separates bs := by
  induction as with
  | nil => exact pieces_cons_of_pos hs bs
  | cons a as ih =>
    rw [List.cons_append]
    by_cases ha : separates a = true
    · rw [pieces_cons_of_pos ha, pieces_cons_of_pos ha, ih]
      rfl
    · obtain ⟨piece, more, hpieces⟩ := List.exists_cons_of_ne_nil (pieces_ne_nil separates as)
      rw [pieces, pieces, ih, hpieces, if_neg ha, if_neg ha]
      rfl

/-- A member that does not separate joins the piece behind it. -/
theorem pieces_cons_of_neg {a : α} (ha : separates a = false) (as : List α) :
    ∃ piece more, pieces separates as = piece :: more ∧
      pieces separates (a :: as) = (a :: piece) :: more := by
  obtain ⟨piece, more, hpieces⟩ := List.exists_cons_of_ne_nil (pieces_ne_nil separates as)
  refine ⟨piece, more, hpieces, ?_⟩
  rw [pieces, hpieces, ha]
  rfl

/-- Nothing but what separates is lost. -/
theorem flatten_pieces (separates : α → Bool) (as : List α) :
    (pieces separates as).flatten = as.filter fun a => !separates a := by
  induction as with
  | nil => rfl
  | cons a as ih =>
    by_cases ha : separates a = true
    · rw [pieces_cons_of_pos ha]
      simpa [ha] using ih
    · rw [Bool.not_eq_true] at ha
      obtain ⟨piece, more, hrest, hpieces⟩ := pieces_cons_of_neg ha as
      rw [hrest] at ih
      rw [hpieces]
      simpa [ha] using ih

theorem exists_piece_iff {as : List α} {a : α} :
    (∃ piece ∈ pieces separates as, a ∈ piece) ↔ a ∈ as ∧ separates a = false := by
  rw [← List.mem_flatten, flatten_pieces, List.mem_filter, Bool.not_eq_true']

end StaticHttp
