import StaticHttp.Http.MediaType
import StaticHttp.Proofs.Text.Written

/-!
# Media types of paths that are not text

A path may hold bytes that are no text in any encoding.  They stand in it as surrogates, and its
media type is written with the same bytes again: it is the one that the last point of the bytes
tells.

    Written path bs → Written (ofPath path) (ofPathBytes bs)      (written_ofPath)
-/

namespace StaticHttp

/-! ## What follows the last separator -/

theorem Text.afterLast?_of_notMem {sep : CodePoint} {t : Text} (h : sep ∉ t) :
    Text.afterLast? sep t = none := by
  induction t with
  | nil => rfl
  | cons c t ih =>
    rw [List.mem_cons, not_or] at h
    rw [afterLast?, ih h.2]
    exact if_neg (Ne.symm h.1)

theorem Text.afterLast?_append {sep : CodePoint} {e : Text} (h : sep ∉ e) (s : Text) :
    Text.afterLast? sep (s ++ sep :: e) = some e := by
  induction s with
  | nil =>
    rw [List.nil_append, afterLast?, afterLast?_of_notMem h]
    exact if_pos rfl
  | cons c s ih => rw [List.cons_append, afterLast?, ih]

/-- A list in which something occurs is cut at its last occurrence. -/
theorem exists_last_of_mem {α : Type} {a : α} {xs : List α} (h : a ∈ xs) :
    ∃ s e, xs = s ++ a :: e ∧ a ∉ e := by
  induction xs with
  | nil => cases h
  | cons x xs ih =>
    by_cases hmem : a ∈ xs
    · obtain ⟨s, e, rfl, he⟩ := ih hmem
      exact ⟨x :: s, e, rfl, he⟩
    · obtain rfl | hx := List.mem_cons.1 h
      · exact ⟨[], xs, rfl, hmem⟩
      · exact absurd hx hmem

namespace MediaType

open Utf8

/-! ## Extensions -/

/-- The byte of a point. -/
def point : UInt8 := 0x2E

/-- The bytes behind the last point, and none if there is no point. -/
def extensionBytes (path : Bytes) : Bytes :=
  if point ∈ path then (path.reverse.takeWhile (· ≠ point)).reverse else []

theorem extensionBytes_of_notMem {path : Bytes} (h : point ∉ path) : extensionBytes path = [] :=
  if_neg h

theorem extensionBytes_append {e : Bytes} (h : point ∉ e) (s : Bytes) :
    extensionBytes (s ++ point :: e) = e := by
  have hall : ∀ b ∈ e.reverse, decide (b ≠ point) = true := by
    intro b hb
    rw [decide_eq_true_iff]
    rintro rfl
    exact h (List.mem_reverse.1 hb)
  rw [extensionBytes, if_pos (by simp), List.reverse_append, List.reverse_cons, List.append_assoc,
    List.takeWhile_append_of_pos hall, List.singleton_append, List.takeWhile_cons_of_neg (by simp),
    List.append_nil, List.reverse_reverse]

theorem mem_of_mem_extensionBytes {path : Bytes} {b : UInt8} (h : b ∈ extensionBytes path) :
    b ∈ path := by
  unfold extensionBytes at h
  split at h
  · rw [List.mem_reverse] at h
    exact List.mem_reverse.1 ((List.takeWhile_prefix _).subset h)
  · cases h

/-- The extension of a path is written with the bytes behind the last point. -/
theorem written_extension {path : Text} {bs : Bytes} (h : Written path bs) :
    Written (extension path) (extensionBytes bs) := by
  have hpoint : ('.' : CodePoint) = CodePoint.ofNat point.toNat := by decide
  unfold extension
  by_cases hmem : point ∈ bs
  · obtain ⟨xs, ys, rfl, hys⟩ := exists_last_of_mem hmem
    obtain ⟨s, e, rfl, _, he⟩ := h.cut (b := point) (by decide)
    have hnot : ('.' : CodePoint) ∉ e := by
      rw [hpoint, ← he.mem_iff (by decide)]
      exact hys
    rw [extensionBytes_append hys, ← hpoint, Text.afterLast?_append hnot, Option.getD_some]
    exact he
  · have hnot : ('.' : CodePoint) ∉ path := by
      rw [hpoint, ← h.mem_iff (by decide)]
      exact hmem
    rw [extensionBytes_of_notMem hmem, Text.afterLast?_of_notMem hnot]
    exact .nil

/-! ## Types -/

/-- The media type of an extension, in bytes. -/
def ofExtensionBytes (e : Bytes) : Bytes :=
  if e = Bytes.ofAscii "js" then Bytes.ofAscii "text/javascript"
  else if e = Bytes.ofAscii "html" then Bytes.ofAscii "text/html"
  else if e = Bytes.ofAscii "wasm" then Bytes.ofAscii "application/wasm"
  else Bytes.ofAscii "text/" ++ e

/-- The media type of a path, in bytes. -/
def ofPathBytes (path : Bytes) : Bytes := ofExtensionBytes (extensionBytes path)

theorem ofExtension_eq (e : Text) :
    ofExtension e =
      if e = "js" then ("text/javascript" : Text)
      else if e = "html" then "text/html"
      else if e = "wasm" then "application/wasm"
      else "text/" ++ e := by
  unfold ofExtension registered
  by_cases hjs : e = "js"
  · rw [hjs]
    rfl
  by_cases hhtml : e = "html"
  · rw [hhtml]
    rfl
  by_cases hwasm : e = "wasm"
  · rw [hwasm]
    rfl
  · rw [if_neg hjs, if_neg hhtml, if_neg hwasm]
    simp [List.lookup_cons, beq_eq_false_iff_ne.2 hjs, beq_eq_false_iff_ne.2 hhtml,
      beq_eq_false_iff_ne.2 hwasm]

theorem written_ofExtension {e : Text} {bs : Bytes} (h : Written e bs) :
    Written (ofExtension e) (ofExtensionBytes bs) := by
  rw [ofExtension_eq, ofExtensionBytes]
  simp only [h.eq_ofString_iff (s := "js") (by decide), h.eq_ofString_iff (s := "html") (by decide),
    h.eq_ofString_iff (s := "wasm") (by decide)]
  split
  · exact written_ofAscii (by decide)
  split
  · exact written_ofAscii (by decide)
  split
  · exact written_ofAscii (by decide)
  · exact (written_ofAscii (by decide)).append h

/-- **The media type of a path is the one that its bytes tell.** -/
theorem written_ofPath {path : Text} {bs : Bytes} (h : Written path bs) :
    Written (ofPath path) (ofPathBytes bs) :=
  written_ofExtension (written_extension h)

end MediaType

end StaticHttp
