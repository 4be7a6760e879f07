import StaticHttp.Files.Tree
import StaticHttp.Proofs.Text.Escaping
import StaticHttp.Proofs.Text.Pieces
import StaticHttp.Proofs.Text.Stray

/-!
# Paths that can be passed on

The operating system takes a path in bytes that end before the first NUL.  A path that cannot be
passed on like that is refused as a bad value, before anything is looked up; every other refusal is
the system's.  A path stays one that can be passed on when it is made absolute, and one that cannot
becomes one only where `..` takes its flaws away.

    t.openAppend path = .error f → Refused path f                               (refused_openAppend)
    Refused path f → (f is the system's ↔ Passable path)                        (isSystem_iff)
    Passable (absolute here path) ↔ Passable path     for a path without `..`   (passable_absolute_iff)
-/

namespace StaticHttp

namespace Path

/-- A path that can be passed on to the operating system: it holds no NUL, and no surrogate that
stands for no byte. -/
def Passable (path : Text) : Prop := ∀ c ∈ path, c.val ≠ 0 ∧ ¬ c.IsStray

instance (path : Text) : Decidable (Passable path) :=
  inferInstanceAs (Decidable (∀ c ∈ path, c.val ≠ 0 ∧ ¬ c.IsStray))

/-- How a path is refused: by the operating system, or before it could be passed on. -/
inductive Refused (path : Text) : Failure → Prop
  | system {e : SystemError} : Passable path → Refused path (.system e)
  | unpassed {f : Failure} : ¬ Passable path → f.isBadValue = true → Refused path f

/-- The system's refusals are those of paths that can be passed on. -/
theorem Refused.isSystem_iff {path : Text} {f : Failure} (h : Refused path f) :
    f.isSystem = true ↔ Passable path := by
  cases h with
  | system hpath => exact iff_of_true rfl hpath
  | unpassed hpath hbad =>
    refine iff_of_false ?_ hpath
    intro hsystem
    cases f with
    | system e => cases hbad
    | _ => cases hsystem

/-! ## Absolute paths -/

theorem mem_simplify {rooted : Bool} {front : List Text} {part q : Text}
    (h : q ∈ simplify rooted front part) : q ∈ front ∨ q = part := by
  have hcons : ∀ {qs : List Text}, q ∈ part :: qs → q ∈ qs ∨ q = part := by
    intro qs hmem
    rcases List.mem_cons.1 hmem with rfl | hmem
    · exact .inr rfl
    · exact .inl hmem
  unfold simplify at h
  split at h
  · exact .inl h
  split at h
  · split at h
    · split at h
      · cases h
      · exact .inr (List.mem_singleton.1 h)
    · split at h
      · exact hcons h
      · exact .inl (List.mem_cons_of_mem _ h)
  · exact hcons h

theorem mem_foldl_simplify {rooted : Bool} {parts front : List Text} {q : Text}
    (h : q ∈ parts.foldl (simplify rooted) front) : q ∈ front ∨ q ∈ parts := by
  induction parts generalizing front with
  | nil => exact .inl h
  | cons part parts ih =>
    rcases ih h with hmem | hmem
    · rcases mem_simplify hmem with hmem | rfl
      · exact .inl hmem
      · exact .inr List.mem_cons_self
    · exact .inr (List.mem_cons_of_mem _ hmem)

/-- Only `..` takes away what stands in front of it. -/
theorem mem_simplify_of_mem {rooted : Bool} {front : List Text} {part q : Text}
    (hpart : part ≠ "..") (h : q ∈ front) : q ∈ simplify rooted front part := by
  unfold simplify
  by_cases hempty : part = [] ∨ part = "."
  · rw [if_pos hempty]
    exact h
  · rw [if_neg hempty, if_neg hpart]
    exact List.mem_cons_of_mem _ h

theorem mem_foldl_simplify_of_mem {rooted : Bool} {parts front : List Text} {q : Text}
    (hup : (".." : Text) ∉ parts) (h : q ∈ front ∨ q ∈ parts) (hne : q ≠ []) (hdot : q ≠ ".") :
    q ∈ parts.foldl (simplify rooted) front := by
  induction parts generalizing front with
  | nil =>
    rcases h with h | h
    · exact h
    · cases h
  | cons part parts ih =>
    rw [List.mem_cons, not_or] at hup
    refine ih hup.2 ?_
    rcases h with h | h
    · exact .inl (mem_simplify_of_mem (Ne.symm hup.1) h)
    · rcases List.mem_cons.1 h with rfl | h
      -- The part itself is kept: it is neither empty nor made of dots.
      · refine .inl ?_
        unfold simplify
        rw [if_neg (not_or.2 ⟨hne, hdot⟩), if_neg (Ne.symm hup.1)]
        exact List.mem_cons_self
      · exact .inr h

theorem mem_intercalate_iff {sep c : CodePoint} (hc : c ≠ sep) {ls : List Text} :
    c ∈ [sep].intercalate ls ↔ ∃ l ∈ ls, c ∈ l := by
  induction ls with
  | nil => simp
  | cons l ls ih =>
    cases ls with
    | nil => simp [List.intercalate_singleton]
    | cons l' ls =>
      rw [List.intercalate_cons_cons, List.append_assoc, List.mem_append, List.singleton_append,
        List.mem_cons, ih]
      simp [hc]

/-- What is in a normal path besides slashes and dots is in what its parts come to. -/
theorem mem_normal_iff {path : Text} {c : CodePoint} (hslash : c ≠ slash) (hdot : c ≠ '.') :
    c ∈ normal path ↔ ∃ q ∈ (pieces (· = slash) path).foldl
      (simplify (0 < leadingSlashes path)) [], c ∈ q := by
  have hempty : ∀ t : Text, c ∈ (if t.isEmpty then ("." : Text) else t) ↔ c ∈ t := by
    intro t
    cases t with
    | nil =>
      have hnot : c ∉ ("." : Text) := fun hmem => hdot (List.mem_singleton.1 hmem)
      exact iff_of_false hnot List.not_mem_nil
    | cons a t => exact Iff.rfl
  have hslashes : c ∉ List.replicate (leadingSlashes path) slash :=
    fun hmem => hslash (List.eq_of_mem_replicate hmem)
  unfold normal
  simp only [hempty, List.mem_append, hslashes, false_or]
  rw [mem_intercalate_iff hslash]
  simp only [List.mem_reverse]

/-- A normal path holds nothing new but slashes and dots. -/
theorem mem_of_mem_normal {path : Text} {c : CodePoint} (h : c ∈ normal path) (hslash : c ≠ slash)
    (hdot : c ≠ '.') : c ∈ path := by
  obtain ⟨q, hq, hc⟩ := (mem_normal_iff hslash hdot).1 h
  rcases mem_foldl_simplify hq with hq | hq
  · cases hq
  · exact (exists_piece_iff.1 ⟨q, hq, hc⟩).1

/-- What stands in a path at its end stays in the normal path, if there is no `..` in it. -/
theorem mem_normal_of_mem {whole path : Text} {before : List Text} {c : CodePoint}
    (hwhole : pieces (· = slash) whole = before ++ pieces (· = slash) path)
    (hup : (".." : Text) ∉ pieces (· = slash) path) (hslash : c ≠ slash) (hdot : c ≠ '.')
    (h : c ∈ path) : c ∈ normal whole := by
  obtain ⟨q, hq, hc⟩ : ∃ q ∈ pieces (· = slash) path, c ∈ q :=
    exists_piece_iff.2 ⟨h, decide_eq_false hslash⟩
  rw [mem_normal_iff hslash hdot, hwhole, List.foldl_append]
  refine ⟨q, mem_foldl_simplify_of_mem hup (.inr hq) ?_ ?_, hc⟩
  · rintro rfl
    cases hc
  · rintro rfl
    exact hdot (List.mem_singleton.1 hc)

variable {here path : Text}

theorem Passable.absolute (hhere : Passable here) (hpath : Passable path) :
    Passable (absolute here path) := by
  intro c hc
  by_cases hslash : c = slash
  · rw [hslash]
    decide
  by_cases hdot : c = '.'
  · rw [hdot]
    decide
  have hmem := mem_of_mem_normal hc hslash hdot
  split at hmem
  · exact hpath c hmem
  · rcases List.mem_append.1 hmem with hmem | hmem
    · exact hhere c hmem
    · rcases List.mem_cons.1 hmem with rfl | hmem
      · exact absurd rfl hslash
      · exact hpath c hmem

/-- A path without `..` keeps its flaws. -/
theorem passable_absolute_iff (hhere : Passable here)
    (hup : (".." : Text) ∉ pieces (· = slash) path) :
    Passable (absolute here path) ↔ Passable path := by
  refine ⟨?_, hhere.absolute⟩
  intro h c hc
  by_cases hslash : c = slash
  · rw [hslash]
    decide
  by_cases hdot : c = '.'
  · rw [hdot]
    decide
  refine h c ?_
  unfold Path.absolute
  split
  · exact mem_normal_of_mem (List.nil_append _).symm hup hslash hdot hc
  · have hcut : pieces (· = slash) (here ++ slash :: path) =
        pieces (· = slash) here ++ pieces (· = slash) path :=
      pieces_append_cons (by simp) here path
    exact mem_normal_of_mem hcut hup hslash hdot hc

end Path

namespace Tree

open StaticHttp.Path

variable {t : Tree} {path : Text}

/-! ## Refusals -/

/-- The bytes of a path are there if it can be passed on. -/
theorem pathBytes_cases (path : Text) :
    (Passable path ∧ ∃ bytes, pathBytes path = .ok bytes) ∨
      (¬ Passable path ∧ ∃ f, pathBytes path = .error f ∧ f.isBadValue = true) := by
  unfold pathBytes
  cases hencode : Utf8.encodeEscaping path with
  | error fault =>
    refine .inr ⟨?_, _, rfl, rfl⟩
    intro hpath
    obtain ⟨bytes, hbytes⟩ := Utf8.exists_written_iff.2 fun c hc => (hpath c hc).2
    rw [(Utf8.encodeEscaping_eq_ok_iff path bytes).2 hbytes] at hencode
    cases hencode
  | ok bytes =>
    have hwritten := (Utf8.encodeEscaping_eq_ok_iff path bytes).1 hencode
    have hnul := hwritten.mem_iff (b := 0) (by decide)
    by_cases hzero : (0 : UInt8) ∈ bytes
    · refine .inr ⟨fun hpath => ?_, .embeddedNull, ?_, rfl⟩
      · exact (hpath _ (hnul.1 hzero)).1 rfl
      · simp [hzero]
    · refine .inl ⟨fun c hc => ⟨?_, Utf8.exists_written_iff.1 ⟨bytes, hwritten⟩ c hc⟩, bytes, ?_⟩
      · intro hval
        obtain rfl : c = CodePoint.ofNat 0 := CodePoint.ext hval
        exact hzero (hnul.2 hc)
      · simp [hzero]

theorem refused_find {f : Failure} (h : t.find path = .error f) : Refused path f := by
  unfold find at h
  rcases pathBytes_cases path with ⟨hpath, bytes, hbytes⟩ | ⟨hpath, g, hbytes, hbad⟩
  · rw [hbytes] at h
    simp only at h
    split at h
    · cases h
      exact .system hpath
    · cases h
  · rw [hbytes] at h
    cases h
    exact .unpassed hpath hbad

/-- A path that leads somewhere could be passed on. -/
theorem passable_of_find {spot : Spot} (h : t.find path = .ok spot) : Passable path := by
  unfold find at h
  rcases pathBytes_cases path with ⟨hpath, _⟩ | ⟨_, g, hbytes, _⟩
  · exact hpath
  · rw [hbytes] at h
    cases h

theorem refused_openAppend {f : Failure} (h : t.openAppend path = .error f) : Refused path f := by
  unfold openAppend at h
  split at h
  · next hfind =>
    cases h
    exact refused_find hfind
  · cases h
  · next hfind =>
    cases h
    exact .system (passable_of_find hfind)
  · next hfind =>
    cases h
    exact .system (passable_of_find hfind)
  · cases h

theorem passable_of_openAppend {opened : Tree × Place} (h : t.openAppend path = .ok opened) :
    Passable path := by
  unfold openAppend at h
  split at h
  · cases h
  · next hfind => exact passable_of_find hfind
  · cases h
  · cases h
  · next hfind => exact passable_of_find hfind

/-- The folder in which paths start can be passed on, if there is no NUL in its names. -/
theorem passable_herePath (h : ∀ name ∈ t.here, (0 : UInt8) ∉ name) : Passable t.herePath := by
  have hwritten := Utf8.written_decodeEscaping (t.here.flatMap (0x2F :: ·))
  have hnul := hwritten.mem_iff (b := 0) (by decide)
  intro c hc
  refine ⟨?_, Utf8.exists_written_iff.1 ⟨_, hwritten⟩ c hc⟩
  intro hval
  obtain rfl : c = CodePoint.ofNat 0 := CodePoint.ext hval
  obtain ⟨name, hname, hzero⟩ := List.mem_flatMap.1 (hnul.2 hc)
  rcases List.mem_cons.1 hzero with hslash | hzero
  · exact absurd hslash (by decide)
  · exact h name hname hzero

end Tree

end StaticHttp
