import StaticHttp.Files.Tree

/-!
# Writing at the end of a file

A tree is extended by another when everything in it is still there: folders and links as they were,
files perhaps with other content; what is new are files.  Whatever a path led to, it leads to the
same place in the extension.  Opening a file extends a tree, and so does writing at its end.

    t.Extends t' → t.find path = .ok spot → t'.find path = .ok (spot.seenIn t')     (Extends.find)
    t.openAppend path = .ok (t', p) → path leads to p in t'                       (find_openAppend)
    a path that leads to another place than p leads to the same in t.append p bytes
-/

namespace StaticHttp

/-- Something with bytes written at its end; nothing but a file keeps them. -/
def Node.grown (bytes : Bytes) : Node → Node
  | .file content => .file (content ++ bytes)
  | n => n

/-- Text can be written at the end of a file, and to a sink. -/
inductive Node.TakesText : Node → Prop
  | file {content : Bytes} : TakesText (.file content)
  | sink : TakesText .sink

namespace Tree

/-! ## Extensions -/

/-- What a place holds in one tree, and what it holds in an extension. -/
inductive Kept : Option Node → Option Node → Prop
  | same {n : Option Node} : Kept n n
  | rewritten {content content' : Bytes} : Kept (some (.file content)) (some (.file content'))
  | made {content : Bytes} : Kept none (some (.file content))

/-- Everything in a tree is still there in another: only files are new or rewritten. -/
structure Extends (t t' : Tree) : Prop where
  here : t'.here = t.here
  kept : ∀ p, Kept (t.at? p) (t'.at? p)

/-- What lies in another tree at the place that a path leads to. -/
def Spot.seenIn (t : Tree) : Spot → Spot
  | .taken p _ => .taken p ((t.at? p).getD .folder)
  | .free p =>
    match t.at? p with
    | none => .free p
    | some n => .taken p n

namespace Extends

variable {t t' : Tree} {spot : Spot}

theorem at?_folder (h : t.Extends t') {p : Place} (hp : t.at? p = some .folder) :
    t'.at? p = some .folder := by
  have hkept := h.kept p
  rw [hp] at hkept
  generalize t'.at? p = n at hkept
  cases hkept
  rfl

theorem at?_link (h : t.Extends t') {p : Place} {target : Bytes} (hp : t.at? p = some (.link target)) :
    t'.at? p = some (.link target) := by
  have hkept := h.kept p
  rw [hp] at hkept
  generalize t'.at? p = n at hkept
  cases hkept
  rfl

theorem at?_none (h : t.Extends t') {p : Place} (hp : t.at? p = none) :
    t'.at? p = none ∨ ∃ content, t'.at? p = some (.file content) := by
  have hkept := h.kept p
  rw [hp] at hkept
  generalize t'.at? p = n at hkept
  cases hkept with
  | same => exact .inl rfl
  | made => exact .inr ⟨_, rfl⟩

theorem at?_leaf (h : t.Extends t') {p : Place} {n : Node} (hp : t.at? p = some n)
    (hfolder : n = .folder → False) (hlink : ∀ target, n = .link target → False) :
    t'.at? p = some .sink ∨ ∃ content, t'.at? p = some (.file content) := by
  have hkept := h.kept p
  rw [hp] at hkept
  generalize t'.at? p = n' at hkept
  cases hkept with
  | same =>
    cases n with
    | file content => exact .inr ⟨content, rfl⟩
    | folder => exact (hfolder rfl).elim
    | link target => exact (hlink target rfl).elim
    | sink => exact .inl rfl
  | rewritten => exact .inr ⟨_, rfl⟩

theorem walk (h : t.Extends t') {followLast : Bool} {links : Nat} {p : Place} {names : List Bytes}
    (hwalk : t.walk followLast links p names = .ok spot) :
    t'.walk followLast links p names = .ok (spot.seenIn t') := by
  induction links, p, names using Tree.walk.induct t followLast with
  | case1 links p =>
    rw [Tree.walk] at hwalk ⊢
    cases hwalk
    rfl
  | case2 links p name rest hname ih =>
    rw [Tree.walk, if_pos hname] at hwalk ⊢
    exact ih hwalk
  | case3 links p rest hname ih =>
    rw [Tree.walk, if_neg hname, if_pos rfl] at hwalk ⊢
    exact ih hwalk
  | case4 links p name rest hname hup hlong =>
    rw [Tree.walk, if_neg hname, if_neg hup, if_pos hlong] at hwalk
    cases hwalk
  | case5 links p name rest hname hup hlong hat hlast =>
    -- nothing was there: the place is still free, or a file is new there
    rw [Tree.walk, if_neg hname, if_neg hup, if_neg hlong, hat] at hwalk
    rw [Tree.walk, if_neg hname, if_neg hup, if_neg hlong]
    simp only [hlast, if_true] at hwalk ⊢
    cases hwalk
    rw [Spot.seenIn]
    rcases h.at?_none hat with hat' | ⟨content, hat'⟩
    · rw [hat']
    · rw [hat']
  | case6 links p name rest hname hup hlong hat hlast =>
    rw [Tree.walk, if_neg hname, if_neg hup, if_neg hlong, hat] at hwalk
    simp only [hlast] at hwalk
    cases hwalk
  | case7 links p name rest hname hup hlong hat ih =>
    rw [Tree.walk, if_neg hname, if_neg hup, if_neg hlong, hat] at hwalk
    rw [Tree.walk, if_neg hname, if_neg hup, if_neg hlong, h.at?_folder hat]
    exact ih hwalk
  | case8 links p name rest hname hup hlong target hat hlast =>
    rw [Tree.walk, if_neg hname, if_neg hup, if_neg hlong, hat] at hwalk
    rw [Tree.walk, if_neg hname, if_neg hup, if_neg hlong, h.at?_link hat]
    simp only [hlast, if_true] at hwalk ⊢
    cases hwalk
    rw [Spot.seenIn, h.at?_link hat]
    rfl
  | case9 p name rest hname hup hlong target hat hlast =>
    rw [Tree.walk, if_neg hname, if_neg hup, if_neg hlong, hat] at hwalk
    simp only [hlast] at hwalk
    cases hwalk
  | case10 p name rest hname hup hlong target hat hlast links hempty =>
    rw [Tree.walk, if_neg hname, if_neg hup, if_neg hlong, hat] at hwalk
    simp only [hlast, hempty, if_true] at hwalk
    cases hwalk
  | case11 p name rest hname hup hlong target hat hlast links hempty ih =>
    rw [Tree.walk, if_neg hname, if_neg hup, if_neg hlong, hat] at hwalk
    rw [Tree.walk, if_neg hname, if_neg hup, if_neg hlong, h.at?_link hat]
    simp only [hlast, hempty] at hwalk ⊢
    exact ih hwalk
  | case12 links p name rest hname hup hlong n hfolder hlink hat hlast =>
    rw [Tree.walk, if_neg hname, if_neg hup, if_neg hlong, hat] at hwalk
    rw [Tree.walk, if_neg hname, if_neg hup, if_neg hlong]
    simp only [hlast, if_true] at hwalk ⊢
    cases hwalk
    rw [Spot.seenIn]
    rcases h.at?_leaf hat hfolder hlink with hat' | ⟨content, hat'⟩
    · rw [hat']
      rfl
    · rw [hat']
      rfl
  | case13 links p name rest hname hup hlong n hfolder hlink hat hlast =>
    rw [Tree.walk, if_neg hname, if_neg hup, if_neg hlong, hat] at hwalk
    simp only [hlast] at hwalk
    cases hwalk

theorem find (h : t.Extends t') {path : Text} (hfind : t.find path = .ok spot) :
    t'.find path = .ok (spot.seenIn t') := by
  unfold Tree.find at hfind ⊢
  cases hbytes : pathBytes path with
  | error f =>
    rw [hbytes] at hfind
    cases hfind
  | ok bytes =>
    rw [hbytes] at hfind
    simp only at hfind ⊢
    have hlocate : t.locate true bytes = .ok spot := by
      cases hlocate : t.locate true bytes with
      | error e =>
        rw [hlocate] at hfind
        cases hfind
      | ok spot' =>
        rw [hlocate] at hfind
        cases hfind
        rfl
    have hthere : t'.locate true bytes = .ok (spot.seenIn t') := by
      unfold locate at hlocate ⊢
      rw [h.here]
      split at hlocate
      · cases hlocate
      · split at hlocate
        · cases hlocate
        · next hempty hlength =>
          rw [if_neg hempty, if_neg hlength]
          exact h.walk hlocate
    rw [hthere]

end Extends

section

variable {t t' : Tree} {path : Text} {p q : Place} {n : Node} {spot : Spot}

theorem Extends.refl (t : Tree) : t.Extends t := ⟨rfl, fun _ => .same⟩

/-- What a path leads to lies in the tree. -/
theorem seenIn_of_find (h : t.find path = .ok spot) : spot.seenIn t = spot :=
  Except.ok.inj ((Extends.refl t).find h |>.symm.trans h)

theorem at?_of_find_taken (h : t.find path = .ok (.taken p n)) : (t.at? p).getD .folder = n := by
  cases seenIn_of_find h
  rfl

theorem at?_of_find_free (h : t.find path = .ok (.free p)) : t.at? p = none := by
  have hseen := seenIn_of_find h
  rw [Spot.seenIn] at hseen
  split at hseen
  · next hat => exact hat
  · cases hseen

theorem ne_nil_of_at? (h : t.at? p ≠ some .folder) : p ≠ [] := by
  rintro rfl
  exact h rfl

/-- A file is put where nothing is or where a file is. -/
theorem extends_put (h : t.at? p = none ∨ ∃ content, t.at? p = some (.file content))
    (content : Bytes) : t.Extends (t.put p (.file content)) := by
  have hp : p ≠ [] := by
    apply ne_nil_of_at? (t := t)
    rcases h with h | ⟨_, h⟩
    · rw [h]
      simp
    · rw [h]
      simp
  refine ⟨rfl, fun q => ?_⟩
  by_cases hq : q = p
  · subst hq
    rw [at?_put_self t hp]
    rcases h with h | ⟨_, h⟩
    · rw [h]
      exact .made
    · rw [h]
      exact .rewritten
  · rw [at?_put_of_ne t hq]
    exact .same

/-! ## Opening -/

/-- A path that is opened leads to the place that it was opened at. -/
theorem find_openAppend (h : t.openAppend path = .ok (t', p)) :
    ∃ n, t'.find path = .ok (.taken p n) ∧ n.TakesText := by
  unfold openAppend at h
  split at h
  · cases h
  · next hfind =>
    cases h
    have hat := at?_of_find_free hfind
    have hp : p ≠ [] := ne_nil_of_at? (t := t) (by rw [hat]; simp)
    refine ⟨.file [], ?_, .file⟩
    rw [(extends_put (.inl hat) []).find hfind, Spot.seenIn, at?_put_self t hp]
  · cases h
  · cases h
  · next n hfolder hlink hfind =>
    cases h
    refine ⟨n, hfind, ?_⟩
    cases n with
    | file content => exact .file
    | folder => exact (hfolder rfl).elim
    | link target => exact (hlink target rfl).elim
    | sink => exact .sink

/-! ## Writing -/

theorem append_of_file {content : Bytes} (h : t.at? p = some (.file content)) (bytes : Bytes) :
    t.append p bytes = t.put p (.file (content ++ bytes)) := by
  rw [append, h]

theorem append_of_ne {bytes : Bytes} (h : ∀ content, t.at? p ≠ some (.file content)) :
    t.append p bytes = t := by
  unfold append
  split
  · next hat => exact absurd hat (h _)
  · rfl

/-- Bytes that are written at a place are seen by every path that leads there, and every other path
leads to the same as before. -/
theorem find_append (h : t.find path = .ok (.taken q n)) (p : Place) (bytes : Bytes) :
    (t.append p bytes).find path = .ok (.taken q (if q = p then n.grown bytes else n)) := by
  have hn := at?_of_find_taken h
  by_cases hfile : ∃ content, t.at? p = some (.file content)
  · obtain ⟨content, hat⟩ := hfile
    have hp : p ≠ [] := ne_nil_of_at? (t := t) (by rw [hat]; simp)
    rw [append_of_file hat, (extends_put (.inr ⟨content, hat⟩) _).find h, Spot.seenIn]
    by_cases hq : q = p
    · subst hq
      rw [hat] at hn
      subst hn
      rw [at?_put_self t hp, if_pos rfl]
      rfl
    · rw [at?_put_of_ne t hq, hn, if_neg hq]
  · rw [not_exists] at hfile
    rw [append_of_ne hfile, h]
    by_cases hq : q = p
    · subst hq
      have hgrown : n.grown bytes = n := by
        cases n with
        | file content =>
          cases hat : t.at? q with
          | none =>
            rw [hat] at hn
            cases hn
          | some n =>
            rw [hat] at hn
            obtain rfl : n = .file content := hn
            exact absurd hat (hfile content)
        | _ => rfl
      rw [if_pos rfl, hgrown]
    · rw [if_neg hq]

end

end Tree

end StaticHttp
