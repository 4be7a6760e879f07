import StaticHttp.Config

/-!
# The members of an object

A text that holds a JSON object lists its members, and a name may be listed more than once.  What is
read from it is the table that the members make when they are written one after the other: each name
has its first place and its last value.

    read? t = .ok (.table entries) ↔
      ∃ ms, objectMembers? t = some ms ∧ entries = Table.putAll [] ms     (read?_eq_table_iff)
-/

namespace StaticHttp

namespace Json

/-! ## Reading members -/

/-- The members of an object whose next name is at the cursor, in the order of the text, and the
cursor behind the object. -/
def memberList : (fuel : Nat) → (depth : Nat) → Cursor →
    Except Stop (List (Text × Value) × Cursor)
  | 0, _, k => .error (.complaint .nameExpected k.position)
  | fuel + 1, depth, k =>
    if k.at '"' then
      match string k with
      | .error s => .error s
      | .ok (name, k) =>
        let k := k.skipSpace
        if k.at ':' then
          match value fuel depth (k.advance 1).skipSpace with
          | .error s => .error s
          | .ok (v, k) =>
            let k := k.skipSpace
            if k.at '\x7d' then .ok ([(name, v)], k.advance 1)
            else if k.at ',' then
              match memberList fuel depth (k.advance 1).skipSpace with
              | .error s => .error s
              | .ok (rest, k) => .ok ((name, v) :: rest, k)
            else .error (.complaint .commaExpected k.position)
        else .error (.complaint .colonExpected k.position)
    else .error (.complaint .nameExpected k.position)

/-- The members of the object that is next, if one is. -/
def object? (fuel depth : Nat) (k : Cursor) : Option (List (Text × Value) × Cursor) :=
  if k.at '\x7b' then
    let k := (k.advance 1).skipSpace
    if k.at '\x7d' then some ([], k.advance 1) else (memberList fuel depth k).toOption
  else none

/-- The members of the object that a text holds, if it holds one and nothing else. -/
def objectMembers? (t : Text) : Option (List (Text × Value)) :=
  match object? (2 * t.length + 1) (maxDepth - 1) (Cursor.mk 0 t).skipSpace with
  | none => none
  | some (ms, k) => if k.skipSpace.rest.isEmpty then some ms else none

/-! ## What is read from them -/

/-- An object that is read into a table writes its members into it. -/
theorem members_eq (fuel depth : Nat) (acc : Table) (k : Cursor) :
    members fuel depth acc k =
      (memberList fuel depth k).map fun (ms, k) => (Value.table (acc.putAll ms), k) := by
  induction fuel generalizing acc k with
  | zero => rfl
  | succ fuel ih =>
    rw [members, memberList]
    by_cases hquote : k.at '"' = true
    · rw [if_pos hquote, if_pos hquote]
      cases string k with
      | error s => rfl
      | ok named =>
        obtain ⟨name, k₁⟩ := named
        by_cases hcolon : k₁.skipSpace.at ':' = true
        · simp only [hcolon, if_true]
          cases value fuel depth (k₁.skipSpace.advance 1).skipSpace with
          | error s => rfl
          | ok valued =>
            obtain ⟨v, k₂⟩ := valued
            by_cases hlast : k₂.skipSpace.at '\x7d' = true
            · simp only [hlast, if_true]
              rfl
            · by_cases hcomma : k₂.skipSpace.at ',' = true
              · simp only [hlast, hcomma, if_true, ih]
                cases memberList fuel depth (k₂.skipSpace.advance 1).skipSpace <;> rfl
              · simp only [hlast, hcomma]
                rfl
        · simp only [hcolon]
          rfl
    · rw [if_neg hquote, if_neg hquote]
      rfl

/-! ## Values that are no tables -/

theorem items_ne_table {fuel depth : Nat} {acc : List Value} {k k' : Cursor} {entries : Table} :
    items fuel depth acc k ≠ .ok (.table entries, k') := by
  induction fuel generalizing acc k with
  | zero =>
    intro h
    rw [items] at h
    cases h
  | succ fuel ih =>
    intro h
    rw [items] at h
    cases hvalue : value fuel depth k with
    | error s =>
      rw [hvalue] at h
      cases h
    | ok valued =>
      rw [hvalue] at h
      simp only at h
      split at h
      · cases h
      · split at h
        · exact ih h
        · cases h

theorem number_ne_table {k k' : Cursor} {entries : Table} :
    number k ≠ .ok (.table entries, k') := by
  intro h
  unfold number at h
  extract_lets negative signed whole behindWhole fraction behindFraction at h
  split at h
  · cases h
  · split at h
    · cases h
    · split at h
      · split at h <;> cases h
      · cases h

theorem words_ne_table {p : Text × Value → Bool} {word : Text} {entries : Table} :
    words.find? p ≠ some (word, .table entries) := by
  intro h
  have hmem := List.mem_of_find?_eq_some h
  simp [words] at hmem

/-! ## Whole texts -/

theorem not_at_of_at {k : Cursor} {c d : CodePoint} (hcd : c ≠ d) (h : k.at c = true) :
    k.at d = false := by
  unfold Cursor.at at h ⊢
  have hhead : k.rest.head? = some c := of_decide_eq_true h
  rw [hhead]
  exact decide_eq_false fun heq => hcd (Option.some.inj heq)

/-- A value that is read is a table exactly when an object is next. -/
theorem value_eq_table_iff {fuel depth : Nat} {k k' : Cursor} {entries : Table} :
    value (fuel + 1) (depth + 1) k = .ok (.table entries, k') ↔
      ∃ ms, object? fuel depth k = some (ms, k') ∧ entries = Table.putAll [] ms := by
  rw [value]
  unfold object?
  by_cases hbrace : k.at '\x7b' = true
  · have hquote : k.at '"' = false := not_at_of_at (by decide) hbrace
    simp only [hbrace, hquote, Bool.false_eq_true, if_true, if_false]
    by_cases hempty : (k.advance 1).skipSpace.at '\x7d' = true
    · simp only [hempty, if_true]
      constructor
      · intro h
        cases h
        exact ⟨[], rfl, rfl⟩
      · rintro ⟨ms, hms, rfl⟩
        cases hms
        rfl
    · simp only [hempty, members_eq]
      cases memberList fuel depth (k.advance 1).skipSpace with
      | error s => simp [Except.map, Except.toOption]
      | ok read =>
        obtain ⟨ms, k₁⟩ := read
        constructor
        · intro h
          cases h
          exact ⟨ms, rfl, rfl⟩
        · rintro ⟨ms', hms, rfl⟩
          cases hms
          rfl
  · simp only [hbrace, Bool.false_eq_true, if_false]
    constructor
    · intro h
      exfalso
      split at h
      · split at h <;> cases h
      · split at h
        · split at h
          · cases h
          · exact items_ne_table h
        · split at h
          · next hfind =>
            cases h
            exact words_ne_table hfind
          · exact number_ne_table h
    · rintro ⟨ms, hms, _⟩
      cases hms

/-- No object is in a text that starts with a byte order mark. -/
theorem object?_of_mark {fuel depth : Nat} {t : Text} (h : t.head? = some (CodePoint.ofNat 0xFEFF)) :
    object? fuel depth (Cursor.mk 0 t).skipSpace = none := by
  cases t with
  | nil => cases h
  | cons c rest =>
    obtain rfl : c = CodePoint.ofNat 0xFEFF := Option.some.inj h
    rfl

/-- **What is read from a text is a table exactly when the text holds an object**, and it is the
table that the members of the object make. -/
theorem read?_eq_table_iff {t : Text} {entries : Table} :
    read? t = .ok (.table entries) ↔
      ∃ ms, objectMembers? t = some ms ∧ entries = Table.putAll [] ms := by
  have hwhole : read? t = .ok (.table entries) ↔ wholeValue t = .ok (.table entries) := by
    unfold read?
    cases wholeValue t with
    | error s => cases s <;> simp
    | ok v => simp
  rw [hwhole]
  unfold wholeValue objectMembers?
  by_cases hmark : t.head? = some (CodePoint.ofNat 0xFEFF)
  · rw [if_pos hmark, object?_of_mark hmark]
    simp
  · rw [if_neg hmark]
    have htable : ∀ k', value (2 * t.length + 2) maxDepth (Cursor.mk 0 t).skipSpace =
        .ok (.table entries, k') ↔
          ∃ ms, object? (2 * t.length + 1) (maxDepth - 1) (Cursor.mk 0 t).skipSpace =
            some (ms, k') ∧ entries = Table.putAll [] ms :=
      fun k' => value_eq_table_iff
    constructor
    · intro h
      cases hvalue : value (2 * t.length + 2) maxDepth (Cursor.mk 0 t).skipSpace with
      | error s =>
        rw [hvalue] at h
        cases h
      | ok valued =>
        obtain ⟨v, k⟩ := valued
        rw [hvalue] at h
        simp only at h
        split at h
        · next hend =>
          obtain rfl := Except.ok.inj h
          obtain ⟨ms, hobject, rfl⟩ := (htable k).1 hvalue
          refine ⟨ms, ?_, rfl⟩
          rw [hobject]
          exact if_pos hend
        · cases h
    · rintro ⟨ms, hms, rfl⟩
      split at hms
      · cases hms
      · next ms' k hobject =>
        split at hms
        · next hend =>
          obtain rfl := Option.some.inj hms
          rw [(htable k).2 ⟨_, hobject, rfl⟩]
          exact if_pos hend
        · cases hms

end Json

end StaticHttp
