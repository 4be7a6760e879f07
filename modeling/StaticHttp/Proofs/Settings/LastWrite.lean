import Mathlib.Data.List.Induction
import StaticHttp.Proofs.Settings.Members

/-!
# The last write wins

A configuration is known by what has been written into it, from its making on: the value of a
setting is the one that was written last, and the settings stand in the order in which they were
first written.  The standard settings are written first, so that they are always there and always in
front.  A load writes the members of the object in its file, or nothing at all.

    (c.load path found).config = c.setAll ms           for the members `ms`          (load_of_members)
    (operations.foldl apply c).Holds (firstWrites ++ operations.flatMap writes)   (holds_lastWrites)
-/

namespace StaticHttp

namespace Table

/-! ## Tables and what is written into them -/

/-- The names in a table, in its order. -/
def names (t : Table) : List Text := t.map Prod.fst

variable {name other : Text} {value w : Value} {t entries : Table}

theorem putAll_cons (t : Table) (e : Text × Value) (entries : List (Text × Value)) :
    putAll t (e :: entries) = putAll (put e.1 e.2 t) entries := rfl

theorem putAll_append (t : Table) (entries more : List (Text × Value)) :
    putAll t (entries ++ more) = putAll (putAll t entries) more :=
  List.foldl_append ..

theorem names_cons (e : Text × Value) (t : Table) : names (e :: t) = e.1 :: names t := rfl

theorem names_append (t u : Table) : names (t ++ u) = names t ++ names u := List.map_append ..

theorem names_put (name : Text) (value : Value) (t : Table) :
    names (put name value t) = if name ∈ names t then names t else names t ++ [name] := by
  induction t with
  | nil => rfl
  | cons e t ih =>
    obtain ⟨n, v⟩ := e
    by_cases hn : n = name
    · subst hn
      simp [put, names]
    · have hne : name ≠ n := Ne.symm hn
      rw [put, if_neg hn, names_cons, names_cons, ih]
      by_cases hmem : name ∈ names t
      · rw [if_pos hmem, if_pos (List.mem_cons_of_mem n hmem)]
      · rw [if_neg hmem, if_neg (List.not_mem_cons_of_ne_of_not_mem hne hmem), List.cons_append]

theorem mem_names_put : other ∈ names (put name value t) ↔ other = name ∨ other ∈ names t := by
  rw [names_put]
  split
  · next hmem =>
    constructor
    · exact .inr
    · rintro (rfl | h)
      · exact hmem
      · exact h
  · rw [List.mem_append, List.mem_singleton, or_comm]

/-! ### Writing twice -/

theorem put_put_self (name : Text) (value w : Value) (t : Table) :
    put name value (put name w t) = put name value t := by
  induction t with
  | nil => simp [put]
  | cons e t ih =>
    obtain ⟨n, v⟩ := e
    by_cases hn : n = name
    · simp [put, hn]
    · simp [put, hn, ih]

/-- A name that has its place already may be written before or after another one. -/
theorem put_comm_of_mem (hne : other ≠ name) (h : name ∈ names t) :
    put other w (put name value t) = put name value (put other w t) := by
  induction t with
  | nil => cases h
  | cons e t ih =>
    obtain ⟨n, v⟩ := e
    by_cases hn : n = name
    · subst hn
      simp [put, Ne.symm hne]
    · have hrest : name ∈ names t := (List.mem_cons.1 h).resolve_left (Ne.symm hn)
      by_cases ho : n = other
      · simp [put, ho, hne]
      · simp [put, hn, ho, ih hrest]

theorem putAll_put_of_notMem (hmem : name ∈ names t) (hentries : name ∉ names entries) :
    putAll (put name value t) entries = put name value (putAll t entries) := by
  induction entries generalizing t with
  | nil => rfl
  | cons e entries ih =>
    have hne : e.1 ≠ name := by
      rintro rfl
      exact hentries List.mem_cons_self
    have hrest : name ∉ names entries := fun h => hentries (List.mem_cons_of_mem _ h)
    rw [putAll_cons, putAll_cons, put_comm_of_mem hne hmem]
    exact ih (mem_names_put.2 (.inr hmem)) hrest

theorem putAll_put (hentries : (names entries).Nodup) :
    putAll t (put name value entries) = put name value (putAll t entries) := by
  induction entries generalizing t with
  | nil => rfl
  | cons e entries ih =>
    obtain ⟨n, v⟩ := e
    obtain ⟨hfirst, hrest⟩ := List.nodup_cons.1 hentries
    by_cases hn : n = name
    · subst hn
      have hcommute : putAll (put n value (put n v t)) entries =
          put n value (putAll (put n v t) entries) :=
        putAll_put_of_notMem (mem_names_put.2 (.inl rfl)) hfirst
      rw [put, if_pos rfl, putAll_cons, putAll_cons, ← hcommute, put_put_self]
    · rw [put, if_neg hn, putAll_cons, putAll_cons]
      exact ih hrest

/-! ### What a table that was written holds -/

theorem nodup_putAll (ms : List (Text × Value)) : (names (putAll [] ms)).Nodup := by
  induction ms using List.reverseRecOn with
  | nil => exact List.nodup_nil
  | append_singleton ms e ih =>
    rw [putAll_append]
    show (names (put e.1 e.2 (putAll [] ms))).Nodup
    rw [names_put]
    split
    · exact ih
    · next hmem =>
      refine List.nodup_append.2 ⟨ih, List.pairwise_singleton _ _, ?_⟩
      rintro a ha b hb rfl
      rw [List.mem_singleton.1 hb] at ha
      exact hmem ha

/-- A table that was written does what its writes do. -/
theorem putAll_putAll (t : Table) (ms : List (Text × Value)) :
    putAll t (putAll [] ms) = putAll t ms := by
  induction ms using List.reverseRecOn with
  | nil => rfl
  | append_singleton ms e ih =>
    rw [putAll_append, putAll_append, ← ih]
    exact putAll_put (nodup_putAll ms)

/-- The names stand in the order in which they were first written. -/
theorem names_putAll (ms : List (Text × Value)) :
    names (putAll [] ms) = (names ms).eraseDups := by
  induction ms using List.reverseRecOn with
  | nil => rfl
  | append_singleton ms e ih =>
    rw [putAll_append]
    show names (put e.1 e.2 (putAll [] ms)) = _
    have hnames : names (ms ++ [e]) = names ms ++ [e.1] := names_append ms [e]
    rw [names_put, ih, hnames, List.eraseDups_append]
    by_cases hmem : e.1 ∈ names ms
    · rw [if_pos (List.mem_eraseDups.2 hmem)]
      simp [List.removeAll, hmem]
    · rw [if_neg (mt List.mem_eraseDups.1 hmem)]
      simp [List.removeAll, hmem, List.eraseDups_cons]

/-- The value under a name is the one that was written last. -/
theorem get?_putAll (ms : List (Text × Value)) (name : Text) :
    get? (putAll [] ms) name = ms.reverse.lookup name := by
  induction ms using List.reverseRecOn with
  | nil => rfl
  | append_singleton ms e ih =>
    obtain ⟨n, v⟩ := e
    rw [putAll_append, List.reverse_append]
    show get? (put n v (putAll [] ms)) name = List.lookup name ((n, v) :: ms.reverse)
    by_cases hn : name = n
    · subst hn
      rw [get?_put_self, List.lookup_cons_self]
    · rw [get?_put_of_ne hn, ih, List.lookup_cons, beq_eq_false_iff_ne.2 hn]

end Table

/-! ## Files -/

/-- The members of the object in a file, in the order of the file, if there is a file and it holds
an object. -/
def Source.members? : Source → Option (List (Text × Value))
  | .content bytes =>
    match Utf8.decode bytes with
    | .error _ => none
    | .ok text => Json.objectMembers? (Config.plainLines text)
  | _ => none

namespace Config

variable {c : Config} {path : Text} {found : Source} {ms : List (Text × Value)}

theorem parse_eq_table_iff {bytes : Bytes} {entries : Table} :
    parse bytes = .ok (.table entries) ↔
      ∃ ms, (Source.content bytes).members? = some ms ∧ entries = Table.putAll [] ms := by
  unfold parse Source.members?
  cases hdecode : Utf8.decode bytes with
  | error fault => simp [hdecode]
  | ok text =>
    simp only [hdecode]
    rw [← Json.read?_eq_table_iff]
    cases Json.read? (plainLines text) with
    | error r => simp
    | ok v => simp

/-- A load writes the members of the object in its file. -/
theorem load_of_members (c : Config) (path : Text) (h : found.members? = some ms) :
    (c.load path found).outcome = .ok true ∧ (c.load path found).config = c.setAll ms := by
  cases found with
  | absent => cases h
  | refused f => cases h
  | content bytes =>
    have hparse := parse_eq_table_iff.2 ⟨ms, h, rfl⟩
    unfold load
    simp only [hparse, true_and]
    rw [setAll, setAll, Table.putAll_putAll]

/-- Where a file holds no object, a load does not come off and writes nothing. -/
theorem load_of_not_members (c : Config) (path : Text) (h : found.members? = none) :
    (c.load path found).outcome ≠ .ok true ∧ (c.load path found).config = c := by
  cases found with
  | absent => exact ⟨by simp [load], rfl⟩
  | refused f =>
    unfold load
    simp only
    split <;> simp
  | content bytes =>
    unfold load
    simp only
    cases hparse : parse bytes with
    | error f =>
      simp only
      split <;> simp
    | ok v =>
      cases v with
      | table entries =>
        obtain ⟨ms, hms, _⟩ := parse_eq_table_iff.1 hparse
        rw [h] at hms
        cases hms
      | _ => simp

/-! ## What is done with a configuration -/

/-- What can be done with a configuration: a file is loaded, a setting is written or read. -/
inductive Operation
  | load (path : Text) (found : Source)
  | set (name : Text) (value : Value)
  | get (name : Text)

/-- The configuration after an operation. -/
def apply (c : Config) : Operation → Config
  | .load path found => (c.load path found).config
  | .set name value => c.set name value
  | .get _ => c

/-- What an operation writes. -/
def Operation.writes : Operation → List (Text × Value)
  | load _ found => found.members?.getD []
  | set name value => [(name, value)]
  | get _ => []

/-- The members of the object in the file at a path, if there is a path and it is not empty. -/
def fileMembers (find : Text → Source) : Option Text → List (Text × Value)
  | some (c :: p) => (find (c :: p)).members?.getD []
  | _ => []

/-- What is written when a configuration is made: the standard settings, the members of its file if
it has one, and the values that are given directly. -/
def firstWrites (find : Text → Source) (path : Option Text) (overrides : List (Text × Value)) :
    List (Text × Value) :=
  standard.settings ++ (fileMembers find path ++ overrides)

/-- A configuration holds what has been written into it. -/
structure Holds (c : Config) (writes : List (Text × Value)) : Prop where
  /-- The value of a setting is the one that was written last. -/
  value : ∀ name, c.get? name = writes.reverse.lookup name
  /-- The settings stand in the order in which they were first written. -/
  names : c.settings.names = (Table.names writes).eraseDups
  nodup : c.settings.names.Nodup
  /-- The standard settings are in front. -/
  front : standard.settings.names <+: c.settings.names

variable {writes rest : List (Text × Value)}

/-- What a configuration holds that was written into an empty one, the standard settings first. -/
theorem Holds.of_settings (h : c.settings = Table.putAll [] (standard.settings ++ rest)) :
    c.Holds (standard.settings ++ rest) := by
  have hnames := Table.names_putAll (standard.settings ++ rest)
  refine ⟨?_, ?_, ?_, ?_⟩
  · intro name
    rw [get?, h, Table.get?_putAll]
  · rw [h, hnames]
  · rw [h]
    exact Table.nodup_putAll _
  · have hstandard : (Table.names standard.settings).eraseDups = Table.names standard.settings := rfl
    rw [h, hnames, Table.names_append, List.eraseDups_append, hstandard]
    exact List.prefix_append _ _

theorem settings_apply (c : Config) (o : Operation) :
    (c.apply o).settings = Table.putAll c.settings o.writes := by
  cases o with
  | load path found =>
    show (c.load path found).config.settings = Table.putAll c.settings (found.members?.getD [])
    cases hfound : found.members? with
    | none => rw [(load_of_not_members c path hfound).2, Option.getD_none]; rfl
    | some ms => rw [(load_of_members c path hfound).2, Option.getD_some]; rfl
  | set name value => rfl
  | get name => rfl

/-- A sequence of operations writes what its operations write. -/
theorem settings_foldl_apply (c : Config) (operations : List Operation) :
    (operations.foldl apply c).settings =
      Table.putAll c.settings (operations.flatMap Operation.writes) := by
  induction operations generalizing c with
  | nil => rfl
  | cons o operations ih =>
    rw [List.foldl_cons, ih, settings_apply, List.flatMap_cons, Table.putAll_append]

variable {maker : Text} {find : Text → Source} {source : Option Text}
  {overrides : List (Text × Value)} {b : Bool}

theorem settings_build (find : Text → Source) (source : Option Text)
    (overrides : List (Text × Value)) :
    (build find source overrides).config.settings =
      Table.putAll [] (firstWrites find source overrides) := by
  have hstandard : Table.putAll [] standard.settings = standard.settings := rfl
  unfold firstWrites
  rw [Table.putAll_append, Table.putAll_append, hstandard]
  rcases source with _ | _ | ⟨first, p⟩
  · rfl
  · rfl
  · show Table.putAll (standard.apply (.load (first :: p) (find (first :: p)))).settings overrides = _
    rw [settings_apply]
    rfl

/-- **The last write wins**: what a configuration holds is what has been written into it, however it
was made and whatever was done with it.  A load writes the members of the object in its file, and
nothing if it does not come off. -/
theorem holds_lastWrites (hmade : (make maker find source overrides).outcome = .ok b)
    (operations : List Operation) :
    (operations.foldl apply (make maker find source overrides).config).Holds
        (firstWrites find source overrides ++ operations.flatMap Operation.writes) ∧
      ∀ (c : Config) (path : Text) (found : Source),
        ((c.load path found).outcome = .ok true ↔ ∃ ms, found.members? = some ms) ∧
          ((c.load path found).outcome ≠ .ok true → (c.load path found).config = c) := by
  constructor
  · have hbuild : make maker find source overrides = build find source overrides := by
      unfold make at hmade ⊢
      cases hfind : overrides.find? fun e => reserved.contains e.1 with
      | none => rfl
      | some e =>
        rw [hfind] at hmade
        cases hmade
    have hsettings := settings_foldl_apply (build find source overrides).config operations
    rw [settings_build, ← Table.putAll_append] at hsettings
    rw [hbuild]
    unfold firstWrites at hsettings ⊢
    rw [List.append_assoc] at hsettings ⊢
    exact .of_settings hsettings
  · intro c path found
    cases hfound : found.members? with
    | none =>
      obtain ⟨houtcome, hconfig⟩ := load_of_not_members c path hfound
      exact ⟨by simp [houtcome], fun _ => hconfig⟩
    | some ms =>
      obtain ⟨houtcome, _⟩ := load_of_members c path hfound
      exact ⟨by simp [houtcome], fun h => absurd houtcome h⟩

/-- A file that names the port twice. -/
def twice : Source := .content (Bytes.ofAscii "\x7b\"port\": 1, \"x\": true, \"port\": 2\x7d")

/-- A configuration made from that file and a host. -/
def overridden : Loading :=
  make "ServerConfig" (fun _ => twice) (some "a.json") [("host", .text "::1")]

/-- A load of the file, a write, a load of a file that holds a list, a load of no file, and a
read. -/
def rewriting : List Operation :=
  [.load "a.json" twice, .set "x" .null, .load "b.json" (.content (Bytes.ofAscii "[1]")),
    .load "c.json" .absent, .get "x"]

theorem holds_lastWrites_twice :
    overridden.outcome = .ok true ∧
      (rewriting.foldl apply overridden.config).Holds
        (firstWrites (fun _ => twice) (some "a.json") [("host", .text "::1")] ++
          rewriting.flatMap Operation.writes) ∧
      ∀ (c : Config) (path : Text) (found : Source),
        ((c.load path found).outcome = .ok true ↔ ∃ ms, found.members? = some ms) ∧
          ((c.load path found).outcome ≠ .ok true → (c.load path found).config = c) := by
  have hloaded : overridden.outcome.toOption = some true := by decide +kernel
  have hmade : overridden.outcome = .ok true := by
    cases houtcome : overridden.outcome with
    | error f =>
      rw [houtcome] at hloaded
      cases hloaded
    | ok loaded =>
      rw [houtcome] at hloaded
      exact congrArg Except.ok (Option.some.inj hloaded)
  exact ⟨hmade, holds_lastWrites hmade rewriting⟩

end Config

end StaticHttp
