import StaticHttp.Options.Reading

/-!
# Options that are spelled out

A command line spells its options out when each of them stands there in full, a switch alone and any
other option with the text of its value behind it.  Such a command line is read as it stands: every
option gives its value, in the order of the arguments, and nothing is left over.

    Spelled arguments given → request arguments = .ok (.start ⟨given, []⟩)      (request_spelled)
    Spelled arguments given → the value chosen for a setting is the last one given
                                                                          (lookup_overrides)
-/

namespace StaticHttp.Options

/-- A command line that spells options out, and what it gives: values under the names of options, in
order.  A value is spelled by an argument that does not begin with a dash. -/
inductive Spelled : List Text → List (Text × Value) → Prop
  | nil : Spelled [] []
  | switch {d : Declaration} {spelling : Text} {arguments : List Text} {given : List (Text × Value)}
      (hd : d ∈ all) (hspelling : spelling ∈ d.spellings) (hkind : d.kind = .switch)
      (hrest : Spelled arguments given) :
      Spelled (spelling :: arguments) ((d.name, .bool true) :: given)
  | valued {d : Declaration} {spelling text : Text} {value : Value} {arguments : List Text}
      {given : List (Text × Value)}
      (hd : d ∈ all) (hspelling : spelling ∈ d.spellings) (htakes : d.takesValue = true)
      (hdash : text.head? ≠ some ('-' : CodePoint)) (hvalue : convert d text = .ok value)
      (hrest : Spelled arguments given) :
      Spelled (spelling :: text :: arguments) ((d.name, value) :: given)

/-! ## Telling arguments apart -/

/-- A spelling begins with a dash, is not the separator, and belongs to one option only. -/
theorem spelling_spec {d : Declaration} {spelling : Text} (hd : d ∈ all)
    (hspelling : spelling ∈ d.spellings) :
    spelling.head? = some ('-' : CodePoint) ∧ spelling ≠ ("--" : Text) ∧ find? spelling = some d := by
  have hall : (all.all fun d => d.spellings.all fun s =>
      s.head? = some ('-' : CodePoint) && s ≠ ("--" : Text) && find? s = some d) = true := by
    decide +kernel
  have h := List.all_eq_true.1 (List.all_eq_true.1 hall d hd) spelling hspelling
  simp only [Bool.and_eq_true, decide_eq_true_eq] at h
  exact ⟨h.1.1, h.1.2, h.2⟩

example : (all.filter fun d => d.takesValue).map (fun d => (d.long, d.name)) =
    ([("--host", "host"), ("--port", "port"), ("--document-root", "document_root"),
      ("--config", "config"), ("--log-level", "log_level"), ("--log-file", "log_file"),
      ("--request-timeout", "request_timeout"), ("--connection-queue", "connection_queue")] :
        List (Text × Text)) := by decide +kernel

theorem token_spelling {d : Declaration} {spelling : Text} (hd : d ∈ all)
    (hspelling : spelling ∈ d.spellings) : token spelling = .ok (.option d spelling none) := by
  obtain ⟨hhead, _, hfind⟩ := spelling_spec hd hspelling
  rw [token, if_neg (fun h => h hhead), hfind]

theorem token_text {t : Text} (h : t.head? ≠ some ('-' : CodePoint)) : token t = .ok (.plain t) := by
  rw [token, if_pos h]

theorem tokens_cons {t : Text} {rest : List Text} {a : Token} {ts : List Token}
    (hne : t ≠ ("--" : Text)) (ht : token t = .ok a) (hrest : tokens rest = .ok ts) :
    tokens (t :: rest) = .ok (a :: ts) := by
  rw [tokens, if_neg hne, ht, hrest]

/-! ## Taking options -/

variable {d : Declaration} {spelling : Text} {taken : Taken} {ts : List Token}

theorem take_switch (hkind : d.kind = .switch) :
    take taken (.option d spelling none :: ts) =
      take { taken with given := taken.given ++ [(d.name, .bool true)] } ts := by
  have htakes : d.takesValue = false := by rw [Declaration.takesValue, hkind]
  have hunfold : unfold d spelling none 0 = .ok [.bare d] := by rw [unfold, htakes]; rfl
  have hcarry : carryOut [.bare d] none = .ok (some [(d.name, .bool true)]) := by
    rw [carryOut, hkind, if_neg (by decide), carryOut]
  rw [take]
  simp only [Option.elim_none, hunfold, lacks?, hcarry]

theorem take_valued {t : Text} {value : Value} (htakes : d.takesValue = true)
    (hvalue : convert d t = .ok value) :
    take taken (.option d spelling none :: .plain t :: ts) =
      take { taken with given := taken.given ++ [(d.name, value)] } ts := by
  have hunfold : unfold d spelling none 0 = .ok [.open d] := by rw [unfold, htakes]; rfl
  have hcarry : carryOut [.open d] (some t) = .ok (some [(d.name, value)]) := by
    rw [carryOut, hvalue, carryOut]
  rw [take]
  simp only [Option.elim_none, hunfold, lacks?, hcarry]

/-! ## Reading -/

variable {arguments : List Text} {given : List (Text × Value)}

theorem exists_tokens (h : Spelled arguments given) :
    ∃ ts, tokens arguments = .ok ts ∧
      ∀ taken, take taken ts = .ok (.start { taken with given := taken.given ++ given }) := by
  induction h with
  | nil => exact ⟨[], rfl, fun taken => by rw [take, List.append_nil]⟩
  | switch hd hspelling hkind hrest ih =>
    obtain ⟨ts, htokens, htake⟩ := ih
    have hne := (spelling_spec hd hspelling).2.1
    refine ⟨_, tokens_cons hne (token_spelling hd hspelling) htokens, ?_⟩
    intro taken
    rw [take_switch hkind, htake, List.append_assoc]
    rfl
  | @valued d spelling text value arguments given hd hspelling htakes hdash hvalue hrest ih =>
    obtain ⟨ts, htokens, htake⟩ := ih
    have hne := (spelling_spec hd hspelling).2.1
    have htext : text ≠ ("--" : Text) := by
      rintro rfl
      exact hdash rfl
    have hmore := tokens_cons htext (token_text hdash) htokens
    refine ⟨_, tokens_cons hne (token_spelling hd hspelling) hmore, ?_⟩
    intro taken
    rw [take_valued htakes hvalue, htake, List.append_assoc]
    rfl

/-- A command line that spells options out is read as it stands. -/
theorem request_spelled (h : Spelled arguments given) :
    request arguments = .ok (.start ⟨given, []⟩) := by
  obtain ⟨ts, htokens, htake⟩ := exists_tokens h
  rw [request, htokens]
  simp only [htake ⟨[], []⟩, List.nil_append, List.isEmpty_nil, if_true]

theorem read_spelled (program : Text) (h : Spelled arguments given) :
    read program arguments = .chosen (Taken.choices ⟨given, []⟩) := by
  rw [read, request_spelled h]

/-! ## What is chosen -/

/-- The value that is chosen for a setting: the last one given under its name.  Colours are turned
off under a name of their own, and the configuration file is not a setting. -/
def chosen? (given : List (Text × Value)) (name : Text) : Option Value :=
  if name = ("colored_logging" : Text) then
    (given.reverse.lookup ("no_color" : Text)).map fun _ => .bool false
  else if name = ("config" : Text) ∨ name = ("no_color" : Text) then none
  else given.reverse.lookup name

/-- What is given is given under the name of an option. -/
theorem exists_declaration (h : Spelled arguments given) {e : Text × Value} (he : e ∈ given) :
    ∃ d ∈ all, d.name = e.1 ∧ (d.takesValue = true ∨ d.name = ("no_color" : Text)) := by
  have hswitch : (all.all fun d => d.kind ≠ .switch || d.name = ("no_color" : Text)) = true := by
    decide +kernel
  induction h with
  | nil => cases he
  | @switch d spelling arguments given hd hspelling hkind hrest ih =>
    rcases List.mem_cons.1 he with rfl | he
    · have := List.all_eq_true.1 hswitch d hd
      simp only [hkind, ne_eq, not_true_eq_false, decide_false, Bool.false_or,
        decide_eq_true_eq] at this
      exact ⟨d, hd, rfl, .inr this⟩
    · exact ih he
  | @valued d spelling text value arguments given hd hspelling htakes hdash hvalue hrest ih =>
    rcases List.mem_cons.1 he with rfl | he
    · exact ⟨d, hd, rfl, .inl htakes⟩
    · exact ih he

/-- Where values are kept under the names of some declarations, the value of a name is found if one
of these has the name. -/
theorem lookup_filterMap_declarations (P : Declaration → Prop) [DecidablePred P]
    (value? : Text → Option Value) (ds : List Declaration) (name : Text) :
    (ds.filterMap fun d => if P d then (value? d.name).map fun v => (d.name, v) else none).lookup
        name =
      if ∃ d ∈ ds, P d ∧ d.name = name then value? name else none := by
  induction ds with
  | nil => simp
  | cons d ds ih =>
    rw [List.filterMap_cons]
    simp only [List.mem_cons, exists_eq_or_imp]
    by_cases hd : P d ∧ d.name = name
    · obtain ⟨hkept, rfl⟩ := hd
      -- a further declaration of the same name would have the same value
      cases hvalue : value? d.name with
      | none => simp [hkept, ih, hvalue]
      | some v => simp [hkept]
    · have hrest : (P d ∧ d.name = name ∨ ∃ d ∈ ds, P d ∧ d.name = name) ↔
          ∃ d ∈ ds, P d ∧ d.name = name := or_iff_right hd
      simp only [hrest]
      by_cases hkept : P d
      · have hne : name ≠ d.name := fun heq => hd ⟨hkept, heq.symm⟩
        cases value? d.name with
        | none => simp [hkept, ih]
        | some v => simp [hkept, List.lookup_cons, beq_eq_false_iff_ne.2 hne, ih]
      · simp [hkept, ih]

/-- Where colours are turned off, that is the value of their setting. -/
theorem lookup_colours (off : Option Value) (name : Text) :
    (if off.isSome then [(("colored_logging" : Text), Value.bool false)] else []).reverse.lookup name =
      if name = ("colored_logging" : Text) then off.map fun _ => .bool false else none := by
  cases off with
  | none => simp
  | some v =>
    by_cases hname : name = ("colored_logging" : Text)
    · simp [hname]
    · simp [hname, List.lookup_cons, beq_eq_false_iff_ne.2 hname]

/-- The names of the options that are no settings, and the setting that is no option. -/
theorem names_spec {d : Declaration} (hd : d ∈ all) :
    d.name ≠ ("colored_logging" : Text) ∧ (d.takesValue = true → d.name ≠ ("no_color" : Text)) := by
  have hnames : (all.all fun d => d.name ≠ ("colored_logging" : Text) &&
      (!d.takesValue || d.name ≠ ("no_color" : Text))) = true := by decide +kernel
  have := List.all_eq_true.1 hnames d hd
  simp only [Bool.and_eq_true, Bool.or_eq_true, decide_eq_true_eq, Bool.not_eq_true'] at this
  refine ⟨this.1, fun htakes => this.2.resolve_left ?_⟩
  rw [htakes]
  decide

/-- The overrides hold for every setting the value that is chosen for it. -/
theorem lookup_overrides (h : Spelled arguments given) (name : Text) :
    (Taken.choices ⟨given, []⟩).overrides.reverse.lookup name = chosen? given name := by
  have hlookup := lookup_filterMap_declarations
    (fun d => d.takesValue = true ∧ d.name ≠ ("config" : Text)) (Taken.last? ⟨given, []⟩) all.reverse
    name
  have hlast : ∀ name, Taken.last? ⟨given, []⟩ name = given.reverse.lookup name := fun _ => rfl
  rw [List.filterMap_reverse] at hlookup
  simp only [Taken.choices, List.reverse_append, List.lookup_append]
  rw [hlookup, lookup_colours, hlast, hlast, chosen?]
  by_cases hcolours : name = ("colored_logging" : Text)
  · have hnone : ¬ ∃ d ∈ all.reverse,
        (d.takesValue = true ∧ d.name ≠ ("config" : Text)) ∧ d.name = name := by
      rintro ⟨d, hd, _, rfl⟩
      exact (names_spec (List.mem_reverse.1 hd)).1 hcolours
    rw [if_pos hcolours, if_pos hcolours, if_neg hnone, Option.or_none]
  · rw [if_neg hcolours, if_neg hcolours, Option.none_or]
    by_cases hother : name = ("config" : Text) ∨ name = ("no_color" : Text)
    · have hnone : ¬ ∃ d ∈ all.reverse,
          (d.takesValue = true ∧ d.name ≠ ("config" : Text)) ∧ d.name = name := by
        rintro ⟨d, hd, ⟨htakes, hconfig⟩, rfl⟩
        exact hother.elim hconfig ((names_spec (List.mem_reverse.1 hd)).2 htakes)
      rw [if_pos hother, if_neg hnone]
    · rw [if_neg hother, ite_eq_left_iff]
      intro hnone
      -- what is given has the name of an option, and all other options are settings
      refine (List.lookup_eq_none_iff.2 ?_).symm
      intro e he
      obtain ⟨d, hd, hname, hsort⟩ := exists_declaration h (List.mem_reverse.1 he)
      rw [bne_iff_ne]
      rintro rfl
      rw [not_or] at hother
      refine hnone ⟨d, List.mem_reverse.2 hd, ⟨hsort.resolve_right ?_, ?_⟩, hname⟩
      · exact fun hcolor => hother.2 (hname ▸ hcolor)
      · exact fun hconfig => hother.1 (hname ▸ hconfig)

end StaticHttp.Options
