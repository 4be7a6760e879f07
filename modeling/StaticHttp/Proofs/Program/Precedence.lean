import StaticHttp.Program
import StaticHttp.Proofs.Options.Spelled
import StaticHttp.Proofs.Settings.LastWrite

/-!
# What takes precedence

A setting that the command line chooses has the value that was given last, whatever that value is.
A setting that it does not choose has the value in the configuration file that was named last, if
that file loads and has it, and the standard value otherwise.

    Spelled p.arguments given → Precedence p.files given (the configuration of the server)
                                                                      (configure_precedence)
-/

namespace StaticHttp

/-! ## Three sources -/

namespace Config

variable {find : Text → Source} {path : Option Text} {overrides : List (Text × Value)}

/-- A value given directly comes before one in the file, and that before the standard one. -/
theorem get?_build (find : Text → Source) (path : Option Text) (overrides : List (Text × Value))
    (name : Text) :
    (build find path overrides).config.get? name =
      ((overrides.reverse.lookup name).or ((fileMembers find path).reverse.lookup name)).or
        (standard.get? name) := by
  have hstandard : standard.settings.reverse.lookup name = standard.get? name :=
    (Table.get?_putAll standard.settings name).symm
  rw [get?, settings_build, Table.get?_putAll, firstWrites, List.reverse_append,
    List.reverse_append, List.lookup_append, List.lookup_append, hstandard]

/-- A value is that of a setting in the file at a path: the path is not empty, the file there loads,
and the setting is a member of its object.  Of members that share a name the last one counts. -/
def InFile (find : Text → Source) (path : Option Text) (name : Text) (value : Value) : Prop :=
  ∃ p ms, path = some p ∧ p ≠ [] ∧ (standard.load p (find p)).outcome = .ok true ∧
    (find p).members? = some ms ∧ ms.reverse.lookup name = some value

theorem inFile_iff {name : Text} {value : Value} :
    InFile find path name value ↔
      (fileMembers find path).reverse.lookup name = some value := by
  constructor
  · rintro ⟨p, ms, rfl, hne, _, hms, hvalue⟩
    cases p with
    | nil => exact absurd rfl hne
    | cons c p =>
      rw [fileMembers, hms]
      exact hvalue
  · intro h
    rcases path with _ | _ | ⟨c, p⟩
    · cases h
    · cases h
    · rw [fileMembers] at h
      cases hms : (find (c :: p)).members? with
      | none =>
        rw [hms] at h
        cases h
      | some ms =>
        rw [hms] at h
        exact ⟨c :: p, ms, rfl, List.cons_ne_nil _ _, (load_of_members standard _ hms).1, hms, h⟩

end Config

/-! ## Names that are given directly -/

namespace Options

/-- No value is given directly under the name of the configuration file or of the switch that turns
colours off, nor under a reserved one. -/
theorem names_overrides (taken : Taken) {e : Text × Value} (he : e ∈ taken.choices.overrides) :
    e.1 ≠ ("config" : Text) ∧ e.1 ≠ ("no_color" : Text) ∧ Config.reserved.contains e.1 = false := by
  have hdeclared : (all.all fun d => !(d.takesValue && d.name ≠ ("config" : Text)) ||
      (d.name ≠ ("no_color" : Text) && !Config.reserved.contains d.name)) = true := by decide +kernel
  rcases List.mem_append.1 he with hsetting | hcolours
  · obtain ⟨d, hd, hentry⟩ := List.mem_filterMap.1 hsetting
    split at hentry
    · next hkept =>
      obtain ⟨v, _, rfl⟩ := Option.map_eq_some_iff.1 hentry
      have := List.all_eq_true.1 hdeclared d hd
      simp only [hkept.1, hkept.2, ne_eq, not_false_eq_true, decide_true, Bool.and_self,
        Bool.not_true, Bool.false_or, Bool.and_eq_true, decide_eq_true_eq, Bool.not_eq_true'] at this
      exact ⟨hkept.2, this.1, this.2⟩
    · cases hentry
  · split at hcolours
    · rw [List.mem_singleton.1 hcolours]
      exact ⟨by decide, by decide, by decide⟩
    · cases hcolours

/-- The configuration file that is named last. -/
def chosenFile? (given : List (Text × Value)) : Option Text :=
  match given.reverse.lookup ("config" : Text) with
  | some (.text path) => some path
  | _ => none

end Options

namespace Program

/-! ## Precedence -/

/-- What a configuration takes from options that are given, from files, and from the standard
settings. -/
structure Precedence (files : Tree) (given : List (Text × Value)) (c : Config) : Prop where
  /-- A setting that is chosen has its chosen value. -/
  chosen : ∀ name v, Options.chosen? given name = some v → c.get? name = some v
  /-- A setting that is not chosen has its value in the file that is named last. -/
  filed : ∀ name v, Options.chosen? given name = none →
    Config.InFile (Config.look files) (Options.chosenFile? given) name v → c.get? name = some v
  /-- A setting that is neither chosen nor in the file has its standard value, if it has one. -/
  standard : ∀ name, Options.chosen? given name = none →
    (∀ v, ¬ Config.InFile (Config.look files) (Options.chosenFile? given) name v) →
    c.get? name = Config.standard.get? name
  /-- The names that only the command line knows are set by nothing but the file. -/
  foreign : ∀ name v, name = ("config" : Text) ∨ name = ("no_color" : Text) → c.get? name = some v →
    Config.InFile (Config.look files) (Options.chosenFile? given) name v

variable {p : Program} {given : List (Text × Value)}

theorem configPath?_choices (given : List (Text × Value)) :
    configPath? (Options.Taken.choices ⟨given, []⟩) = Options.chosenFile? given := by
  show configPath? ⟨(given.reverse.lookup ("config" : Text)).getD .null, _⟩ = _
  unfold configPath? Options.chosenFile?
  cases given.reverse.lookup ("config" : Text) with
  | none => rfl
  | some v => cases v <;> rfl

theorem get?_configure (h : Options.Spelled p.arguments given) (name : Text) :
    (p.configure (Options.Taken.choices ⟨given, []⟩)).config.get? name =
      ((Options.chosen? given name).or
        ((Config.fileMembers (Config.look p.files) (Options.chosenFile? given)).reverse.lookup
          name)).or (Config.standard.get? name) := by
  rw [configure, Config.get?_build, configPath?_choices, Options.lookup_overrides h]

/-- **The command line before the file, and the file before the standard settings**: options that
are spelled out are read, a server takes what they choose, and its settings have the values that
were given last, also where these are zero or empty. -/
theorem configure_precedence (h : Options.Spelled p.arguments given) :
    ∃ c, Options.read p.name p.arguments = .chosen c ∧
      (∀ maker, Config.make maker (Config.look p.files) (configPath? c) c.overrides =
        p.configure c) ∧
      (∀ e ∈ c.overrides, e.1 ≠ ("config" : Text) ∧ e.1 ≠ ("no_color" : Text)) ∧
      Precedence p.files given (Server.ofConfig (p.configure c).config p.load).config := by
  refine ⟨_, Options.read_spelled p.name h, ?_, ?_, ?_⟩
  · intro maker
    have hnone : (Options.Taken.choices ⟨given, []⟩).overrides.find?
        (fun e => Config.reserved.contains e.1) = none := by
      rw [List.find?_eq_none]
      intro e he
      rw [(Options.names_overrides _ he).2.2]
      decide
    rw [Config.make, hnone]
    rfl
  · intro e he
    have hnames := Options.names_overrides _ he
    exact ⟨hnames.1, hnames.2.1⟩
  · have hget := get?_configure h
    constructor
    · intro name v hchosen
      exact (hget name).trans (by rw [hchosen]; rfl)
    · intro name v hnone hfile
      exact (hget name).trans (by rw [hnone, Config.inFile_iff.1 hfile]; rfl)
    · intro name hnone hfile
      have hfiled : (Config.fileMembers (Config.look p.files)
          (Options.chosenFile? given)).reverse.lookup name = none :=
        Option.eq_none_iff_forall_ne_some.2 fun v hv => hfile v (Config.inFile_iff.2 hv)
      exact (hget name).trans (by rw [hnone, hfiled]; rfl)
    · intro name v hname hv
      have hother : Options.chosen? given name = none := by
        rcases hname with rfl | rfl <;> rfl
      have hstandard : Config.standard.get? name = none := by
        rcases hname with rfl | rfl <;> rfl
      rw [Config.inFile_iff, ← hv]
      refine Eq.trans ?_ (hget name).symm
      rw [hother, hstandard, Option.none_or, Option.or_none]

/-- A program with a port that is given twice, at last as zero, an empty host, no colours, and a
file that names a port, a host and a level. -/
def insistent : Program where
  name := Server.source
  arguments := ["--port", "9000", "--config", "a.json", "--no-color", "--host", "", "--port", "0"]
  files := (Tree.fresh "").install "a.json" (.file (Bytes.ofAscii
    "\x7b\"port\": 1, \"host\": \"::1\", \"log_level\": \"DEBUG\"\x7d"))
  journal := ⟨.initial false (Tree.fresh ""), fun _ => 0⟩
  outside := Outside.quiet

/-- What it is given. -/
def insisted : List (Text × Value) :=
  [("port", .int 9000), ("config", .text "a.json"), ("no_color", .bool true), ("host", .text ""),
    ("port", .int 0)]

theorem spelled_insistent : Options.Spelled insistent.arguments insisted := by
  refine .valued (d := Options.all[2]) (by decide) (by decide) rfl (by decide) rfl ?_
  refine .valued (d := Options.all[4]) (by decide) (by decide) rfl (by decide) rfl ?_
  refine .switch (d := Options.all[7]) (by decide) (by decide) rfl ?_
  refine .valued (d := Options.all[1]) (by decide) (by decide) rfl (by decide) rfl ?_
  refine .valued (d := Options.all[2]) (by decide) (by decide) rfl (by decide) rfl ?_
  exact .nil

theorem configure_precedence_falsy :
    Options.Spelled insistent.arguments insisted ∧
      ∃ c, Options.read insistent.name insistent.arguments = .chosen c ∧
        (Server.ofConfig (insistent.configure c).config insistent.load).config.get? "port" =
          some (.int 0) ∧
        (Server.ofConfig (insistent.configure c).config insistent.load).config.get? "host" =
          some (.text "") ∧
        (Server.ofConfig (insistent.configure c).config insistent.load).config.get?
          "colored_logging" = some (.bool false) := by
  obtain ⟨c, hread, _, _, hprecedence⟩ := configure_precedence spelled_insistent
  exact ⟨spelled_insistent, c, hread, hprecedence.chosen _ _ rfl, hprecedence.chosen _ _ rfl,
    hprecedence.chosen _ _ rfl⟩

end Program

end StaticHttp
