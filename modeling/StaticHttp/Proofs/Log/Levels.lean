import StaticHttp.Proofs.Log.Unopened
import StaticHttp.Proofs.Text.Capitals

/-!
# Which levels are accepted

A value is taken for the level whose name its text is in capitals, and for INFO if there is none.
Two names in capitals stand for something that is no level: a text that comes to one of them keeps
the logger from being set up, and leaves it as it was.  No value but a text comes to a name at all:
the others are written with a sign in them, or as one of five words.

    v is no text → v is written as one of `Value.words`, or with a sign      (Value.display_signed)
    setting up fails for its level ↔ the level is BASIC_FORMAT or _STYLES    (setUp_takesLevel)
-/

namespace StaticHttp

/-! ## The texts of values -/

theorem Text.exists_sign_ofNat (n : Nat) : ∃ c ∈ ofNat n, c.isSign = true := by
  obtain ⟨d, hd⟩ := List.exists_mem_of_ne_nil _ (Nat.toDigits_ne_nil (n := n) (b := 10))
  have hrange := range_of_mem_toDigits hd
  refine ⟨CodePoint.ofChar d, List.mem_map_of_mem hd, ?_⟩
  have hval : (CodePoint.ofChar d).val = d.toNat := rfl
  simp only [CodePoint.isSign, CodePoint.isAscii, hval, Bool.and_eq_true, Bool.not_eq_true',
    Bool.and_eq_false_iff, decide_eq_true_eq, decide_eq_false_iff_not]
  omega

theorem Text.exists_sign_ofInt (n : Int) : ∃ c ∈ ofInt n, c.isSign = true := by
  cases n with
  | ofNat n => exact exists_sign_ofNat n
  | negSucc n => exact ⟨'-', List.mem_cons_self, by decide⟩

/-- A number in decimal has a point or the sign of an exponent in it. -/
theorem Binary64.Decimal.exists_sign (d : Decimal) : ∃ c ∈ d.text, c.isSign = true := by
  have hpoint : ('.' : CodePoint) ∈ ("." : Text) := List.mem_cons_self
  have hzero : ('.' : CodePoint) ∈ ("0." : Text) := List.mem_cons_of_mem _ hpoint
  unfold Decimal.text
  simp only
  split
  · refine ⟨'.', ?_, by decide⟩
    split
    · exact List.mem_append_left _ (List.mem_append_left _ hzero)
    · exact List.mem_append_left _ (List.mem_append_right _ hpoint)
  · by_cases hneg : d.significant.2 < 0
    · refine ⟨'-', List.mem_append_left _ (List.mem_append_right _ ?_), by decide⟩
      rw [if_pos hneg]
      decide
    · refine ⟨'+', List.mem_append_left _ (List.mem_append_right _ ?_), by decide⟩
      rw [if_neg hneg]
      decide

/-- The words that values are written as. -/
def Value.words : List Text := ["None", "True", "False", "nan", "inf"]

theorem Binary64.text_signed (x : Binary64) :
    x.text ∈ Value.words ∨ ∃ c ∈ x.text, c.isSign = true := by
  unfold text
  split
  · exact .inl (by decide)
  simp only
  split
  · exact .inr ⟨'-', List.mem_cons_self, by decide⟩
  split
  · exact .inl (by decide)
  split
  · exact .inr ⟨'.', by decide, by decide⟩
  · exact .inr x.shortest.exists_sign

/-- A value that is no text is written as one of a few words, or with a sign. -/
theorem Value.display_signed {v : Value} (h : ∀ t, v ≠ .text t) :
    v.display ∈ words ∨ ∃ c ∈ v.display, c.isSign = true := by
  cases v with
  | null => exact .inl (by decide)
  | bool b => exact .inl (by cases b <;> decide)
  | int n => exact .inr (Text.exists_sign_ofInt n)
  | real x => exact x.text_signed
  | text t => exact absurd rfl (h t)
  | list items =>
    refine .inr ⟨'[', ?_, by decide⟩
    rw [display, quoted]
    · exact List.mem_append_left _ (List.mem_append_left _ List.mem_cons_self)
    · exact h
  | table entries =>
    refine .inr ⟨'\x7b', ?_, by decide⟩
    rw [display, quoted]
    · exact List.mem_append_left _ (List.mem_append_left _ List.mem_cons_self)
    · exact h

namespace Log.Logger

variable {upper : CodePoint → Text} {v : Value} {level : Int}

/-! ## Names -/

/-- The names that mean something in place of a level: those of the levels, and two others. -/
def knownNames : List Text := "BASIC_FORMAT" :: "_STYLES" :: levelNames.map Prod.fst

/-- A known name is in ASCII and without signs, and no word of a value that is no text comes to
it. -/
theorem knownNames_spec {name : Text} (h : name ∈ knownNames) :
    name.InAscii ∧ (∀ c ∈ name, c.isSign = false) ∧
      ∀ word ∈ Value.words, Text.capitals word ≠ name := by
  have hall : (knownNames.all fun name => name.all CodePoint.isAscii &&
      name.all (fun c => !c.isSign) &&
      Value.words.all fun word => !(Text.capitals word == name)) = true := by decide
  have hname := List.all_eq_true.1 hall name h
  simp only [Bool.and_eq_true, List.all_eq_true, Bool.not_eq_true', beq_eq_false_iff_ne] at hname
  exact ⟨List.all_eq_true.2 hname.1.1, hname.1.2, hname.2⟩

/-- A level has the number that is listed for its name. -/
theorem lookup_levelNames_iff {name : Text} :
    levelNames.lookup name = some level ↔ (name, level) ∈ levelNames := by
  constructor
  · intro h
    obtain ⟨front, back, hnames, _⟩ := List.lookup_eq_some_iff.1 h
    rw [hnames]
    exact List.mem_append_right _ List.mem_cons_self
  · intro h
    have hall : (levelNames.all fun e => levelNames.lookup e.1 == some e.2) = true := by decide
    exact eq_of_beq (List.all_eq_true.1 hall _ h)

theorem mem_knownNames_of_level {name : Text} (h : (name, level) ∈ levelNames) :
    name ∈ knownNames :=
  List.mem_cons_of_mem _ (List.mem_cons_of_mem _ (List.mem_map_of_mem (f := Prod.fst) h))

theorem lookup_levelNames_of_notMem {name : Text} (h : name ∉ knownNames) :
    levelNames.lookup name = none := by
  cases hlookup : levelNames.lookup name with
  | none => rfl
  | some level => exact absurd (mem_knownNames_of_level (lookup_levelNames_iff.1 hlookup)) h

/-- A value that comes to a known name, in whatever way code points are put in capitals, comes to it
in `capitals`. -/
theorem capitals_of_mem (h : Text.Capitalizes upper) (hmem : v.display.flatMap upper ∈ knownNames) :
    Text.capitals v.display = v.display.flatMap upper :=
  (h.flatMap_eq_iff (knownNames_spec hmem).1).1 rfl

theorem capitals_notMem (h : Text.Capitalizes upper) (hnot : v.display.flatMap upper ∉ knownNames) :
    Text.capitals v.display ∉ knownNames := by
  intro hmem
  rw [(h.flatMap_eq_iff (knownNames_spec hmem).1).2 rfl] at hnot
  exact hnot hmem

/-- A value that is no text comes to no known name. -/
theorem notMem_knownNames (h : Text.Capitalizes upper) (hv : ∀ t, v ≠ .text t) :
    v.display.flatMap upper ∉ knownNames := by
  intro hmem
  obtain ⟨_, hnoSign, hwords⟩ := knownNames_spec hmem
  rcases Value.display_signed hv with hword | ⟨c, hc, hsign⟩
  · exact hwords _ hword (capitals_of_mem h hmem)
  -- The sign stands in capitals as it is, and no name has one.
  · have hnone := hnoSign c (h.mem_flatMap_of_sign hc hsign)
    rw [hsign] at hnone
    cases hnone

/-! ## What a value is taken for -/

theorem levelOf_of_mem (h : Text.Capitalizes upper)
    (hmem : (v.display.flatMap upper, level) ∈ levelNames) : levelOf v = .ok level := by
  unfold levelOf
  rw [capitals_of_mem h (mem_knownNames_of_level hmem)]
  simp only [lookup_levelNames_iff.2 hmem]

theorem levelOf_of_notMem (h : Text.Capitalizes upper)
    (hnot : v.display.flatMap upper ∉ knownNames) : levelOf v = .ok info := by
  have hcapitals := capitals_notMem h hnot
  have hne : ∀ name ∈ knownNames, Text.capitals v.display ≠ name := by
    rintro name hmem rfl
    exact hcapitals hmem
  have hformat := hne "BASIC_FORMAT" List.mem_cons_self
  have hstyles := hne "_STYLES" (List.mem_cons_of_mem _ List.mem_cons_self)
  simp only [levelOf, lookup_levelNames_of_notMem hcapitals, if_neg hformat, if_neg hstyles]

theorem levelOf_of_format (h : Text.Capitalizes upper)
    (hname : v.display.flatMap upper = "BASIC_FORMAT") : ∃ t, levelOf v = .error (.badValue t) := by
  have hcapitals := (h.flatMap_eq_iff (by decide)).1 hname
  have hlookup : levelNames.lookup ("BASIC_FORMAT" : Text) = none := by decide
  simp only [levelOf, hcapitals, hlookup, if_true]
  exact ⟨_, rfl⟩

theorem levelOf_of_styles (h : Text.Capitalizes upper)
    (hname : v.display.flatMap upper = "_STYLES") : ∃ t, levelOf v = .error (.badSort t) := by
  have hcapitals := (h.flatMap_eq_iff (by decide)).1 hname
  have hlookup : levelNames.lookup ("_STYLES" : Text) = none := by decide
  have hformat : ("_STYLES" : Text) ≠ "BASIC_FORMAT" := by decide
  simp only [levelOf, hcapitals, hlookup, if_neg hformat, if_true]
  exact ⟨_, rfl⟩

/-! ## Setting up -/

variable {s : Logger} {settings : Settings} {second : Int}

/-- Setting up takes a setting for a level: the logger has that level, and what setting up comes to
and the handlers are as with INFO, whether the log file can be opened or not. -/
structure Takes (s : Logger) (settings : Settings) (second level : Int) : Prop where
  outcome : (s.setUp settings second).1 =
    (s.setUp { settings with level := .text "INFO" } second).1
  level : (s.setUp settings second).2.level = level
  handlers : (s.setUp settings second).2.handlers =
    (s.setUp { settings with level := .text "INFO" } second).2.handlers

/-- A log file is opened, or not, whatever the level is. -/
theorem withFile_anyLevel {t : Logger} {n : Nat} {c : ConsoleHandler} (htree : s.tree = t.tree)
    (hmade : s.made = t.made) (hs : s.handlers = [⟨n, .console c⟩])
    (ht : t.handlers = [⟨n, .console c⟩]) (settings : Settings) (v : Value) (second : Int) :
    (s.withFile settings second).1 = (t.withFile { settings with level := v } second).1 ∧
      (s.withFile settings second).2.handlers =
        (t.withFile { settings with level := v } second).2.handlers := by
  unfold withFile
  rw [htree]
  simp only
  cases File.openAt settings.file settings.maxSize settings.backups t.tree with
  | ok opened =>
    refine ⟨rfl, ?_⟩
    simp only [attach, addHandler, hs, ht, hmade]
    split <;> rfl
  | error f =>
    simp only [withoutFile]
    by_cases hsystem : f.isSystem = true
    · rw [if_pos hsystem, if_pos hsystem]
      refine ⟨rfl, ?_⟩
      rw [(kept_handle_bare hs _).1, (kept_handle_bare ht _).1, hs, ht]
    · rw [if_neg hsystem, if_neg hsystem]
      exact ⟨rfl, hs.trans ht.symm⟩

theorem setUp_takes (h : levelOf settings.level = .ok level) (s : Logger) (second : Int) :
    s.Takes settings second level := by
  have hinfo : levelOf (.text "INFO") = .ok info := rfl
  have hlevel := congrArg Face.level (face_setUp h s second)
  rw [face_withConsole] at hlevel
  let base (level : Int) := s.withConsole level settings.colored.isTruthy
  have hbase : ∀ level, base level = _ := fun level => withConsole_eq s level _
  have hhandlers := (congrArg handlers (hbase level)).trans (congrArg handlers (hbase info)).symm
  obtain ⟨houtcome, hfile⟩ := withFile_anyLevel (s := base level) (t := base info)
    (by rw [hbase, hbase]) (by rw [hbase, hbase]) (congrArg handlers (hbase level))
    (congrArg handlers (hbase info)) settings (.text "INFO") second
  refine ⟨?_, hlevel, ?_⟩
  · simp only [setUp, h, hinfo]
    split
    · exact houtcome
    · rfl
  · simp only [setUp, h, hinfo]
    split
    · exact hfile
    · exact hhandlers

/-- **Which levels are accepted**: a value whose text in capitals is the name of a level is taken
for that level, and one whose text comes to no name is taken for INFO, as is every value that is no
text.  A text that comes to one of the two other names keeps the logger from being set up, and
leaves it as it was. -/
theorem setUp_takesLevel (h : Text.Capitalizes upper) (s : Logger) (settings : Settings)
    (second : Int) :
    let name := settings.level.display.flatMap upper
    (∀ level, (name, level) ∈ levelNames → s.Takes settings second level) ∧
      (name ∉ levelNames.map Prod.fst → name ≠ "BASIC_FORMAT" → name ≠ "_STYLES" →
        s.Takes settings second info) ∧
      ((∀ t, settings.level ≠ .text t) → s.Takes settings second info) ∧
      (name = "BASIC_FORMAT" → ∃ t, s.setUp settings second = (.error (.badValue t), s)) ∧
      (name = "_STYLES" → ∃ t, s.setUp settings second = (.error (.badSort t), s)) := by
  intro name
  refine ⟨?_, ?_, ?_, ?_, ?_⟩
  · intro level hmem
    exact setUp_takes (levelOf_of_mem h hmem) s second
  · intro hlevels hformat hstyles
    have hnot : name ∉ knownNames := by
      simp only [knownNames, List.mem_cons, not_or]
      exact ⟨hformat, hstyles, hlevels⟩
    exact setUp_takes (levelOf_of_notMem h hnot) s second
  · intro hv
    exact setUp_takes (levelOf_of_notMem h (notMem_knownNames h hv)) s second
  · intro hname
    obtain ⟨t, hlevel⟩ := levelOf_of_format h hname
    rw [setUp, hlevel]
    exact ⟨t, rfl⟩
  · intro hname
    obtain ⟨t, hlevel⟩ := levelOf_of_styles h hname
    rw [setUp, hlevel]
    exact ⟨t, rfl⟩

/-- A level in small letters, with a long s. -/
def longSet : Settings :=
  { plain with level := .text (("not" : Text) ++ [CodePoint.ofNat 0x17F] ++ "et") }

/-- A list in place of a level. -/
def listed : Settings := { plain with level := .list [.text "DEBUG"] }

/-- NOTSET with a long s is a level, and a list is taken for INFO. -/
theorem setUp_takesLevel_longSet :
    ((initial false bareTree).setUp longSet 0).1 = .ok () ∧
      ((initial false bareTree).setUp longSet 0).2.level = 0 ∧
      ((initial false bareTree).setUp listed 0).1 = .ok () ∧
      ((initial false bareTree).setUp listed 0).2.level = info := by
  have hmem : (longSet.level.display.flatMap Text.capital, (0 : Int)) ∈ levelNames := by decide
  have hlist : ∀ t, listed.level ≠ .text t := by
    intro t h
    cases h
  obtain ⟨hnamed, _⟩ := setUp_takesLevel Text.capitalizes_capital (initial false bareTree) longSet 0
  obtain ⟨_, _, hother, _⟩ :=
    setUp_takesLevel Text.capitalizes_capital (initial false bareTree) listed 0
  have hset := hnamed 0 hmem
  have hinfo := hother hlist
  exact ⟨hset.outcome, hset.level, hinfo.outcome, hinfo.level⟩

/-- The name of something that is no level, in small letters. -/
def formatNamed : Settings := { plain with level := .text "basic_format" }

/-- The name of another such thing. -/
def stylesNamed : Settings := { plain with level := .text "_styles" }

/-- Two names keep the logger from being set up. -/
theorem setUp_failsMisnamed :
    (initial false bareTree).setUp formatNamed 0 =
        (.error (.badValue "Unknown level: '%(levelname)s:%(name)s:%(message)s'"),
          initial false bareTree) ∧
      ∃ t, (initial false bareTree).setUp stylesNamed 0 =
        (.error (.badSort t), initial false bareTree) :=
  ⟨rfl, _, rfl⟩

end Log.Logger

end StaticHttp
