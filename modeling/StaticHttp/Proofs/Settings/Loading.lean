import StaticHttp.Proofs.Json.Nesting
import StaticHttp.Proofs.Settings.LastWrite

/-!
# What comes of loading a configuration

A load comes off, is declined, or fails.  It comes off where the file holds an object, and is
declined with one entry in the log where it holds anything else, cannot be read, or is not there.
It fails where the text of the file nests too deep to be read, and nowhere else; then nothing is
logged.

    c.load path found comes off  ↔ found.members? is there
    c.load path found fails      ↔ found.TooDeep                                   (load_settles)
    found.TooDeep → more than `maxDepth` brackets stand open in the text at once
-/

namespace StaticHttp

/-! ## Files -/

/-- Where a file cannot be opened, it is the operating system that refuses. -/
def Source.OfSystem (found : Source) : Prop := ∀ f, found = .refused f → f.isSystem = true

/-- There is a text, but it nests too deep to be read. -/
def Source.TooDeep (found : Source) : Prop :=
  ∃ bytes text inArray, found = .content bytes ∧ Utf8.decode bytes = .ok text ∧
    Json.read? (Config.plainLines text) = .error (.tooDeep inArray)

/-- What a tree has at a path is refused by the operating system, if it is refused. -/
theorem Config.ofSystem_look (t : Tree) (path : Text) : (look t path).OfSystem := by
  intro f h
  unfold look at h
  split at h
  · next hexists =>
    split at h
    · cases h
    · next hread =>
      cases h
      unfold Tree.exists? at hexists
      unfold Tree.read at hread
      split at hexists
      · next hfind =>
        rw [hfind] at hread
        split at hread
        · next heq => cases heq
        · next heq => cases heq
        · cases hread
          rfl
        · cases hread
        · cases hread
        · cases hread
          rfl
      · cases hexists
  · cases h

/-! ## Loads -/

/-- A load is declined: the configuration is as it was, and one entry says why. -/
structure Loading.Declined (l : Loading) (c : Config) : Prop where
  outcome : l.outcome = .ok false
  config : l.config = c
  report : ∃ entry, l.report = [entry] ∧ entry.source = Config.source ∧
    (entry.level = Log.warning ∨ entry.level = Log.error)

/-- A load comes off: the members are written, and one entry says so. -/
structure Loading.Came (l : Loading) (c : Config) (ms : List (Text × Value)) : Prop where
  outcome : l.outcome = .ok true
  config : l.config = c.setAll ms
  report : ∃ entry, l.report = [entry] ∧ entry.source = Config.source ∧ entry.level = Log.info

/-- A load fails: the configuration is as it was, and nothing says why. -/
structure Loading.Failed (l : Loading) (c : Config) : Prop where
  outcome : ∃ f, l.outcome = .error f
  config : l.config = c
  report : l.report = []

namespace Config

variable {c : Config} {path : Text} {found : Source} {ms : List (Text × Value)}

/-- A text is refused for its depth, or as a bad value. -/
theorem isBadValue_ofRefusal (r : Json.Refusal) :
    (Failure.ofRefusal r).isBadValue = true ∨ ∃ inArray, r = .tooDeep inArray := by
  cases r with
  | fault f => exact .inl rfl
  | tooManyDigits count => exact .inl rfl
  | tooDeep inArray => exact .inr ⟨inArray, rfl⟩

theorem load_came (c : Config) (path : Text) (h : found.members? = some ms) :
    (c.load path found).Came c ms := by
  obtain ⟨houtcome, hconfig⟩ := load_of_members c path h
  refine ⟨houtcome, hconfig, ?_⟩
  unfold load at houtcome ⊢
  split at houtcome
  · cases houtcome
  · split at houtcome
    · cases houtcome
    · cases houtcome
  · split at houtcome
    · split at houtcome
      · cases houtcome
      · cases houtcome
    · next hparse => exact ⟨_, rfl, rfl, rfl⟩
    · cases houtcome

theorem load_failed (c : Config) (path : Text) (h : found.TooDeep) :
    (c.load path found).Failed c := by
  obtain ⟨bytes, text, inArray, rfl, hdecode, hread⟩ := h
  have hparse : parse bytes = .error (.ofRefusal (.tooDeep inArray)) := by
    simp only [parse, hdecode, hread]
  unfold load
  simp only [hparse]
  exact ⟨⟨_, rfl⟩, rfl, rfl⟩

theorem load_declined (c : Config) (path : Text) (hsystem : found.OfSystem)
    (hnone : found.members? = none) (hdeep : ¬ found.TooDeep) :
    (c.load path found).Declined c := by
  cases found with
  | absent => exact ⟨rfl, rfl, _, rfl, rfl, .inl rfl⟩
  | refused f =>
    have hf := hsystem f rfl
    unfold load
    simp only [hf, Bool.true_or, if_true]
    exact ⟨rfl, rfl, _, rfl, rfl, .inr rfl⟩
  | content bytes =>
    unfold load
    simp only
    cases hparse : parse bytes with
    | error f =>
      have hbad : f.isBadValue = true := by
        unfold parse at hparse
        split at hparse
        · cases hparse
          rfl
        · next text hdecode =>
          split at hparse
          · next r hread =>
            cases hparse
            rcases isBadValue_ofRefusal r with hbad | ⟨inArray, rfl⟩
            · exact hbad
            · exact absurd ⟨bytes, text, inArray, rfl, hdecode, hread⟩ hdeep
          · cases hparse
      simp only [hbad, if_true]
      exact ⟨rfl, rfl, _, rfl, rfl, .inr rfl⟩
    | ok v =>
      cases v with
      | table entries =>
        obtain ⟨ms, hms, _⟩ := parse_eq_table_iff.1 hparse
        rw [hnone] at hms
        cases hms
      | _ => exact ⟨rfl, rfl, _, rfl, rfl, .inr rfl⟩

/-- A text that nests too deep has more brackets open at once than are read. -/
theorem exists_nesting_of_tooDeep (h : found.TooDeep) :
    ∃ bytes text, found = .content bytes ∧ Utf8.decode bytes = .ok text ∧
      Json.maxDepth < Json.nesting .between 0 (plainLines text) := by
  obtain ⟨bytes, text, inArray, hfound, hdecode, hread⟩ := h
  exact ⟨bytes, text, hfound, hdecode, Json.maxDepth_lt_nesting hread⟩

/-- What is made from a file fails as loading the file does. -/
theorem outcome_make {maker : Text} {find : Text → Source} {overrides : List (Text × Value)}
    (hpath : path ≠ []) (hoverrides : ∀ e ∈ overrides, e.1 ∉ reserved) :
    (make maker find (some path) overrides).outcome = (standard.load path (find path)).outcome := by
  have hfind : (overrides.find? fun e => reserved.contains e.1) = none := by
    rw [List.find?_eq_none]
    intro e he
    simp [hoverrides e he]
  obtain ⟨first, p, rfl⟩ := List.exists_cons_of_ne_nil hpath
  unfold make
  rw [hfind]
  rfl

/-- **A load comes off, is declined, or fails for depth.**  It comes off exactly where the file
holds an object, whose members are written then; it fails exactly where the text nests too deep,
with more than `maxDepth` brackets open at once; and everywhere else it is declined, with one
warning or error in the log and the configuration as it was.  What is made from a file fails exactly
where the load does. -/
theorem load_settles (c : Config) (path : Text) (hsystem : found.OfSystem) :
    (∀ ms, found.members? = some ms → (c.load path found).Came c ms) ∧
      (found.TooDeep → (c.load path found).Failed c ∧
        ∃ bytes text, found = .content bytes ∧ Utf8.decode bytes = .ok text ∧
          Json.maxDepth < Json.nesting .between 0 (plainLines text)) ∧
      (found.members? = none → ¬ found.TooDeep → (c.load path found).Declined c) ∧
      ((c.load path found).outcome = .ok true ↔ ∃ ms, found.members? = some ms) ∧
      ((∃ f, (c.load path found).outcome = .error f) ↔ found.TooDeep) ∧
      ∀ (maker : Text) (find : Text → Source) (overrides : List (Text × Value)), path ≠ [] →
        find path = found → (∀ e ∈ overrides, e.1 ∉ reserved) →
        ((∃ f, (make maker find (some path) overrides).outcome = .error f) ↔ found.TooDeep) := by
  have hfails : ∀ c : Config, (∃ f, (c.load path found).outcome = .error f) ↔ found.TooDeep := by
    intro c
    constructor
    · rintro ⟨f, hf⟩
      by_contra hdeep
      cases hms : found.members? with
      | some ms => cases hf.symm.trans (load_came c path hms).outcome
      | none => cases hf.symm.trans (load_declined c path hsystem hms hdeep).outcome
    · exact fun hdeep => (load_failed c path hdeep).outcome
  refine ⟨fun ms => load_came c path, ?_, load_declined c path hsystem, ?_, hfails c, ?_⟩
  · exact fun hdeep => ⟨load_failed c path hdeep, exists_nesting_of_tooDeep hdeep⟩
  · constructor
    · intro houtcome
      cases hms : found.members? with
      | some ms => exact ⟨ms, rfl⟩
      | none => exact absurd houtcome (load_of_not_members c path hms).1
    · rintro ⟨ms, hms⟩
      exact (load_came c path hms).outcome
  · rintro maker find overrides hpath rfl hoverrides
    rw [outcome_make hpath hoverrides]
    exact hfails standard

/-- A file that holds a list. -/
def listed : Source := .content (Bytes.ofAscii "[1]")

theorem load_settles_listed :
    listed.OfSystem ∧ ¬ listed.TooDeep ∧ (standard.load "b.json" listed).Declined standard := by
  have hsystem : listed.OfSystem := by
    intro f h
    cases h
  obtain ⟨_, _, hdeclined, hcame, hfailed, _⟩ := load_settles standard "b.json" hsystem
  have hloaded : (standard.load "b.json" listed).outcome.toOption = some false := by decide +kernel
  have hdeep : ¬ listed.TooDeep := by
    intro hdeep
    obtain ⟨f, hf⟩ := hfailed.2 hdeep
    rw [hf] at hloaded
    cases hloaded
  refine ⟨hsystem, hdeep, hdeclined ?_ hdeep⟩
  cases hms : listed.members? with
  | none => rfl
  | some ms =>
    rw [hcame.2 ⟨ms, hms⟩] at hloaded
    cases hloaded

/-! ## A file of brackets -/

theorem decode_replicate {b : UInt8} (hb : b.toNat < 0x80) (n : Nat) :
    Utf8.decode (List.replicate n b) = .ok (List.replicate n (CodePoint.ofNat b.toNat)) := by
  have hstart : Utf8.start b = .inl (.scalar (CodePoint.ofNat b.toNat)) := if_pos hb
  have hfrom : ∀ i, Utf8.decodeFrom i (Utf8.chunks (List.replicate n b)) =
      .ok (List.replicate n (CodePoint.ofNat b.toNat)) := by
    unfold Utf8.chunks
    induction n with
    | zero => exact fun _ => rfl
    | succ n ih =>
      intro i
      simp only [List.replicate_succ, Utf8.chunksFrom, hstart, Utf8.decodeFrom, ih]
  exact hfrom 0

theorem plainLines_replicate {c : CodePoint} (hc : c ≠ '\r') (n : Nat) :
    plainLines (List.replicate n c) = List.replicate n c := by
  induction n with
  | zero => rfl
  | succ n ih =>
    rw [List.replicate_succ, plainLines.eq_def]
    simp only
    rw [if_neg hc, ih]

/-- A machine with one file, in the folder in which paths start. -/
def loneFile (content : Bytes) : Tree := ⟨[([Bytes.ofAscii "deep.json"], .file content)], []⟩

theorem find_loneFile (content : Bytes) :
    (loneFile content).find "deep.json" =
      .ok (.taken [Bytes.ofAscii "deep.json"] (.file content)) := by
  have hbytes : Tree.pathBytes "deep.json" = .ok (Bytes.ofAscii "deep.json") := rfl
  have hname : ¬ (Bytes.ofAscii "deep.json" = [] ∨ Bytes.ofAscii "deep.json" = [0x2E]) := by decide
  have hup : Bytes.ofAscii "deep.json" ≠ [0x2E, 0x2E] := by decide
  have hlength : ¬ Tree.maxName < (Bytes.ofAscii "deep.json").length := by decide
  have hat : (loneFile content).at? ([] ++ [Bytes.ofAscii "deep.json"]) = some (.file content) := rfl
  have hwalk : (loneFile content).walk true Tree.maxLinks [] [Bytes.ofAscii "deep.json"] =
      .ok (.taken [Bytes.ofAscii "deep.json"] (.file content)) := by
    rw [Tree.walk]
    simp only [hname, hup, hlength, hat, if_false]
    rfl
  have hlocate : (loneFile content).locate true (Bytes.ofAscii "deep.json") =
      .ok (.taken [Bytes.ofAscii "deep.json"] (.file content)) := hwalk
  simp only [Tree.find, hbytes, hlocate]

theorem look_loneFile (content : Bytes) : look (loneFile content) "deep.json" = .content content := by
  simp only [look, Tree.exists?, Tree.read, find_loneFile, if_true]

/-- More arrays are opened than may be, and none is closed. -/
theorem parse_replicate {n : Nat} (h : Json.maxDepth < n) :
    parse (List.replicate n 0x5B) = .error (.ofRefusal (.tooDeep true)) := by
  have hdecode := decode_replicate (b := 0x5B) (by decide) n
  have hbracket : CodePoint.ofNat (0x5B : UInt8).toNat = '[' := by decide
  rw [hbracket] at hdecode
  have hlines := plainLines_replicate (c := '[') (by decide) n
  simp only [parse, hdecode, hlines, Json.read?_replicate h]

/-- A file in which twenty thousand arrays are opened. -/
def brackets : Bytes := List.replicate 20000 0x5B

/-- The content of a file makes a load fail, and what is made from the file. -/
theorem load_fails :
    (look (loneFile brackets) "deep.json").OfSystem ∧
      (standard.load "deep.json" (look (loneFile brackets) "deep.json")).outcome =
        .error (.ofRefusal (.tooDeep true)) ∧
      (make "ServerConfig" (look (loneFile brackets)) (some "deep.json") []).outcome =
        .error (.ofRefusal (.tooDeep true)) := by
  have hload : (standard.load "deep.json" (look (loneFile brackets) "deep.json")).outcome =
      .error (.ofRefusal (.tooDeep true)) := by
    rw [look_loneFile, load]
    have hparse : parse brackets = .error (.ofRefusal (.tooDeep true)) :=
      parse_replicate (by decide)
    simp only [hparse]
    rfl
  refine ⟨ofSystem_look _ _, hload, ?_⟩
  rw [outcome_make (by decide) (by simp), hload]

end Config

end StaticHttp
