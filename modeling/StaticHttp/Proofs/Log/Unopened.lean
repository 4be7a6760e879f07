import StaticHttp.Proofs.Files.Passable
import StaticHttp.Proofs.Log.Delivery

/-!
# A log file that cannot be opened

A log file that the operating system refuses, for whatever reason, does not keep the logger from
being set up: the console is its only handler then, and one record at ERROR names the file and says
why it is missing.  What keeps the logger from being set up is a path that cannot be passed on to
the system.  Then the failure is the caller's; the console is set up, and nothing is logged.

    (s.withoutFile (.text name) (.system e) second).1 = .ok ()                  (withoutFile_system)
    setting up fails ↔ a file is named and its path is not passable            (setUp_withoutFile)
-/

namespace StaticHttp.Log.Logger

variable {s t : Logger} {settings : Settings} {name : Text} {size level second : Int}

/-! ## Going on -/

/-- A logger goes on with its console `c` alone after the failure to open a log file: it has handled
one record, at ERROR, that names the file and the failure.  The record appears unless the level is
above ERROR, and the files are as they were. -/
structure GoesOn (s : Logger) (c : ConsoleHandler) (name : Text) (f : Failure) (second : Int)
    (t : Logger) : Prop where
  record : t = s.handle ⟨⟨"root", error,
    "Error setting up log file " ++ name ++ ": " ++ f.message⟩, second⟩
  outlets : t.outlets = [.console c]
  tree : t.tree = s.tree
  shown : ∀ line, (refusal (.text name) f second).line = .ok line →
    t.shown = s.shown ++ if s.level ≤ error then
      Console.write s.terminal c.wrappers (ConsoleHandler.shown c error line ++ "\n") else []

/-- A record leaves a logger whose only handler is the console its handler and its files. -/
theorem kept_handle_bare {n : Nat} {c : ConsoleHandler} (h : s.handlers = [⟨n, .console c⟩])
    (r : Record) : (s.handle r).handlers = s.handlers ∧ (s.handle r).tree = s.tree := by
  by_cases hlevel : 0 < r.level ∧ s.level ≤ r.level
  · rw [handle_bare h hlevel]
    exact ⟨rfl, rfl⟩
  · rw [handle_of_not_level hlevel]
    exact ⟨rfl, rfl⟩

theorem handle_goesOn {n : Nat} {c : ConsoleHandler} (h : s.handlers = [⟨n, .console c⟩])
    (name : Text) (f : Failure) (second : Int) :
    s.GoesOn c name f second (s.handle (refusal (.text name) f second)) := by
  obtain ⟨hhandlers, htree⟩ := kept_handle_bare h (refusal (.text name) f second)
  refine ⟨rfl, ?_, htree, ?_⟩
  · rw [outlets, hhandlers, h]
    rfl
  · intro line hline
    have hlevel : (refusal (.text name) f second).level = error := rfl
    have hpos : 0 < error := by decide
    rw [shown_handle, Face.shows, hlevel]
    simp [face, h, consoles, Outlet.console?, ConsoleHandler.prints, hline, hlevel, hpos]

/-- Whatever the system refuses the log file for, the logger goes on. -/
theorem withoutFile_system {n : Nat} {c : ConsoleHandler} (h : s.handlers = [⟨n, .console c⟩])
    (name : Text) (e : SystemError) (second : Int) :
    (s.withoutFile (.text name) (.system e) second).1 = .ok () ∧
      s.GoesOn c name (.system e) second (s.withoutFile (.text name) (.system e) second).2 :=
  ⟨rfl, handle_goesOn h name (.system e) second⟩

/-! ## Opening -/

/-- What a logger whose console is set up comes to with a log file at a path: the file is opened,
the system refuses it, or the path cannot be passed on. -/
inductive Outfitted (s : Logger) (path : Text) (settings : Settings) (second : Int) :
    Except Failure Unit × Logger → Prop
  | opened {f : File} {tree : Tree} : s.tree.openAppend path = .ok (tree, f.place) →
      Outfitted s path settings second (.ok (), { s with tree }.attach (.file f))
  | refused {e : SystemError} : Path.Passable path → s.tree.openAppend path = .error (.system e) →
      Outfitted s path settings second (s.withoutFile settings.file (.system e) second)
  | unpassed {f : Failure} : ¬ Path.Passable path → f.isBadValue = true →
      s.tree.openAppend path = .error f → Outfitted s path settings second (.error f, s)

/-- A log file is opened by the absolute path of its name. -/
theorem openAt_text (hfile : settings.file = .text name) (hsize : settings.maxSize = .int size)
    (tree : Tree) :
    let path := Path.absolute tree.herePath name
    File.openAt settings.file settings.maxSize settings.backups tree =
      (tree.openAppend path).map fun opened =>
        (⟨path, opened.2, settings.maxSize, settings.backups⟩, opened.1) := by
  intro path
  have hpath : File.pathFrom tree.herePath settings.file settings.maxSize = .ok path := by
    rw [hfile, hsize]
    rfl
  unfold File.openAt
  rw [hpath]
  simp only
  cases tree.openAppend path with
  | ok opened => rfl
  | error f => rfl

theorem withFile_outfitted (hfile : settings.file = .text name) (hsize : settings.maxSize = .int size)
    (s : Logger) (second : Int) :
    s.Outfitted (Path.absolute s.tree.herePath name) settings second (s.withFile settings second) := by
  unfold withFile
  rw [openAt_text hfile hsize]
  cases hopen : s.tree.openAppend (Path.absolute s.tree.herePath name) with
  | ok opened => exact .opened hopen
  | error f =>
    simp only [Except.map]
    cases Tree.refused_openAppend hopen with
    | system hpassable => exact .refused hpassable hopen
    | unpassed hpassable hbad =>
      have hnot : ¬ f.isSystem = true :=
        fun hsystem => hpassable ((Path.Refused.unpassed hpassable hbad).isSystem_iff.1 hsystem)
      rw [withoutFile, if_neg hnot]
      exact .unpassed hpassable hbad hopen

/-! ## Setting up -/

theorem setUp_of_file (hlevel : levelOf settings.level = .ok level)
    (hfile : settings.file = .text name) (s : Logger) (second : Int) :
    s.setUp settings second =
      if name = [] then (.ok (), s.withConsole level settings.colored.isTruthy)
      else (s.withConsole level settings.colored.isTruthy).withFile settings second := by
  unfold setUp
  rw [hlevel, hfile]
  cases name with
  | nil => rfl
  | cons c name => rfl

/-- Setting up returns if the path of the log file can be passed on. -/
theorem setUp_of_passable (hlevel : levelOf settings.level = .ok level)
    (hfile : settings.file = .text name) (hsize : settings.maxSize = .int size)
    (h : name = [] ∨ Path.Passable (Path.absolute s.tree.herePath name)) :
    (s.setUp settings second).1 = .ok () := by
  rw [setUp_of_file hlevel hfile]
  by_cases hname : name = []
  · rw [if_pos hname]
  · rw [if_neg hname]
    have hpassable := h.resolve_left hname
    have houtfitted := withFile_outfitted hfile hsize
      (s.withConsole level settings.colored.isTruthy) second
    rw [tree_withConsole] at houtfitted
    generalize withFile _ settings second = ended at houtfitted ⊢
    cases houtfitted with
    | opened _ => rfl
    | refused _ _ => rfl
    | unpassed hnot _ _ => exact absurd hpassable hnot

/-- Setting up fails if the path of the log file cannot be passed on. -/
theorem setUp_of_not_passable (hlevel : levelOf settings.level = .ok level)
    (hfile : settings.file = .text name) (hsize : settings.maxSize = .int size) (hname : name ≠ [])
    (h : ¬ Path.Passable (Path.absolute s.tree.herePath name)) :
    ∃ f, f.isBadValue = true ∧
      s.setUp settings second = (.error f, s.withConsole level settings.colored.isTruthy) := by
  rw [setUp_of_file hlevel hfile, if_neg hname]
  have houtfitted := withFile_outfitted hfile hsize
    (s.withConsole level settings.colored.isTruthy) second
  rw [tree_withConsole] at houtfitted
  generalize withFile _ settings second = ended at houtfitted ⊢
  cases houtfitted with
  | opened hopen => exact absurd (Tree.passable_of_openAppend (tree_withConsole s _ _ ▸ hopen)) h
  | refused hpassable _ => exact absurd hpassable h
  | unpassed _ hbad _ => exact ⟨_, hbad, rfl⟩

/-- Setting up goes on without a log file that the system refuses. -/
theorem setUp_of_refused {e : SystemError} (hlevel : levelOf settings.level = .ok level)
    (hfile : settings.file = .text name) (hsize : settings.maxSize = .int size) (hname : name ≠ [])
    (h : s.tree.openAppend (Path.absolute s.tree.herePath name) = .error (.system e)) :
    s.setUp settings second =
      (s.withConsole level settings.colored.isTruthy).withoutFile (.text name) (.system e) second := by
  have htree := tree_withConsole s level settings.colored.isTruthy
  have hopen := openAt_text hfile hsize s.tree
  simp only [h, Except.map] at hopen
  rw [setUp_of_file hlevel hfile, if_neg hname, withFile, htree, hopen, hfile]

/-- A file that is not opened although its path can be passed on has been refused by the system, and
the logger goes on. -/
theorem setUp_of_closed (hlevel : levelOf settings.level = .ok level)
    (hfile : settings.file = .text name) (hsize : settings.maxSize = .int size) (hname : name ≠ [])
    (hpassable : Path.Passable (Path.absolute s.tree.herePath name))
    (hclosed : ∀ opened, s.tree.openAppend (Path.absolute s.tree.herePath name) ≠ .ok opened) :
    let base := s.withConsole level settings.colored.isTruthy
    ∃ e, s.tree.openAppend (Path.absolute s.tree.herePath name) = .error (.system e) ∧
      base.GoesOn ⟨settings.colored.isTruthy, base.wrappers⟩ name (.system e) second
        (s.setUp settings second).2 := by
  intro base
  cases hopen : s.tree.openAppend (Path.absolute s.tree.herePath name) with
  | ok opened => exact absurd hopen (hclosed opened)
  | error f =>
    cases Tree.refused_openAppend hopen with
    | unpassed hnot _ => exact absurd hpassable hnot
    | @system e _ =>
      rw [setUp_of_refused hlevel hfile hsize hname hopen]
      exact ⟨e, rfl, (withoutFile_system (handlers_withConsole s _ _) name e second).2⟩

/-- **A log file that cannot be opened leaves the console**: whatever the system refuses it for,
setting up returns, with the console as the only handler and one record at ERROR that names the
file.  Setting up fails only for a log file whose absolute path cannot be passed on to the system,
and then the console is set up and nothing is logged.  A name without NUL and stray surrogates has
no such path, and one that has them has, unless there is a `..` in it. -/
theorem setUp_withoutFile (hlevel : levelOf settings.level = .ok level)
    (hfile : settings.file = .text name) (hsize : settings.maxSize = .int size) (s : Logger)
    (second : Int) :
    let path := Path.absolute s.tree.herePath name
    let base := s.withConsole level settings.colored.isTruthy
    let c : ConsoleHandler := ⟨settings.colored.isTruthy, base.wrappers⟩
    let ended := s.setUp settings second
    base.outlets = [.console c] ∧
      (∀ e, (base.withoutFile settings.file (.system e) second).1 = .ok () ∧
        base.GoesOn c name (.system e) second
          (base.withoutFile settings.file (.system e) second).2) ∧
      (name = [] ∨ Path.Passable path → ended.1 = .ok ()) ∧
      (name ≠ [] → Path.Passable path → (∀ opened, s.tree.openAppend path ≠ .ok opened) →
        ∃ e, s.tree.openAppend path = .error (.system e) ∧
          base.GoesOn c name (.system e) second ended.2) ∧
      (name ≠ [] → ¬ Path.Passable path →
        ∃ f, f.isBadValue = true ∧ ended = (.error f, base)) ∧
      ((∀ folder ∈ s.tree.here, (0 : UInt8) ∉ folder) →
        (Path.Passable name → ended.1 = .ok ()) ∧
        ((".." : Text) ∉ pieces (· = Path.slash) name → ¬ Path.Passable name →
          ∃ f, f.isBadValue = true ∧ ended = (.error f, base))) := by
  intro path base c ended
  have hbase : base.handlers = [⟨s.made, .console c⟩] := handlers_withConsole s _ _
  refine ⟨?_, ?_, setUp_of_passable hlevel hfile hsize, setUp_of_closed hlevel hfile hsize,
    setUp_of_not_passable hlevel hfile hsize, ?_⟩
  · rw [outlets, hbase]
    rfl
  · intro e
    rw [hfile]
    exact withoutFile_system hbase name e second
  · intro hfolders
    have hhere := Tree.passable_herePath hfolders
    refine ⟨fun h => setUp_of_passable hlevel hfile hsize (.inr (hhere.absolute h)), ?_⟩
    intro hup hnot
    refine setUp_of_not_passable hlevel hfile hsize ?_ ?_
    · rintro rfl
      exact hnot fun _ hc => absurd hc List.not_mem_nil
    · rwa [Path.passable_absolute_iff hhere hup]

/-- A log file in a folder that is not there. -/
def misplaced : Settings := { plain with file := .text "logs/a.log" }

/-- The line about it. -/
def misplacedLine : Text :=
  ("1970-01-01 00:00:00 - root - ERROR - Error setting up log file logs/a.log: " : Text) ++
    "[Errno 2] No such file or directory: '/logs/a.log'"

theorem openAppend_misplaced :
    bareTree.openAppend "/logs/a.log" =
      .error (.system (PathError.missing.about "/logs/a.log")) := by
  have hbytes : Tree.pathBytes "/logs/a.log" = .ok (Bytes.ofAscii "/logs/a.log") := rfl
  have hname : ¬ (Bytes.ofAscii "logs" = [] ∨ Bytes.ofAscii "logs" = [0x2E]) := by decide
  have hup : Bytes.ofAscii "logs" ≠ [0x2E, 0x2E] := by decide
  have hlong : ¬ Tree.maxName < (Bytes.ofAscii "logs").length := by decide
  have hat : bareTree.at? ([] ++ [Bytes.ofAscii "logs"]) = none := rfl
  have hwalk : bareTree.walk true Tree.maxLinks []
      [[], Bytes.ofAscii "logs", Bytes.ofAscii "a.log"] = .error .missing := by
    rw [Tree.walk, if_pos (.inl rfl), Tree.walk, if_neg hname, if_neg hup, if_neg hlong, hat]
    rfl
  have hlocate : bareTree.locate true (Bytes.ofAscii "/logs/a.log") = .error .missing := hwalk
  simp only [Tree.openAppend, Tree.find, hbytes, hlocate]

/-- The folder of the log file is missing. -/
theorem setUp_withoutFile_misplaced :
    ((initial false bareTree).setUp misplaced 0).1 = .ok () ∧
      ((initial false bareTree).setUp misplaced 0).2.outlets = [.console ⟨false, 0⟩] ∧
      ((initial false bareTree).setUp misplaced 0).2.shown = misplacedLine ++ "\n" := by
  have hlevel : levelOf misplaced.level = .ok info := rfl
  have hfile : misplaced.file = .text "logs/a.log" := rfl
  have hsize : misplaced.maxSize = .int 10485760 := rfl
  have hpath : Path.absolute bareTree.herePath "logs/a.log" = "/logs/a.log" := by decide
  have hname : ("logs/a.log" : Text) ≠ [] := by decide
  obtain ⟨_, _, hreturns, hgoesOn, _⟩ :=
    setUp_withoutFile hlevel hfile hsize (initial false bareTree) 0
  have hpassable : Path.Passable (Path.absolute bareTree.herePath "logs/a.log") := by
    rw [hpath]
    decide
  have hclosed : ∀ opened,
      bareTree.openAppend (Path.absolute bareTree.herePath "logs/a.log") ≠ .ok opened := by
    intro opened
    rw [hpath, openAppend_misplaced]
    simp
  obtain ⟨e, hopen, hended⟩ := hgoesOn hname hpassable hclosed
  have hrefused : bareTree.openAppend (Path.absolute bareTree.herePath "logs/a.log") = _ := hopen
  rw [hpath, openAppend_misplaced] at hrefused
  cases hrefused
  have hline : (refusal (.text "logs/a.log") (.system (PathError.missing.about "/logs/a.log"))
      0).line = .ok misplacedLine := eq_ok_of_toOption (by decide +kernel)
  refine ⟨hreturns (.inr hpassable), hended.outlets, ?_⟩
  rw [hended.shown _ hline]
  decide +kernel

/-- A log file with a NUL in its name. -/
def nulled : Settings := { plain with file := .text "a\x00b" }

/-- A log file with a surrogate in its name that stands for no byte. -/
def strayed : Settings := { plain with file := .text ['a', CodePoint.ofNat 0xD800] }

/-- Some names of log files keep the logger from being set up, and nothing is logged about them. -/
theorem setUp_failsUnpassed :
    ((initial false bareTree).setUp nulled 0).1 = .error .embeddedNull ∧
      ((initial false bareTree).setUp strayed 0).1 =
        .error (.unencodable ⟨CodePoint.ofNat 0xD800, 2, 3⟩) ∧
      ((initial false bareTree).setUp nulled 0).2.shown = [] ∧
      ((initial false bareTree).setUp strayed 0).2.shown = [] :=
  ⟨rfl, rfl, rfl, rfl⟩

end StaticHttp.Log.Logger
