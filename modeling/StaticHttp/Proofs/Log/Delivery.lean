import StaticHttp.Proofs.Files.Appending
import StaticHttp.Proofs.Log.Reconfiguring

/-!
# Where records go

Whatever handlers a logger had, and however often it has been set up, its handlers are those of the
last time: the console, and behind it the log file if there is one.  The path of the log file leads
to the place that it was opened at, from its opening on, whatever is written and rolled over since.
So a record that is handled, has a line, and does not roll the file over is written once to the
console and once at the end of that file, and nothing else changes.

    s.step (.setUp settings second) = .ok t → ∃ file, t.Fitted _ file             (fitted_setUp)
    s.Fitted c file → ∃ file', (s.handle r).Fitted c file'                       (fitted_handle)
    after the last time the logger was set up, handlers and records              (after_delivers)
-/

namespace StaticHttp.Log

/-! ## The file -/

/-- The path of a log file leads to the place at which the file is open. -/
def File.StandsIn (f : File) (t : Tree) : Prop :=
  ∃ n, t.find f.path = .ok (.taken f.place n) ∧ n.TakesText

namespace File

variable {f f' : File} {t t' : Tree}

theorem StandsIn.append (h : f.StandsIn t) (bytes : Bytes) :
    f.StandsIn (t.append f.place bytes) := by
  obtain ⟨n, hfind, htext⟩ := h
  refine ⟨n.grown bytes, ?_, ?_⟩
  · rw [Tree.find_append hfind, if_pos rfl]
  · cases htext with
    | file => exact .file
    | sink => exact .sink

/-- A file that is opened again is opened by its path. -/
theorem standsIn_reopen (h : Disk.ofTree.reopen f t = some (f', t')) :
    f'.path = f.path ∧ f'.StandsIn t' := by
  obtain ⟨opened, u, hopened, hrest⟩ := Disk.bind_eq_some h
  cases hopen : t.openAppend f.path with
  | ok r =>
    simp only [Disk.ofTree, hopen] at hopened
    cases hopened
    cases hrest
    exact ⟨rfl, Tree.find_openAppend hopen⟩
  | error e =>
    simp only [Disk.ofTree, hopen] at hopened
    cases hopened
    cases hrest

theorem standsIn_renew (h : Disk.ofTree.renew f t = some (f', t')) :
    f'.path = f.path ∧ f'.StandsIn t' := by
  unfold Disk.renew at h
  rcases hcount : backupCount? f.backups with _ | _ | backups
  all_goals rw [hcount] at h
  · cases h
  · exact standsIn_reopen h
  · obtain ⟨_, _, _, hopen⟩ := Disk.bind_eq_some h
    exact standsIn_reopen hopen

theorem prepare_of_not_due {length : Nat} (hdue : f.isDue t length = false) :
    Disk.ofTree.prepare f length t = some (f, t) := by
  have hdisk : Disk.ofTree.prepare f length t =
      (if f.isDue t length then Disk.ofTree.renew f else pure f) t := rfl
  rw [hdisk, hdue]
  rfl

theorem standsIn_prepare {length : Nat} (h : f.StandsIn t)
    (hprepare : Disk.ofTree.prepare f length t = some (f', t')) :
    f'.path = f.path ∧ f'.StandsIn t' := by
  obtain ⟨due, u, hdue, hfile⟩ := Disk.bind_eq_some hprepare
  rw [Disk.isDue_ofTree] at hdue
  cases hdue
  split at hfile
  · exact standsIn_renew hfile
  · cases hfile
    exact ⟨rfl, h⟩

/-- The file and the tree in which a line is written at its end. -/
theorem write_of_not_due {line : Text} (hdue : f.isDue t (line ++ ("\n" : Text)).length = false)
    (hline : (line ++ ("\n" : Text)).any CodePoint.isSurrogate = false) :
    f.write t line = (f, t.append f.place ((line ++ ("\n" : Text)).flatMap Utf8.octets)) := by
  have hput : Disk.ofTree.put f (line ++ ("\n" : Text)) =
      Disk.ofTree.append f.place ((line ++ ("\n" : Text)).flatMap Utf8.octets) := by
    rw [Disk.put, hline]
    rfl
  have hwrite : Disk.ofTree.write f line t =
      (Disk.ofTree.prepare f (line ++ ("\n" : Text)).length t).bind fun r =>
        (Disk.ofTree.put r.1 (line ++ ("\n" : Text)) r.2).bind fun u => some (r.1, u.2) := rfl
  rw [write, hwrite, prepare_of_not_due hdue, Option.bind_some, hput]
  rfl

theorem standsIn_write (h : f.StandsIn t) (line : Text) :
    (f.write t line).1.path = f.path ∧ (f.write t line).1.StandsIn (f.write t line).2 := by
  unfold write
  cases hwrite : Disk.ofTree.write f line t with
  | none => exact ⟨rfl, h⟩
  | some r =>
    obtain ⟨g, u⟩ := r
    obtain ⟨f', t', hprepare, hrest⟩ := Disk.bind_eq_some hwrite
    obtain ⟨hpath, hstands⟩ := standsIn_prepare h hprepare
    obtain ⟨_, v, hput, hreturn⟩ := Disk.bind_eq_some hrest
    cases hreturn
    unfold Disk.put at hput
    split at hput
    · cases hput
      exact ⟨hpath, hstands⟩
    · cases hput
      exact ⟨hpath, hstands.append _⟩

theorem standsIn_logs (h : f.StandsIn t) (r : Record) :
    (f.logs t r).1.path = f.path ∧ (f.logs t r).1.StandsIn (f.logs t r).2 := by
  unfold logs
  split
  · exact standsIn_write h _
  · exact ⟨rfl, h⟩

end File

namespace Logger

variable {s t u : Logger}

/-! ## Handlers -/

variable {c : ConsoleHandler} {file : Option File}

/-- The handlers of a logger that has been set up: the console, and behind it the log file, if there
is one, which stands where its path leads. -/
inductive Fitted (s : Logger) (c : ConsoleHandler) : Option File → Prop
  | bare {n : Nat} : s.handlers = [⟨n, .console c⟩] → s.Fitted c none
  | filed {n m : Nat} {f : File} : s.handlers = [⟨n, .console c⟩, ⟨m, .file f⟩] →
      f.StandsIn s.tree → s.Fitted c (some f)

theorem Fitted.outlets (h : s.Fitted c file) :
    s.outlets = .console c :: file.toList.map .file := by
  unfold Logger.outlets
  cases h with
  | bare hhandlers =>
    rw [hhandlers]
    rfl
  | filed hhandlers _ =>
    rw [hhandlers]
    rfl

theorem Fitted.file_eq (h : s.Fitted c file) : s.file = file := by
  rw [Logger.file, h.outlets]
  cases file <;> rfl

/-- What a record does to a logger whose only handler is the console. -/
theorem handle_bare {n : Nat} {r : Record} (h : s.handlers = [⟨n, .console c⟩])
    (hlevel : 0 < r.level ∧ s.level ≤ r.level) :
    s.handle r = { s with shown := s.shown ++ c.prints s.terminal r } := by
  have hsome : s.handlers.isEmpty = false := by rw [h]; rfl
  rw [handle_of_handlers hlevel hsome]
  simp only [h, emitAll, emit_console (x := ⟨n, .console c⟩) rfl]

/-- What a record does to a logger with a console and a log file. -/
theorem handle_filed {n m : Nat} {f : File} {r : Record}
    (h : s.handlers = [⟨n, .console c⟩, ⟨m, .file f⟩]) (hlevel : 0 < r.level ∧ s.level ≤ r.level) :
    s.handle r = { s with
      shown := s.shown ++ c.prints s.terminal r
      handlers := [⟨n, .console c⟩, ⟨m, .file (f.logs s.tree r).1⟩]
      tree := (f.logs s.tree r).2 } := by
  have hsome : s.handlers.isEmpty = false := by rw [h]; rfl
  rw [handle_of_handlers hlevel hsome, h]
  simp only [emitAll, emit_console (x := ⟨n, .console c⟩) rfl, emit_file (x := ⟨m, .file f⟩) rfl]

/-- A record below the level does nothing. -/
theorem handle_of_not_level {r : Record} (hlevel : ¬ (0 < r.level ∧ s.level ≤ r.level)) :
    s.handle r = s := by
  unfold handle
  rw [if_neg (fun h => hlevel (isEnabled_iff.1 h))]

/-- A record leaves the handlers in their order, and the log file at its path. -/
theorem fitted_handle (h : s.Fitted c file) (r : Record) :
    ∃ file', (s.handle r).Fitted c file' ∧ file'.map File.path = file.map File.path := by
  by_cases hlevel : 0 < r.level ∧ s.level ≤ r.level
  · cases h with
    | bare hhandlers =>
      rw [handle_bare hhandlers hlevel]
      exact ⟨none, .bare hhandlers, rfl⟩
    | filed hhandlers hstands =>
      obtain ⟨hpath, hstands'⟩ := File.standsIn_logs hstands r
      rw [handle_filed hhandlers hlevel]
      exact ⟨_, .filed rfl hstands', congrArg some hpath⟩
  · rw [handle_of_not_level hlevel]
    exact ⟨file, h, rfl⟩

theorem fitted_foldl_handle (h : s.Fitted c file) (records : List Record) :
    ∃ file', (records.foldl handle s).Fitted c file' ∧
      file'.map File.path = file.map File.path := by
  induction records generalizing s file with
  | nil => exact ⟨file, h, rfl⟩
  | cons r records ih =>
    obtain ⟨file₁, hfitted₁, hpath₁⟩ := fitted_handle h r
    obtain ⟨file₂, hfitted₂, hpath₂⟩ := ih hfitted₁
    exact ⟨file₂, hfitted₂, hpath₂.trans hpath₁⟩

/-! ## Setting up -/

/-- The settings name a log file, and it can be opened in a tree by its absolute path. -/
def Names (settings : Settings) (tree : Tree) (path : Text) : Prop :=
  ∃ name opened, settings.file = .text name ∧ name ≠ [] ∧
    path = Path.absolute tree.herePath name ∧ tree.openAppend path = .ok opened

/-- A log file that is opened is the one of the path, and it can be opened. -/
theorem openAt_eq_ok {path maxSize backups : Value} {tree tree' : Tree} {f : File}
    (h : File.openAt path maxSize backups tree = .ok (f, tree')) :
    ∃ name, path = .text name ∧ f.path = Path.absolute tree.herePath name ∧
      tree.openAppend f.path = .ok (tree', f.place) := by
  unfold File.openAt at h
  split at h
  · cases h
  · next p hpath =>
    unfold File.pathFrom at hpath
    split at hpath
    · cases hpath
    · cases hpath
      split at h
      · next hopen =>
        cases h
        exact ⟨_, rfl, rfl, hopen⟩
      · cases h
    · cases hpath

/-- Where the operating system refuses a log file, the file cannot be opened. -/
theorem openAppend_of_openAt {name : Text} {maxSize backups : Value} {tree : Tree} {f : Failure}
    (h : File.openAt (.text name) maxSize backups tree = .error f) (hf : f.isSystem = true)
    (opened : Tree × Place) :
    tree.openAppend (Path.absolute tree.herePath name) ≠ .ok opened := by
  intro hopen
  unfold File.openAt File.pathFrom at h
  split at h
  · next hpath =>
    cases h
    split at hpath
    · cases hpath
      cases hf
    · cases hpath
    · cases hpath
  · next p hpath =>
    split at hpath
    · cases hpath
    · next heq =>
      cases heq
      cases hpath
      rw [hopen] at h
      cases h
    · next hne => exact (hne name rfl).elim

/-- What is logged about a log file that the operating system refuses. -/
def refusal (file : Value) (f : Failure) (second : Int) : Record :=
  ⟨⟨"root", error, "Error setting up log file " ++ file.display ++ ": " ++ f.message⟩, second⟩

/-- A logger whose console is set up gets its log file: none, the one that the settings name, or an
entry about the one that it should have had. -/
inductive Equips (s : Logger) (settings : Settings) (second : Int) : Logger → Prop
  | bare : settings.file.isTruthy = false → s.Equips settings second s
  | opened {f : File} {tree : Tree} : settings.file.isTruthy = true →
      File.openAt settings.file settings.maxSize settings.backups s.tree = .ok (f, tree) →
      s.Equips settings second ({ s with tree }.attach (.file f))
  | refused {f : Failure} : settings.file.isTruthy = true →
      File.openAt settings.file settings.maxSize settings.backups s.tree = .error f →
      f.isSystem = true → s.Equips settings second (s.handle (refusal settings.file f second))

theorem withFile_iff {settings : Settings} {second : Int} (hfile : settings.file.isTruthy = true) :
    s.withFile settings second = (.ok (), t) ↔ s.Equips settings second t := by
  unfold withFile
  constructor
  · intro h
    split at h
    · next f tree hopen =>
      cases h
      exact .opened hfile hopen
    · next f hopen =>
      unfold withoutFile at h
      split at h
      · next hf =>
        cases h
        exact .refused hfile hopen hf
      · cases h
  · intro h
    cases h with
    | bare hnone => cases hnone.symm.trans hfile
    | opened _ hopen => rw [hopen]
    | refused _ hopen hf =>
      rw [hopen]
      exact if_pos hf

/-- All that setting up can come to when it returns. -/
theorem step_setUp_equips_iff {settings : Settings} {second : Int} :
    s.step (.setUp settings second) = .ok t ↔ ∃ level, levelOf settings.level = .ok level ∧
      (s.withConsole level settings.colored.isTruthy).Equips settings second t := by
  have hpair : s.step (.setUp settings second) = .ok t ↔ s.setUp settings second = (.ok (), t) := by
    rw [step_setUp_iff, Prod.ext_iff, eq_comm (a := t)]
  rw [hpair, setUp]
  cases hlevel : levelOf settings.level with
  | error f => simp
  | ok level =>
    simp only [Except.ok.injEq, exists_eq_left']
    by_cases hfile : settings.file.isTruthy = true
    · rw [if_pos hfile, withFile_iff hfile]
    · rw [if_neg hfile]
      constructor
      · intro h
        cases h
        exact .bare (Bool.eq_false_iff.2 hfile)
      · intro h
        cases h with
        | bare _ => rfl
        | opened htrue _ => exact absurd htrue hfile
        | refused htrue _ _ => exact absurd htrue hfile

/-- A logger with a console alone gets the log file that the settings name, if it can be opened, and
no other. -/
theorem fitted_equips {n : Nat} {settings : Settings} {second : Int}
    (hhandlers : s.handlers = [⟨n, .console c⟩]) (hfresh : n ≠ s.made)
    (h : s.Equips settings second t) :
    ∃ file, t.Fitted c file ∧
      ∀ path, file.map File.path = some path ↔ Names settings s.tree path := by
  cases h with
  | bare hfile =>
    refine ⟨none, .bare hhandlers, fun path => ?_⟩
    constructor
    · intro heq
      cases heq
    · rintro ⟨name, _, hname, hne, _, _⟩
      rw [hname] at hfile
      exact absurd (by simpa [Value.isTruthy] using hfile) hne
  | @opened f tree hfile hopen =>
    obtain ⟨name, hname, hpath, hplace⟩ := openAt_eq_ok hopen
    have hne : name ≠ [] := by
      rintro rfl
      rw [hname] at hfile
      cases hfile
    have hnew : ∀ x ∈ ({ s with tree } : Logger).handlers, x.number ≠ s.made := by
      simpa [hhandlers] using hfresh
    refine ⟨some f, ?_, fun path => ?_⟩
    · rw [attach_of_fresh hnew]
      refine .filed (n := n) (m := s.made) ?_ (Tree.find_openAppend hplace)
      simp only [hhandlers, List.singleton_append]
    · constructor
      · intro heq
        cases heq
        exact ⟨name, _, hname, hne, hpath, hplace⟩
      · rintro ⟨name', _, hname', _, rfl, _⟩
        rw [hname] at hname'
        cases hname'
        exact congrArg some hpath
  | @refused f hfile hopen hf =>
    obtain ⟨file, hfitted, hpath⟩ := fitted_handle (.bare hhandlers)
      (refusal settings.file f second)
    refine ⟨file, hfitted, fun path => ?_⟩
    rw [hpath]
    constructor
    · intro heq
      cases heq
    · rintro ⟨name, opened, hname, _, rfl, hplace⟩
      rw [hname] at hopen
      exact absurd hplace (openAppend_of_openAt hopen hf opened)

/-- Whatever handlers there were, setting up leaves the console, and behind it the log file that the
settings name, if it can be opened. -/
theorem fitted_setUp {settings : Settings} {second : Int}
    (h : s.step (.setUp settings second) = .ok t) :
    ∃ file, t.Fitted ⟨settings.colored.isTruthy, t.wrappers⟩ file ∧
      levelOf settings.level = .ok t.level ∧
      ∀ path, file.map File.path = some path ↔ Names settings s.tree path := by
  obtain ⟨level, hlevel, hequips⟩ := step_setUp_equips_iff.1 h
  obtain ⟨_, rfl⟩ := step_setUp_iff.1 h
  have hface := face_setUp hlevel s second
  have hfresh : s.made ≠ (s.withConsole level settings.colored.isTruthy).made := by
    rw [withConsole_eq]
    show s.made ≠ s.made + 1
    omega
  obtain ⟨file, hfitted, hnames⟩ := fitted_equips (handlers_withConsole s level _) hfresh hequips
  rw [tree_withConsole] at hnames
  have hwrappers : (s.setUp settings second).2.wrappers =
      (s.withConsole level settings.colored.isTruthy).wrappers := congrArg Face.wrappers hface
  have hlevel' : (s.setUp settings second).2.level =
      (s.withConsole level settings.colored.isTruthy).level := congrArg Face.level hface
  refine ⟨file, ?_, ?_, hnames⟩
  · rw [hwrappers]
    exact hfitted
  · rw [hlevel, hlevel', level_withConsole]

/-! ## Records -/

theorem after_map_handle (records : List Record) :
    s.after (records.map .handle) = .ok (records.foldl handle s) := by
  induction records generalizing s with
  | nil => rfl
  | cons r records ih => exact ih

/-- A record is written once, as a line, to the stream of the console handler `c` and at the end of
the log file; the handlers stay, and every path that does not lead to the log file leads to the same
as before. -/
structure Delivers (s : Logger) (c : ConsoleHandler) (r : Record) (line : Text) : Prop where
  shown : (s.handle r).shown = s.shown ++
    Console.write s.terminal c.wrappers (ConsoleHandler.shown c r.level line ++ "\n")
  handlers : (s.handle r).handlers = s.handlers
  file : ∀ f, s.file = some f → ∃ n, n.TakesText ∧ s.tree.find f.path = .ok (.taken f.place n) ∧
    (s.handle r).tree.find f.path =
      .ok (.taken f.place (n.grown ((line ++ ("\n" : Text)).flatMap Utf8.octets)))
  others : ∀ path p n, s.tree.find path = .ok (.taken p n) →
    (∀ f, s.file = some f → f.place ≠ p) → (s.handle r).tree.find path = .ok (.taken p n)

/-- A logger with a console and perhaps a log file delivers every record that is loud enough, has a
line without surrogates and does not roll the log file over. -/
theorem handle_delivers {r : Record} {line : Text} (h : s.Fitted c file) (hpos : 0 < r.level)
    (hlevel : s.level ≤ r.level) (hline : r.line = .ok line)
    (hplain : line.any CodePoint.isSurrogate = false)
    (hdue : ∀ f, file = some f → f.isDue s.tree (line ++ ("\n" : Text)).length = false) :
    s.Delivers c r line := by
  have hshown : c.prints s.terminal r =
      Console.write s.terminal c.wrappers (ConsoleHandler.shown c r.level line ++ "\n") := by
    rw [ConsoleHandler.prints, hline]
  have hfile := h.file_eq
  cases h with
  | bare hhandlers =>
    have hhandle := handle_bare hhandlers ⟨hpos, hlevel⟩
    rw [hshown] at hhandle
    refine ⟨by rw [hhandle], by rw [hhandle], ?_, ?_⟩
    · intro f hsome
      rw [hfile] at hsome
      cases hsome
    · intro path p n hfind _
      rw [hhandle]
      exact hfind
  | @filed _ _ f hhandlers hstands =>
    have hnewline : (line ++ ("\n" : Text)).any CodePoint.isSurrogate = false := by
      rw [List.any_append, hplain]
      decide
    have hlogs : f.logs s.tree r = _ :=
      (by rw [File.logs, hline] : f.logs s.tree r = f.write s.tree line).trans
        (File.write_of_not_due (hdue f rfl) hnewline)
    have hhandle := handle_filed hhandlers ⟨hpos, hlevel⟩
    rw [hshown, hlogs] at hhandle
    obtain ⟨n, hfind, htext⟩ := hstands
    refine ⟨by rw [hhandle], by rw [hhandle, hhandlers], ?_, ?_⟩
    · intro f' hsome
      rw [hfile] at hsome
      cases hsome
      refine ⟨n, htext, hfind, ?_⟩
      rw [hhandle]
      show (s.tree.append _ _).find _ = _
      rw [Tree.find_append hfind, if_pos rfl]
    · intro path p n' hfind' hother
      rw [hhandle]
      show (s.tree.append _ _).find _ = _
      rw [Tree.find_append hfind', if_neg (Ne.symm (hother f hfile))]

/-- **After any number of times that a logger was set up, whatever its handlers were before, they
are those of the last time**: the console, coloured if the last settings say so, and behind it the
file that they name, if it can be opened.  Every later record above level 0 that reaches their
level, has a line without surrogates and does not roll the file over is written once to each of
them. -/
theorem after_delivers {earlier : List Step} {settings : Settings} {second : Int} {past : List Record}
    (h : s.after (earlier ++ .setUp settings second :: past.map .handle) = .ok t) :
    ∃ u c, s.after earlier = .ok u ∧
      levelOf settings.level = .ok t.level ∧ c = ⟨settings.colored.isTruthy, t.wrappers⟩ ∧
      t.outlets = .console c :: t.file.toList.map .file ∧
      (∀ path, t.file.map File.path = some path ↔ Names settings u.tree path) ∧
      ∀ r line, 0 < r.level → t.level ≤ r.level → r.line = .ok line →
        line.any CodePoint.isSurrogate = false →
        (∀ f, t.file = some f → f.isDue t.tree (line ++ ("\n" : Text)).length = false) →
        t.Delivers c r line := by
  obtain ⟨u, hearlier, hlast⟩ := after_append_iff.1 h
  obtain ⟨v, hstep, hpast⟩ := after_cons_iff.1 hlast
  rw [after_map_handle] at hpast
  obtain rfl := Except.ok.inj hpast
  obtain ⟨file, hfitted, hlevel, hnames⟩ := fitted_setUp hstep
  obtain ⟨file', hfitted', hpath⟩ := fitted_foldl_handle hfitted past
  have hface := face_foldl_handle v past
  have hlevel' : (past.foldl handle v).level = v.level := congrArg Face.level hface
  have hwrappers : (past.foldl handle v).wrappers = v.wrappers := congrArg Face.wrappers hface
  have hfile := hfitted'.file_eq
  refine ⟨u, _, hearlier, ?_, rfl, ?_, ?_, ?_⟩
  · rw [hlevel']
    exact hlevel
  · rw [hwrappers, hfile]
    exact hfitted'.outlets
  · intro path
    rw [hfile, hpath, hnames]
  · intro r line hpos hloud hline hplain hdue
    rw [hwrappers]
    exact handle_delivers hfitted' hpos hloud hline hplain (hfile ▸ hdue)

/-- A plain console, and a log file that never grows too large. -/
def logged : Settings := { plain with file := .text "a.log", maxSize := .int 0 }

/-- The log file of these settings on a machine without files. -/
def loggedFile : File := ⟨"/a.log", [Bytes.ofAscii "a.log"], .int 0, .int 5⟩

theorem openAppend_bareTree :
    bareTree.openAppend "/a.log" =
      .ok (bareTree.put [Bytes.ofAscii "a.log"] (.file []), [Bytes.ofAscii "a.log"]) := by
  have hbytes : Tree.pathBytes "/a.log" = .ok (Bytes.ofAscii "/a.log") := rfl
  have hname : ¬ (Bytes.ofAscii "a.log" = [] ∨ Bytes.ofAscii "a.log" = [0x2E]) := by decide
  have hup : Bytes.ofAscii "a.log" ≠ [0x2E, 0x2E] := by decide
  have hlong : ¬ Tree.maxName < (Bytes.ofAscii "a.log").length := by decide
  have hat : bareTree.at? ([] ++ [Bytes.ofAscii "a.log"]) = none := rfl
  have hwalk : bareTree.walk true Tree.maxLinks [] [[], Bytes.ofAscii "a.log"] =
      .ok (.free [Bytes.ofAscii "a.log"]) := by
    rw [Tree.walk, if_pos (.inl rfl), Tree.walk, if_neg hname, if_neg hup, if_neg hlong, hat]
    rfl
  have hlocate : bareTree.locate true (Bytes.ofAscii "/a.log") =
      .ok (.free [Bytes.ofAscii "a.log"]) := hwalk
  simp only [Tree.openAppend, Tree.find, hbytes, hlocate]

theorem setUp_logged (h : s.tree = bareTree) :
    s.setUp logged 1 = (.ok (), { s with
      level := info
      handlers := [⟨s.made, .console ⟨false, s.wrappers⟩⟩, ⟨s.made + 1, .file loggedFile⟩]
      made := s.made + 2
      tree := bareTree.put [Bytes.ofAscii "a.log"] (.file []) }) := by
  have hlevel : levelOf logged.level = .ok info := rfl
  have hpath : File.pathFrom bareTree.herePath logged.file logged.maxSize = .ok "/a.log" := rfl
  have hopen : File.openAt logged.file logged.maxSize logged.backups bareTree =
      .ok (loggedFile, bareTree.put [Bytes.ofAscii "a.log"] (.file [])) := by
    simp only [File.openAt, hpath, openAppend_bareTree]
    rfl
  have hcolored : logged.colored.isTruthy = false := rfl
  have hfile : logged.file.isTruthy = true := rfl
  simp only [setUp, hlevel, hfile, if_true, withFile, tree_withConsole, h, hopen]
  rw [hcolored, withConsole_eq, attach_of_fresh (by simp)]
  rfl

theorem loggedFile_not_due (tree : Tree) (length : Nat) :
    loggedFile.isDue tree length = false := by
  have hreaches : ∀ size, File.reaches loggedFile.maxSize size = false := fun _ => rfl
  rw [File.isDue, hreaches, Bool.and_false]

theorem eq_ok_of_toOption {α : Type} {x : Except Failure α} {a : α} (h : x.toOption = some a) :
    x = .ok a := by
  cases x with
  | ok b => exact congrArg Except.ok (Option.some.inj h)
  | error f => cases h

/-- A logger with two consoles and, between them, a log file that is gone. -/
def crowded : Logger :=
  { initial false bareTree with
    handlers := [⟨0, .console ⟨false, 0⟩⟩, ⟨1, .file loggedFile⟩, ⟨2, .console ⟨true, 0⟩⟩]
    made := 3 }

/-- A coloured console in place of others, and then a plain console and a file. -/
theorem after_delivers_logged :
    ∃ t c, crowded.after ([.setUp .standard 0] ++ .setUp logged 1 :: [].map .handle) = .ok t ∧
      t.outlets = [.console c, .file loggedFile] ∧
      t.Delivers c greeting "1970-01-01 00:00:00 - WebServer - INFO - hello" := by
  have hfirst : crowded.step (.setUp .standard 0) = .ok (crowded.setUp .standard 0).2 := rfl
  have htree : (crowded.setUp .standard 0).2.tree = bareTree := rfl
  have hsecond := step_setUp_iff.2 ⟨congrArg Prod.fst (setUp_logged htree), rfl⟩
  have h : crowded.after ([.setUp .standard 0] ++ .setUp logged 1 :: [].map .handle) = _ :=
    after_cons_iff.2 ⟨_, hfirst, after_cons_iff.2 ⟨_, hsecond, rfl⟩⟩
  obtain ⟨_, c, _, _, _, houtlets, _, hdelivers⟩ := after_delivers h
  have hline : greeting.line = .ok "1970-01-01 00:00:00 - WebServer - INFO - hello" :=
    eq_ok_of_toOption (by decide +kernel)
  rw [setUp_logged htree] at h houtlets hdelivers
  refine ⟨_, c, h, houtlets, hdelivers _ _ (by decide) (by decide) hline (by decide) ?_⟩
  intro f hf
  cases hf
  exact loggedFile_not_due _ _

/-- A record of level 0. -/
def trifle : Record := ⟨⟨"WebServer", 0, "hello"⟩, 0⟩

/-- A record of level 0 is lost by a logger whose level is 0. -/
theorem handle_losesUnset :
    ∃ t, (initial false bareTree).after
        ([] ++ .setUp { plain with level := .text "NOTSET" } 0 :: [].map .handle) = .ok t ∧
      t.level ≤ trifle.level ∧ trifle.line = .ok "1970-01-01 00:00:00 - WebServer - NOTSET - hello" ∧
      t.outlets = [.console ⟨false, 0⟩] ∧ t.shown = [] ∧ (t.handle trifle).shown = [] := by
  have hline : trifle.line = .ok "1970-01-01 00:00:00 - WebServer - NOTSET - hello" :=
    eq_ok_of_toOption (by decide +kernel)
  exact ⟨_, rfl, by decide, hline, rfl, rfl, rfl⟩

end Logger

end StaticHttp.Log
