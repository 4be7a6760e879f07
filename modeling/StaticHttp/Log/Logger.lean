import StaticHttp.Log.Console
import StaticHttp.Log.File
import StaticHttp.Text.Capital

/-!
# The logger

Records at or above the logger's level go to its handlers, one after the other: to the console, and
to a log file if there is one.  Without a handler the bare messages of warnings and worse go to the
console all the same.  Setting the logger up takes the handlers that it has away one by one and
gives it new ones, but a wrapper that was put around the console stays there.

    s.removeHandlers = { s with handlers := [] }                          (removeHandlers_eq)
    (s.withConsole level colored).handlers = [⟨s.made, .console _⟩]        (handlers_withConsole)
-/

namespace StaticHttp.Log

/-- The console as a handler: whether it colours its lines, and the wrappers that were around the
console when the handler was made. -/
structure ConsoleHandler where
  colored : Bool
  wrappers : Nat
deriving DecidableEq

/-- Where a handler writes: to the console, or to a log file. -/
inductive Outlet
  | console (c : ConsoleHandler)
  | file (f : File)

/-- The console handler that an outlet is, if it is one. -/
def Outlet.console? : Outlet → Option ConsoleHandler
  | console c => some c
  | file _ => none

/-- The log file that an outlet is, if it is one. -/
def Outlet.file? : Outlet → Option File
  | console _ => none
  | file f => some f

/-- A handler of the logger.  Handlers are told apart by number. -/
structure Handler where
  number : Nat
  outlet : Outlet

/-- The logger: whether the console is a terminal, the wrappers around it, the level, the handlers
in the order in which they were added, how many handlers have been made, what has appeared on the
console, and the files. -/
structure Logger where
  terminal : Bool
  wrappers : Nat
  level : Int
  handlers : List Handler
  made : Nat
  shown : Text
  tree : Tree

/-- The names that settings are given under. -/
def Settings.names : List Text :=
  ["log_level", "log_file", "max_size", "backup_count", "use_colored_logging"]

/-- The settings that are given under their names, and the standard ones for the rest. -/
def Settings.ofTable (t : Table) : Except Failure Settings :=
  match t.find? fun e => !names.contains e.1 with
  | some (name, _) =>
    .error (.badSort ("setup_logging() got an unexpected keyword argument '" ++ name ++ "'"))
  | none =>
    let get (name : Text) (other : Value) : Value := (Table.get? t name).getD other
    .ok ⟨get "log_level" standard.level, get "log_file" standard.file,
      get "max_size" standard.maxSize, get "backup_count" standard.backups,
      get "use_colored_logging" standard.colored⟩

namespace Logger

/-- The logger before it is set up. -/
def initial (terminal : Bool) (tree : Tree) : Logger := ⟨terminal, 0, warning, [], 0, [], tree⟩

/-- What the handlers write to, in their order. -/
def outlets (s : Logger) : List Outlet := s.handlers.map (·.outlet)

/-- The first of the console handlers. -/
def console (s : Logger) : Option ConsoleHandler := s.outlets.findSome? Outlet.console?

/-- The first of the log files. -/
def file (s : Logger) : Option File := s.outlets.findSome? Outlet.file?

/-! ## Records -/

/-- Whether records of a level are handled. -/
def isEnabled (s : Logger) (level : Int) : Bool := 0 < level && s.level ≤ level

/-- The logger with a text written to the console through a number of wrappers. -/
def print (s : Logger) (wrappers : Nat) (t : Text) : Logger :=
  { s with shown := s.shown ++ Console.write s.terminal wrappers t }

/-- How a line appears on the console. -/
def ConsoleHandler.shown (h : ConsoleHandler) (level : Int) (line : Text) : Text :=
  if h.colored then Log.colored level line else line

/-- A handler, and the logger, after the handler has written a record; a record without a line is
lost. -/
def emit (s : Logger) (r : Record) (h : Handler) : Handler × Logger :=
  match r.line with
  | .error _ => (h, s)
  | .ok line =>
    match h.outlet with
    | .console c => (h, s.print c.wrappers (ConsoleHandler.shown c r.level line ++ "\n"))
    | .file f =>
      let (f, tree) := f.write s.tree line
      ({ h with outlet := .file f }, { s with tree })

/-- Handlers, and the logger, after the handlers have written a record one after the other. -/
def emitAll (r : Record) : List Handler → Logger → List Handler × Logger
  | [], s => ([], s)
  | h :: rest, s =>
    let (h, s) := s.emit r h
    let (rest, s) := emitAll r rest s
    (h :: rest, s)

/-- The logger after a record. -/
def handle (s : Logger) (r : Record) : Logger :=
  if s.isEnabled r.level then
    if s.handlers.isEmpty then
      if warning ≤ r.level then s.print s.wrappers (r.message ++ "\n") else s
    else
      let (handlers, s) := emitAll r s.handlers s
      { s with handlers }
  else s

/-! ## Handlers -/

/-- The logger without a handler. -/
def removeHandler (s : Logger) (h : Handler) : Logger :=
  { s with handlers := s.handlers.eraseP (·.number = h.number) }

/-- The logger with a handler behind the others, unless it has it already. -/
def addHandler (s : Logger) (h : Handler) : Logger :=
  if s.handlers.any (·.number = h.number) then s else { s with handlers := s.handlers ++ [h] }

/-- The logger after the handlers that it had are removed one after the other. -/
def removeHandlers (s : Logger) : Logger := s.handlers.foldl removeHandler s

/-- The logger with a new handler. -/
def attach (s : Logger) (o : Outlet) : Logger :=
  { s with made := s.made + 1 }.addHandler ⟨s.made, o⟩

/-! ## Setting up -/

/-- The names of levels. -/
def levelNames : List (Text × Int) :=
  [("DEBUG", debug), ("INFO", info), ("WARNING", warning), ("WARN", warning), ("ERROR", error),
    ("CRITICAL", critical), ("FATAL", critical), ("NOTSET", 0)]

/-- The level that a setting names in any case; INFO if it names none.  Two names are taken by
something that is no level. -/
def levelOf (setting : Value) : Except Failure Int :=
  let name := Text.capitals setting.display
  match levelNames.lookup name with
  | some level => .ok level
  | none =>
    if name = "BASIC_FORMAT" then
      .error (.badValue "Unknown level: '%(levelname)s:%(name)s:%(message)s'")
    else if name = "_STYLES" then
      .error (.badSort ("Level not an integer or a valid string: " ++
        "\x7b'%': (<class 'logging.PercentStyle'>, '%(levelname)s:%(name)s:%(message)s'), " ++
        "'\x7b': (<class 'logging.StrFormatStyle'>, " ++
        "'\x7blevelname\x7d:\x7bname\x7d:\x7bmessage\x7d'), " ++
        "'$': (<class 'logging.StringTemplateStyle'>, " ++
        "'$\x7blevelname\x7d:$\x7bname\x7d:$\x7bmessage\x7d')\x7d"))
    else .ok info

/-- The logger with a console handler in place of the handlers that it had.  Colours put one more
wrapper around the console. -/
def withConsole (s : Logger) (level : Int) (colored : Bool) : Logger :=
  let wrappers := if colored then s.wrappers + 1 else s.wrappers
  { s with level, wrappers }.removeHandlers.attach (.console ⟨colored, wrappers⟩)

/-- The logger without the log file that it should have had.  If the operating system refused the
file, that is logged at the given second; any other failure is the caller's. -/
def withoutFile (s : Logger) (file : Value) (f : Failure) (second : Int) :
    Except Failure Unit × Logger :=
  if f.isSystem then
    let message := "Error setting up log file " ++ file.display ++ ": " ++ f.message
    (.ok (), s.handle ⟨⟨"root", error, message⟩, second⟩)
  else (.error f, s)

/-- The logger with a log file as its next handler. -/
def withFile (s : Logger) (settings : Settings) (second : Int) : Except Failure Unit × Logger :=
  match File.openAt settings.file settings.maxSize settings.backups s.tree with
  | .ok (f, tree) => (.ok (), { s with tree }.attach (.file f))
  | .error f => s.withoutFile settings.file f second

/-- The logger set up anew. -/
def setUp (s : Logger) (settings : Settings) (second : Int) : Except Failure Unit × Logger :=
  match levelOf settings.level with
  | .error f => (.error f, s)
  | .ok level =>
    let s := s.withConsole level settings.colored.isTruthy
    if settings.file.isTruthy then s.withFile settings second else (.ok (), s)

/-! ## Lemmas -/

/-- The handlers that have been gone over are gone, and the others are left. -/
theorem foldl_removeHandler (hs rest : List Handler) {s : Logger} (h : s.handlers = hs ++ rest) :
    hs.foldl removeHandler s = { s with handlers := rest } := by
  induction hs generalizing s with
  | nil =>
    rw [List.nil_append] at h
    rw [← h, List.foldl_nil]
  | cons x hs ih =>
    have hfirst : (s.removeHandler x).handlers = hs ++ rest := by
      show s.handlers.eraseP (fun y => y.number = x.number) = _
      rw [h, List.cons_append, List.eraseP_cons, decide_eq_true rfl, cond_true]
    rw [List.foldl_cons, ih hfirst]
    rfl

/-- The loop goes over the handlers as they were when it began, so none is left. -/
theorem removeHandlers_eq (s : Logger) : s.removeHandlers = { s with handlers := [] } :=
  foldl_removeHandler s.handlers [] (List.append_nil _).symm

theorem attach_of_fresh {s : Logger} (h : ∀ x ∈ s.handlers, x.number ≠ s.made) (o : Outlet) :
    s.attach o = { s with handlers := s.handlers ++ [⟨s.made, o⟩], made := s.made + 1 } := by
  have hnew : (s.handlers.any fun x => x.number = s.made) = false := by
    simpa using h
  unfold attach addHandler
  simp only [hnew, Bool.false_eq_true, if_false]

theorem withConsole_eq (s : Logger) (level : Int) (colored : Bool) :
    s.withConsole level colored =
      let wrappers := if colored then s.wrappers + 1 else s.wrappers
      { s with
        level, wrappers
        handlers := [⟨s.made, .console ⟨colored, wrappers⟩⟩]
        made := s.made + 1 } := by
  unfold withConsole
  simp only [removeHandlers_eq]
  rw [attach_of_fresh (by simp)]
  rfl

@[simp] theorem tree_withConsole (s : Logger) (level : Int) (colored : Bool) :
    (s.withConsole level colored).tree = s.tree := by
  rw [withConsole_eq]

@[simp] theorem level_withConsole (s : Logger) (level : Int) (colored : Bool) :
    (s.withConsole level colored).level = level := by
  rw [withConsole_eq]

theorem handlers_withConsole (s : Logger) (level : Int) (colored : Bool) :
    (s.withConsole level colored).handlers =
      [⟨s.made, .console ⟨colored, (s.withConsole level colored).wrappers⟩⟩] := by
  rw [withConsole_eq]

end Logger

end StaticHttp.Log
