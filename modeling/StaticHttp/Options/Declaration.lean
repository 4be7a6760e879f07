import StaticHttp.Value

/-!
# The options of the command line

An option is declared once: how it is spelled, what it takes, and what it is for.  Its usage and
help texts, and how it is read, follow from the declaration.
-/

namespace StaticHttp.Options

/-- What an option takes: nothing, in order to show the help or to turn something off, or one
value. -/
inductive Kind
  | help
  | switch
  | text
  | choice (values : List Text)
  | int
  | real
deriving DecidableEq

/-- An option: the name its value is kept under, its short spelling if it has one, its long
spelling, what it takes, and what it is for. -/
structure Declaration where
  name : Text
  short : Option Text
  long : Text
  kind : Kind
  purpose : Text
deriving DecidableEq

namespace Declaration

/-- Whether an option takes a value. -/
def takesValue (d : Declaration) : Bool :=
  match d.kind with
  | .help => false
  | .switch => false
  | _ => true

/-- The spellings of an option, the short one first. -/
def spellings (d : Declaration) : List Text := d.short.toList ++ [d.long]

/-- What stands for the value of an option in a usage text. -/
def placeholder (d : Declaration) : Text :=
  match d.kind with
  | .choice values => "\x7b" ++ ([',' ] : Text).intercalate values ++ "\x7d"
  | _ =>
    d.name.map fun c =>
      if 0x61 ≤ c.val ∧ c.val ≤ 0x7A then CodePoint.ofNat (c.val - 0x20) else c

/-- A spelling with what stands for the value behind it. -/
def shown (d : Declaration) (spelling : Text) : Text :=
  if d.takesValue then spelling ++ " " ++ d.placeholder else spelling

end Declaration

/-- The levels that can be chosen. -/
def levels : List Text := ["DEBUG", "INFO", "WARNING", "ERROR", "CRITICAL"]

/-- All options, in the order in which they are shown. -/
def all : List Declaration :=
  [⟨"help", some "-h", "--help", .help, "show this help message and exit"⟩,
    ⟨"host", some "-H", "--host", .text, "Host address to bind to"⟩,
    ⟨"port", some "-p", "--port", .int, "Port to listen on"⟩,
    ⟨"document_root", some "-d", "--document-root", .text, "Document root directory"⟩,
    ⟨"config", some "-c", "--config", .text, "Path to configuration file"⟩,
    ⟨"log_level", none, "--log-level", .choice levels, "Logging level"⟩,
    ⟨"log_file", none, "--log-file", .text, "Path to log file"⟩,
    ⟨"no_color", none, "--no-color", .switch, "Disable colored logging"⟩,
    ⟨"request_timeout", none, "--request-timeout", .real,
      "Per-connection read timeout in seconds"⟩,
    ⟨"connection_queue", none, "--connection-queue", .int, "Connection queue size"⟩]

/-- The option with a given spelling. -/
def find? (spelling : Text) : Option Declaration := all.find? fun d => d.spellings.contains spelling

end StaticHttp.Options
