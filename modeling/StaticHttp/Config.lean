import StaticHttp.Files.Tree
import StaticHttp.Json.Reading
import StaticHttp.Log.Entry

/-!
# Configuration

The settings come, in rising precedence, from the defaults, from a file that holds a JSON object,
and from values given directly.  A file that cannot be used is reported in the log and changes
nothing.

    what a file that loads writes are the members of its object, in their order
-/

namespace StaticHttp

/-- The settings. -/
structure Config where
  settings : Table

/-- What came of looking for a configuration file. -/
inductive Source
  | absent
  | refused (f : Failure)
  | content (bytes : Bytes)

/-- What came of loading a configuration: whether the file was used, the configuration after it, and
what there is to log. -/
structure Loading where
  outcome : Except Failure Bool
  config : Config
  report : List Log.Entry

namespace Config

/-- The settings that there always are, and their values if nothing else is said. -/
def standard : Config where
  settings :=
    [("host", .text "0.0.0.0"), ("port", .int 8080), ("document_root", .text "docs"),
      ("log_level", .text "INFO"), ("log_file", .null), ("log_max_size", .int 10485760),
      ("log_backup_count", .int 5), ("colored_logging", .bool true), ("connection_queue", .int 10),
      ("request_timeout", .null), ("recv_size", .int 1024)]

/-- The value of a setting, if it is set. -/
def get? (c : Config) (name : Text) : Option Value := Table.get? c.settings name

/-- The value of a setting, `null` if it is not set. -/
def get (c : Config) (name : Text) : Value := (c.get? name).getD .null

/-- The configuration with a setting written. -/
def set (c : Config) (name : Text) (value : Value) : Config :=
  { c with settings := Table.put name value c.settings }

/-- The configuration with settings written one after the other. -/
def setAll (c : Config) (entries : List (Text × Value)) : Config :=
  { c with settings := Table.putAll c.settings entries }

/-- The name under which loading a configuration logs. -/
def source : Text := "docserve.config"

/-- A text with every line ended by a line feed alone. -/
def plainLines : Text → Text
  | [] => []
  | c :: rest =>
    if c = '\r' then
      match rest with
      | [] => ['\n']
      | d :: more => if d = '\n' then '\n' :: plainLines more else '\n' :: plainLines (d :: more)
    else c :: plainLines rest

/-- The value that the bytes of a file spell. -/
def parse (bytes : Bytes) : Except Failure Value :=
  match Utf8.decode bytes with
  | .error fault => .error (.undecodable fault)
  | .ok text =>
    match Json.read? (plainLines text) with
    | .error r => .error (.ofRefusal r)
    | .ok v => .ok v

/-- The configuration after the file at a path, from what came of looking for it.  A refusal of the
operating system, and bytes that are not a JSON text, are reported; a text that nests too deeply
is the caller's to deal with. -/
def load (c : Config) (path : Text) (found : Source) : Loading :=
  let rejected (f : Failure) : Loading :=
    ⟨.ok false, c, [⟨source, Log.error, "Error loading configuration: " ++ f.message⟩]⟩
  match found with
  | .absent =>
    ⟨.ok false, c, [⟨source, Log.warning,
      "Configuration file " ++ path ++ " not found. Using defaults."⟩]⟩
  | .refused f => if f.isSystem || f.isBadValue then rejected f else ⟨.error f, c, []⟩
  | .content bytes =>
    match parse bytes with
    | .error f => if f.isBadValue then rejected f else ⟨.error f, c, []⟩
    | .ok (.table entries) =>
      ⟨.ok true, c.setAll entries, [⟨source, Log.info, "Loaded configuration from " ++ path⟩]⟩
    | .ok _ =>
      ⟨.ok false, c, [⟨source, Log.error,
        "Configuration in " ++ path ++ " must be a JSON object"⟩]⟩

/-- What a tree has at the path of a configuration file. -/
def look (t : Tree) (path : Text) : Source :=
  if t.exists? path then
    match t.read path with
    | .ok bytes => .content bytes
    | .error f => .refused f
  else .absent

/-- The path of the configuration file where none is given. -/
def standardPath : Text := "config.json"

/-- The configuration of a file, unless its path is missing or empty, and of values that take
precedence over it. -/
def build (find : Text → Source) (path : Option Text) (overrides : List (Text × Value)) : Loading :=
  let loading : Loading :=
    match path with
    | some (c :: p) => standard.load (c :: p) (find (c :: p))
    | _ => ⟨.ok false, standard, []⟩
  { loading with config := loading.config.setAll overrides }

/-- The names that values cannot be given directly under: they are those of what a configuration is
made from. -/
def reserved : List Text := ["self", "config_file"]

/-- The configuration of a file and of values under names, on behalf of `maker`. -/
def make (maker : Text) (find : Text → Source) (path : Option Text)
    (overrides : List (Text × Value)) : Loading :=
  match overrides.find? fun e => reserved.contains e.1 with
  | some (name, _) =>
    ⟨.error (.badSort (maker ++ ".__init__() got multiple values for argument '" ++ name ++
      "'")), standard, []⟩
  | none => build find path overrides

/-! ## Settings by name -/

def host (c : Config) : Value := c.get "host"

def port (c : Config) : Value := c.get "port"

def documentRoot (c : Config) : Value := c.get "document_root"

def connectionQueue (c : Config) : Value := c.get "connection_queue"

def requestTimeout (c : Config) : Value := c.get "request_timeout"

def receiveSize (c : Config) : Value := c.get "recv_size"

/-- What logging is set up with. -/
def logging (c : Config) : Log.Settings :=
  ⟨c.get "log_level", c.get "log_file", c.get "log_max_size", c.get "log_backup_count",
    c.get "colored_logging"⟩

/-! ## Lemmas -/

@[simp] theorem get?_set_self (c : Config) (name : Text) (value : Value) :
    (c.set name value).get? name = some value := Table.get?_put_self _ _ _

theorem get?_set_of_ne {name other : Text} (h : other ≠ name) (c : Config) (value : Value) :
    (c.set name value).get? other = c.get? other := Table.get?_put_of_ne h _ _

end Config

end StaticHttp
