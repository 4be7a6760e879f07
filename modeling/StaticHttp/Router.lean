import StaticHttp.Files.Tree
import StaticHttp.History
import StaticHttp.Http.MediaType
import StaticHttp.Http.Response
import StaticHttp.Connection

/-!
# From paths to responses

A router answers a requested path with the document at the same path below its root: the two
texts are put together as they are, without looking at what `..` in them would mean.  A
document that is not there is answered with 404, one that cannot be read with 500, and any other
failure is the caller's.
-/

namespace StaticHttp

/-- How documents are loaded: what the path leads to, given what has happened so far. -/
abbrev Loader := History → Text → Except Failure Bytes

namespace Loader

/-- What it means for a document that its file could not be opened or read. -/
def failureFor (path : Text) (f : Failure) : Failure :=
  match f with
  | .system e =>
    if e.sort = .notFound ∨ e.number = some 2 ∨ e.number = some 20 then
      .document (some .notFound) (some path) (some f.message)
    else .document (some .unreadable) (some path) (some f.message)
  | f => if f.isBadValue then .document (some .unreadable) (some path) (some f.message) else f

/-- A document, from the outcome of opening and reading its file. -/
def document (path : Text) (outcome : Except Failure Bytes) : Except Failure Bytes :=
  match outcome with
  | .ok body => .ok body
  | .error f => .error (failureFor path f)

/-- Documents are the files of a tree. -/
def ofTree (t : Tree) : Loader := fun _ path => document path (t.read path)

/-- Documents are given one after the other, and none after the last. -/
def ofAnswers (answers : List (Text → Except Failure Bytes)) : Loader := fun h path =>
  match answers[h.loads]? with
  | some answer => answer path
  | none => .error (.document (some .notFound) (some path) none)

end Loader

/-- A router: its root and how it loads documents. -/
structure Router where
  root : Value
  load : Loader

namespace Router

/-- The path of the home page. -/
def homePage : Text := "/index.html"

/-- The path that is answered for a requested path. -/
def target (path : Text) : Text := if path = "/" then homePage else path

/-- The name under which a router logs. -/
def source : Text := "FileRouter"

/-- The path of the file for a requested path.  The root has to be a text. -/
def filePath (r : Router) (path : Text) : Except Failure Text :=
  match r.root with
  | .text root => .ok (root ++ path)
  | v => .error (.notJoinable v)

/-- The response to a requested path, from the outcome of loading its file; what is logged is
added to the history. -/
def respond (path file : Text) (outcome : Except Failure Bytes) : Run History Response := fun h =>
  match outcome with
  | .ok body => .ok (.document (MediaType.ofPath path) body) h
  | .error (.document (some .notFound) _ _) =>
    .ok .notFound (h.log source Log.info ("Not found: " ++ file))
  | .error (.document (some .unreadable) p reason) =>
    let f := Failure.document (some .unreadable) p reason
    .ok .internalError
      (h.log source Log.error ("Error reading file " ++ file ++ ": " ++ f.message))
  | .error f => .error f h

/-- The response to a requested path. -/
def route (r : Router) (path : Text) : Run History Response := fun h =>
  let path := target path
  match r.filePath path with
  | .error f => .error f h
  | .ok file => respond path file (r.load h file) (h.push (.load file))

end Router

end StaticHttp
