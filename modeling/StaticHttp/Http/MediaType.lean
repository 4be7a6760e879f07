import StaticHttp.Text.CodePoint

/-!
# Media types

The media type of a document is told by its extension: what follows the last point of its
path.  Three extensions are registered; any other one, the empty one included, names a type of
text.
-/

namespace StaticHttp.MediaType

/-- The registered extensions and their types. -/
def registered : List (Text × Text) :=
  [("js", "text/javascript"), ("html", "text/html"), ("wasm", "application/wasm")]

/-- The media type of an extension. -/
def ofExtension (extension : Text) : Text :=
  match registered.lookup extension with
  | some type => type
  | none => "text/" ++ extension

/-- What follows the last point of a path, and nothing if there is no point. -/
def extension (path : Text) : Text := (Text.afterLast? '.' path).getD []

/-- The media type of a document, by its path. -/
def ofPath (path : Text) : Text := ofExtension (extension path)

example : ofPath "/a.b/app.js" = "text/javascript" := by decide

example : ofPath "/README" = "text/" := by decide

end StaticHttp.MediaType
