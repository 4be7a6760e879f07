import StaticHttp.Text.Utf8

/-!
# Paths

A path is a text whose parts are separated by slashes.  `absolute` makes a path absolute and
takes out what does not lead anywhere, by its spelling alone; `split` gives the names that a
path spells, in bytes, as they are looked up.
-/

namespace StaticHttp.Path

/-- The slash between the parts of a path. -/
def slash : CodePoint := '/'

/-- One part of a path after the parts in front of it, last first: empty parts and `.` are left
out, and `..` takes away the part in front of it.  Above the root there is only the root. -/
def simplify (rooted : Bool) (front : List Text) (part : Text) : List Text :=
  if part = [] ∨ part = "." then front
  else if part = ".." then
    match front with
    | [] => if rooted then [] else [part]
    | last :: rest => if last = ".." then part :: front else rest
  else part :: front

/-- The slashes that a path starts with: two of them stay two, any other number is one. -/
def leadingSlashes (path : Text) : Nat :=
  match (path.takeWhile (· = slash)).length with
  | 0 => 0
  | 2 => 2
  | _ => 1

/-- A path without empty parts, without `.`, and with `..` only where nothing is in front of it. -/
def normal (path : Text) : Text :=
  let leading := leadingSlashes path
  let parts := (pieces (· = slash) path).foldl (simplify (0 < leading)) []
  let spelled := List.replicate leading slash ++ [slash].intercalate parts.reverse
  if spelled.isEmpty then "." else spelled

/-- A path from the root, for a path that may start at the folder `here`. -/
def absolute (here path : Text) : Text :=
  normal (if path.head? = some slash then path else here ++ slash :: path)

/-- The names that a path in bytes spells: what lies between its slashes. -/
def split (path : Bytes) : List Bytes := pieces (· = 0x2F) path

example : absolute "/w" "a/../b//./c" = "/w/b/c" := by decide

end StaticHttp.Path
