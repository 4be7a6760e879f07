import StaticHttp.Failure
import StaticHttp.Files.Path

/-!
# A tree of files

A tree says what lies at which place; a place is the list of names that lead to it from the
root.  A path is looked up name by name: links are followed, at most forty of them, `..` goes
one place up, and nothing but a folder can be passed through.  What a path names, or why it
names nothing, is decided by `find`; reading, writing and renaming are built on it.

    (t.put p n).at? p = some n                          (at?_put_self)
    (t.put p n).at? p' = t.at? p'      for p' ≠ p        (at?_put_of_ne)
-/

namespace StaticHttp

/-- The names that lead to a place from the root. -/
abbrev Place := List Bytes

/-- What can lie at a place.  A sink takes anything that is written to it and holds nothing. -/
inductive Node
  | file (content : Bytes)
  | folder
  | link (target : Bytes)
  | sink
deriving DecidableEq

/-- What lies at the places below the root, and the folder in which relative paths start. -/
structure Tree where
  entries : List (Place × Node)
  here : Place

namespace Tree

/-- What lies at a place.  The root is always a folder. -/
def at? (t : Tree) (p : Place) : Option Node :=
  if p = [] then some .folder else t.entries.lookup p

/-- The tree with something put at a place, in the place of what was there. -/
def put (t : Tree) (p : Place) (n : Node) : Tree :=
  { t with entries := (p, n) :: t.entries.filter (·.1 ≠ p) }

/-- The tree without what lies at a place. -/
def remove (t : Tree) (p : Place) : Tree := { t with entries := t.entries.filter (·.1 ≠ p) }

/-- The tree with what lies at or below one place moved to another. -/
def move (t : Tree) (source target : Place) : Tree :=
  let moved := t.entries.filter fun e => source.isPrefixOf e.1
  let kept := t.entries.filter fun e => !source.isPrefixOf e.1 && !target.isPrefixOf e.1
  { t with entries := moved.map (fun e => (target ++ e.1.drop source.length, e.2)) ++ kept }

/-! ## Looking up a path -/

/-- What a path leads to: something, or a place in a folder where nothing lies yet. -/
inductive Spot
  | taken (p : Place) (n : Node)
  | free (p : Place)

/-- How many links a path may lead through. -/
def maxLinks : Nat := 40

/-- The most bytes that a name may have. -/
def maxName : Nat := 255

/-- The bytes of a path must be fewer than this. -/
def maxPath : Nat := 4096

/-- What the names lead to from a folder.  `followLast` says whether a link that is the last of them
is followed, `links` how many more links may be. -/
def walk (t : Tree) (followLast : Bool) (links : Nat) (p : Place) (names : List Bytes) :
    Except PathError Spot :=
  match names with
  | [] => .ok (.taken p ((t.at? p).getD .folder))
  | name :: rest =>
    if name = [] ∨ name = [0x2E] then walk t followLast links p rest
    else if name = [0x2E, 0x2E] then walk t followLast links p.dropLast rest
    else if maxName < name.length then .error .nameTooLong
    else
      match t.at? (p ++ [name]) with
      | none => if rest.isEmpty then .ok (.free (p ++ [name])) else .error .missing
      | some .folder => walk t followLast links (p ++ [name]) rest
      | some (.link target) =>
        if rest.isEmpty && !followLast then .ok (.taken (p ++ [name]) (.link target))
        else
          match links with
          | 0 => .error .tooManyLinks
          | links + 1 =>
            if target.isEmpty then .error .missing
            else
              walk t followLast links (if target.head? = some 0x2F then [] else p)
                (Path.split target ++ rest)
      | some n => if rest.isEmpty then .ok (.taken (p ++ [name]) n) else .error .throughFile
termination_by (links, names.length)

/-- What a path in bytes leads to. -/
def locate (t : Tree) (followLast : Bool) (path : Bytes) : Except PathError Spot :=
  if path.isEmpty then .error .missing
  else if maxPath ≤ path.length then .error .nameTooLong
  else t.walk followLast maxLinks (if path.head? = some 0x2F then [] else t.here) (Path.split path)

/-- The bytes of a path as it is handed to the system: a path must be encodable and hold no NUL. -/
def pathBytes (path : Text) : Except Failure Bytes :=
  match Utf8.encodeEscaping path with
  | .error fault => .error (.unencodable fault)
  | .ok bytes => if bytes.contains 0 then .error .embeddedNull else .ok bytes

/-- What a path leads to, links being followed. -/
def find (t : Tree) (path : Text) : Except Failure Spot :=
  match pathBytes path with
  | .error f => .error f
  | .ok bytes =>
    match t.locate true bytes with
    | .error e => .error (.system (e.about path))
    | .ok spot => .ok spot

/-! ## Reading and writing -/

/-- Whether a path leads to something. -/
def exists? (t : Tree) (path : Text) : Bool :=
  match t.find path with
  | .ok (.taken _ _) => true
  | _ => false

/-- Whether a path leads to a file. -/
def isFile (t : Tree) (path : Text) : Bool :=
  match t.find path with
  | .ok (.taken _ (.file _)) => true
  | _ => false

/-- The content of the file that a path leads to. -/
def read (t : Tree) (path : Text) : Except Failure Bytes :=
  match t.find path with
  | .error f => .error f
  | .ok (.free _) => .error (.system (PathError.missing.about path))
  | .ok (.taken _ .folder) => .error (.system (PathError.isFolder.about path))
  | .ok (.taken _ (.file content)) => .ok content
  | .ok (.taken _ .sink) => .ok []
  | .ok (.taken _ (.link _)) => .error (.system (PathError.tooManyLinks.about path))

/-- The place of a file that is opened to write at its end, and the tree in which it exists. -/
def openAppend (t : Tree) (path : Text) : Except Failure (Tree × Place) :=
  match t.find path with
  | .error f => .error f
  | .ok (.free p) => .ok (t.put p (.file []), p)
  | .ok (.taken _ .folder) => .error (.system (PathError.isFolder.about path))
  | .ok (.taken _ (.link _)) => .error (.system (PathError.tooManyLinks.about path))
  | .ok (.taken p _) => .ok (t, p)

/-- The tree with bytes written at the end of the file at a place. -/
def append (t : Tree) (p : Place) (bytes : Bytes) : Tree :=
  match t.at? p with
  | some (.file content) => t.put p (.file (content ++ bytes))
  | _ => t

/-- How many bytes the file at a place holds. -/
def sizeAt (t : Tree) (p : Place) : Nat :=
  match t.at? p with
  | some (.file content) => content.length
  | _ => 0

/-- The place that a path itself names, a link not being followed. -/
def entryAt? (t : Tree) (path : Text) : Option Spot :=
  match pathBytes path with
  | .error _ => none
  | .ok bytes => (t.locate false bytes).toOption

/-- The tree with what one path names moved to another, in the place of what that one names. -/
def rename? (t : Tree) (source target : Text) : Option Tree :=
  match t.entryAt? source, t.entryAt? target with
  | some (.taken p _), some (.taken q .folder) => if p = q then some t else none
  | some (.taken p _), some (.taken q _) => some (t.move p q)
  | some (.taken p _), some (.free q) => some (t.move p q)
  | _, _ => none

/-- The tree without the file or link that a path names. -/
def unlink? (t : Tree) (path : Text) : Option Tree :=
  match t.entryAt? path with
  | some (.taken _ .folder) => none
  | some (.taken p _) => some (t.remove p)
  | _ => none

/-! ## Setting up a tree -/

/-- The folder in which relative paths start, as a path. -/
def herePath (t : Tree) : Text := Utf8.decodeEscaping (t.here.flatMap (0x2F :: ·))

/-- The tree with a folder at each step of the way where names lead from a folder, as far as the way
can be gone. -/
def makeFolders (t : Tree) (p : Place) : List Bytes → Tree
  | [] => t
  | name :: rest =>
    match t.walk true maxLinks p [name] with
    | .ok (.free q) => (t.put q .folder).makeFolders q rest
    | .ok (.taken q _) => t.makeFolders q rest
    | .error _ => t

/-- The tree with something put where a path leads from `here`, folders being made on the way.  A
file is written through links; anything else is put only where nothing is. -/
def install (t : Tree) (path : Text) (n : Node) : Tree :=
  match Utf8.encodeEscaping path with
  | .error _ => t
  | .ok bytes =>
    let names := (Path.split bytes).filter fun name => name ≠ [] ∧ name ≠ [0x2E]
    let start := if bytes.head? = some 0x2F then [] else t.here
    match n with
    | .folder => t.makeFolders start names
    | .file content =>
      let t := t.makeFolders start names.dropLast
      match t.walk true maxLinks start names with
      | .ok (.free p) => t.put p (.file content)
      | .ok (.taken p (.file _)) => t.put p (.file content)
      | _ => t
    | other =>
      let t := t.makeFolders start names.dropLast
      match t.walk false maxLinks start names with
      | .ok (.free p) => t.put p other
      | _ => t

/-- A tree with the usual folders below the root and an empty folder `here`, below the one for
temporary files. -/
def fresh (name : String) : Tree :=
  let here := [Bytes.ofAscii "tmp", Bytes.ofAscii name]
  let usual := ["tmp", "dev", "etc", "usr", "var", "home", "root", "proc", "sys", "bin", "lib"]
  { entries :=
      (usual.map fun s => ([Bytes.ofAscii s], Node.folder)) ++
        [(here, .folder), ([Bytes.ofAscii "dev", Bytes.ofAscii "null"], .sink)]
    here }

/-- The files below `here`, by the path from there. -/
def files (t : Tree) : List (Text × Bytes) :=
  t.entries.filterMap fun e =>
    match e.2 with
    | .file content =>
      if t.here.isPrefixOf e.1 then
        some (Utf8.decodeEscaping ([0x2F].intercalate (e.1.drop t.here.length)), content)
      else none
    | _ => none

/-! ## Lemmas -/

theorem at?_put_self (t : Tree) {p : Place} (hp : p ≠ []) (n : Node) :
    (t.put p n).at? p = some n := by
  simp [at?, put, hp]

theorem lookup_filter_ne (entries : List (Place × Node)) {p q : Place} (h : q ≠ p) :
    (entries.filter (·.1 ≠ p)).lookup q = entries.lookup q := by
  induction entries with
  | nil => rfl
  | cons e rest ih =>
    obtain ⟨r, n⟩ := e
    by_cases hr : r = p
    · subst hr
      simpa [List.lookup_cons, beq_eq_false_iff_ne.2 h] using ih
    · simp only [List.filter_cons, ne_eq, hr, not_false_eq_true, decide_true, if_true,
        List.lookup_cons] at ih ⊢
      rw [ih]

theorem at?_put_of_ne (t : Tree) {p q : Place} (h : q ≠ p) (n : Node) :
    (t.put p n).at? q = t.at? q := by
  by_cases hq : q = []
  · simp [at?, hq]
  · have := lookup_filter_ne t.entries h
    simp only [at?, hq, if_false, put, List.lookup_cons, beq_eq_false_iff_ne.2 h]
    exact this

end Tree

end StaticHttp
