import StaticHttp.Files.Tree
import StaticHttp.Log.Layout

/-!
# The log file

A log file is opened at its end, by its absolute path.  With a size limit, a line that would
bring the file to the limit is written to a fresh file instead: the file becomes number 1 of
the old ones, each old one moves up by one, and the last one that is kept is dropped.  Where
none are kept the file just grows.

All this is done on a disk: a tree of files, or the disk of a machine.

    Disk.ofTree.write f line t = some (f.write t line)           unless the file cannot be renewed
-/

namespace StaticHttp.Log

/-- An open log file: its absolute path, the place it was opened at, its size limit, and how many
old files are kept. -/
structure File where
  path : Text
  place : Place
  maxSize : Value
  backups : Value

/-- What a log file asks of the disk that it is on.  A disk gives up when it refuses to remove or to
move a file. -/
structure Disk (m : Type → Type) where
  exists? : Text → m Bool
  isFile : Text → m Bool
  unlink : Text → m Unit
  rename : (source target : Text) → m Unit
  openAppend : Text → m (Except Failure Place)
  sizeAt : Place → m Nat
  append : Place → Bytes → m Unit
  giveUp : {α : Type} → m α

namespace File

/-- Whether a size is at or over a limit; a limit that is no number, or not above zero, is none. -/
def reaches (maxSize : Value) (size : Nat) : Bool :=
  maxSize.compareInt? 0 == some (some .gt) &&
    match maxSize.compareInt? size with
    | some (some o) => o != .gt
    | _ => false

/-- The path of an old file. -/
def oldPath (path : Text) (number : Nat) : Text := path ++ "." ++ Text.ofNat number

/-- The numbers of the old files that are moved up when so many are kept, the highest first. -/
def shifted (backups : Nat) : List Nat := (List.range (backups - 1)).map fun n => backups - 1 - n

/-- How many old files a setting keeps; nothing if the setting is no whole number. -/
def backupCount? : Value → Option Nat
  | .int n => some n.toNat
  | .bool b => some b.toNat
  | .real x => if x.gtInt 0 then none else some 0
  | _ => none

end File

namespace Disk

variable {m : Type → Type} [Monad m] (d : Disk m)

/-- Move a file to another path, in the place of what is there. -/
def replace (source target : Text) : m Unit := do
  if ← d.exists? target then d.unlink target
  if ← d.exists? source then d.rename source target

/-- Move one old file up by one, in the place of the next. -/
def shift (path : Text) (number : Nat) : m Unit := do
  let source := File.oldPath path number
  if ← d.exists? source then d.replace source (File.oldPath path (number + 1))

/-- Move all old files up by one, and make the file itself the first of them. -/
def rollOver (path : Text) (backups : Nat) : m Unit := do
  (File.shifted backups).forM (d.shift path)
  d.replace path (File.oldPath path 1)

/-- Open a log file again, by its path. -/
def reopen (f : File) : m File := do
  match ← d.openAppend f.path with
  | .ok place => return { f with place }
  | .error _ => d.giveUp

/-- Make way for a line that reaches the size limit, and open the file again. -/
def renew (f : File) : m File := do
  match File.backupCount? f.backups with
  | none => d.giveUp
  | some 0 => d.reopen f
  | some backups =>
    d.rollOver f.path backups
    d.reopen f

/-- Whether a line of the given length has to go to a fresh file.  Only a file is ever rolled over;
the length counts code points, the size of the file bytes. -/
def isDue (f : File) (length : Nat) : m Bool := do
  let strange := (← d.exists? f.path) && !(← d.isFile f.path)
  return !strange && File.reaches f.maxSize ((← d.sizeAt f.place) + length)

/-- The file that a line of the given length goes to. -/
def prepare (f : File) (length : Nat) : m File := do
  if ← d.isDue f length then d.renew f else return f

/-- Write a line at the end of the file.  A line that cannot be encoded is lost. -/
def put (f : File) (line : Text) : m Unit :=
  if line.any CodePoint.isSurrogate then pure ()
  else d.append f.place (line.flatMap Utf8.octets)

/-- Write a line to the file, after rolling it over if that is due. -/
def write (f : File) (line : Text) : m File := do
  let line := line ++ ("\n" : Text)
  let f ← d.prepare f line.length
  d.put f line
  return f

end Disk

/-- The disk that is a tree of files. -/
def Disk.ofTree : Disk (StateT Tree Option) where
  exists? path t := some (t.exists? path, t)
  isFile path t := some (t.isFile path, t)
  unlink path t := (t.unlink? path).map fun t => ((), t)
  rename source target t := (t.rename? source target).map fun t => ((), t)
  openAppend path t :=
    match t.openAppend path with
    | .ok (t, place) => some (.ok place, t)
    | .error f => some (.error f, t)
  sizeAt place t := some (t.sizeAt place, t)
  append place bytes t := some ((), t.append place bytes)
  giveUp _ := none

namespace File

/-- Whether a line of the given length has to go to a fresh file. -/
def isDue (f : File) (t : Tree) (length : Nat) : Bool :=
  !(t.exists? f.path && !t.isFile f.path) && reaches f.maxSize (t.sizeAt f.place + length)

/-- The file and the tree after a line has been written to the file.  A line whose file cannot be
renewed is lost. -/
def write (f : File) (t : Tree) (line : Text) : File × Tree :=
  (Disk.ofTree.write f line t).getD (f, t)

/-- The absolute path of a log file, seen from a folder.  The limit must be a number, the path a
text. -/
def pathFrom (here : Text) (path maxSize : Value) : Except Failure Text :=
  match maxSize.compareInt? 0, path with
  | none, _ => .error (.notComparable ">" maxSize)
  | some _, .text p => .ok (Path.absolute here p)
  | some _, v => .error (.badSort ("expected str, bytes or os.PathLike object, not " ++ v.sort))

/-- The log file of a path, opened. -/
def openAt (path maxSize backups : Value) (t : Tree) : Except Failure (File × Tree) :=
  match pathFrom t.herePath path maxSize with
  | .error f => .error f
  | .ok p =>
    match t.openAppend p with
    | .ok (t, place) => .ok (⟨p, place, maxSize, backups⟩, t)
    | .error f => .error f

end File

/-! ## Lemmas -/

namespace Disk

variable {α β : Type}

/-- What is done on a tree of files after something else starts from what that has left. -/
theorem bind_eq_some {x : StateT Tree Option α} {next : α → StateT Tree Option β} {t : Tree}
    {r : β × Tree} (h : (x >>= next) t = some r) :
    ∃ a u, x t = some (a, u) ∧ next a u = some r := by
  obtain ⟨⟨a, u⟩, hx, hnext⟩ := Option.bind_eq_some_iff.1 h
  exact ⟨a, u, hx, hnext⟩

/-- On a tree of files it is decided at once whether a line is due. -/
theorem isDue_ofTree (f : File) (t : Tree) (length : Nat) :
    Disk.ofTree.isDue f length t = some (f.isDue t length, t) := rfl

end Disk

end StaticHttp.Log
