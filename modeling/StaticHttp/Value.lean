import StaticHttp.Number.Shortest
import StaticHttp.Text.Quoted

/-!
# Setting values

A setting may hold anything that a configuration file can: nothing, a truth value, a whole
number, a double, a text, a list, or a table.  A table keeps its names in the order in which
they were first written, and a name that is written again keeps its place.

    ((t.put k v).get? k) = some v              (get?_put_self)
    (t.put k v).get? k' = t.get? k'            for k' ≠ k        (get?_put_of_ne)
-/

namespace StaticHttp

/-- The value of a setting. -/
inductive Value
  | null
  | bool (b : Bool)
  | int (n : Int)
  | real (x : Binary64)
  | text (t : Text)
  | list (items : List Value)
  | table (entries : List (Text × Value))
deriving Inhabited

/-- Values under names, in the order of first writing. -/
abbrev Table := List (Text × Value)

namespace Table

/-- The value under a name. -/
def get? (t : Table) (name : Text) : Option Value := List.lookup name t

/-- The table with a value written under a name. -/
def put (name : Text) (value : Value) : Table → Table
  | [] => [(name, value)]
  | (n, v) :: rest => if n = name then (n, value) :: rest else (n, v) :: put name value rest

/-- The table with all entries of another one written into it, first to last. -/
def putAll (t : Table) (entries : List (Text × Value)) : Table :=
  entries.foldl (fun acc e => put e.1 e.2 acc) t

/-! ## Lemmas -/

@[simp] theorem get?_nil (name : Text) : get? [] name = none := rfl

theorem get?_cons (n : Text) (v : Value) (t : Table) (name : Text) :
    get? ((n, v) :: t) name = if name = n then some v else get? t name := by
  unfold get?
  rw [List.lookup_cons]
  by_cases h : name = n
  · simp [h]
  · simp [h, beq_eq_false_iff_ne.2 h]

@[simp] theorem get?_put_self (t : Table) (name : Text) (value : Value) :
    get? (put name value t) name = some value := by
  induction t with
  | nil => simp [put, get?_cons]
  | cons e rest ih =>
    obtain ⟨n, v⟩ := e
    by_cases h : n = name
    · simp [put, h, get?_cons]
    · simp [put, h, get?_cons, Ne.symm h, ih]

theorem get?_put_of_ne {name other : Text} (h : other ≠ name) (t : Table) (value : Value) :
    get? (put name value t) other = get? t other := by
  induction t with
  | nil => simp [put, get?_cons, h]
  | cons e rest ih =>
    obtain ⟨n, v⟩ := e
    by_cases hn : n = name
    · subst hn; simp [put, get?_cons, h]
    · simp [put, hn, get?_cons, ih]

end Table

namespace Value

/-- What counts as set: everything but nothing, false, zero and what is empty. -/
def isTruthy : Value → Bool
  | null => false
  | bool b => b
  | int n => n ≠ 0
  | real x => !x.isZero
  | text t => !t.isEmpty
  | list items => !items.isEmpty
  | table entries => !entries.isEmpty

/-- Whether a value holds other values. -/
def isCollection : Value → Bool
  | list _ => true
  | table _ => true
  | _ => false

/-- The truth values. -/
def boolText (b : Bool) : Text := if b then "True" else "False"

mutual

/-- A value as it appears inside another one: texts are quoted. -/
def quoted : Value → Text
  | null => "None"
  | bool b => boolText b
  | int n => Text.ofInt n
  | real x => x.text
  | text t => t.quoted
  | list items => "[" ++ quotedItems true items ++ "]"
  | table entries => "\x7b" ++ quotedEntries true entries ++ "\x7d"

/-- The items of a list, a comma and a space in front of all but the first. -/
def quotedItems (first : Bool) : List Value → Text
  | [] => []
  | v :: rest => (if first then [] else (", " : Text)) ++ quoted v ++ quotedItems false rest

/-- The entries of a table, each a quoted name and a value. -/
def quotedEntries (first : Bool) : List (Text × Value) → Text
  | [] => []
  | (n, v) :: rest =>
    (if first then [] else (", " : Text)) ++ Text.quoted n ++ ": " ++ quoted v ++
      quotedEntries false rest

end

/-- A value as it appears in a message: a text stands as it is. -/
def display : Value → Text
  | text t => t
  | v => quoted v

/-- Values in parentheses, a single one being followed by a comma. -/
def quotedTuple : List Value → Text
  | [v] => "(" ++ quoted v ++ ",)"
  | vs => "(" ++ quotedItems true vs ++ ")"

/-- What a value is called when it turns up where another sort of value is needed. -/
def sort : Value → Text
  | null => "NoneType"
  | bool _ => "bool"
  | int _ => "int"
  | real _ => "float"
  | text _ => "str"
  | list _ => "list"
  | table _ => "dict"

/-- How a value compares with a whole number, for the values that are numbers: truth values
count as zero and one.  NaN is neither less nor greater nor equal. -/
def compareInt? (v : Value) (n : Int) : Option (Option Ordering) :=
  match v with
  | bool b => some (some (compare (if b then 1 else 0) n))
  | int m => some (some (compare m n))
  | real x => some (if x.isNaN then none else some (x.compareInt n))
  | _ => none

example : quoted (list [text "it's", real (Binary64.ofDecimal false 805 (-1)), null]) =
    "[\"it's\", 80.5, None]" := by decide +kernel

end Value

end StaticHttp
