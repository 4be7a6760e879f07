import StaticHttp.Number.Reading
import StaticHttp.Options.Help

/-!
# Reading a command line

The arguments are first told apart, all of them: an option, perhaps with a value behind an equals
sign or directly behind its letter, something that looks like an option, or a plain argument.  A
long spelling may be cut short as long as only one option remains possible.  Then the options are
taken from left to right, each with the plain argument that follows it if it takes a value.  The
last value of an option counts.
-/

namespace StaticHttp.Options

/-- What is wrong with a command line. -/
inductive Problem
  | ambiguous (argument : Text) (candidates : List Text)
  | valueExpected (d : Declaration)
  | valueIgnored (d : Declaration) (value : Text)
  | notInt (d : Declaration) (value : Text)
  | notReal (d : Declaration) (value : Text)
  | notAmong (d : Declaration) (value : Text) (values : List Text)
  | unrecognized (arguments : List Text)

/-- What a message about an option starts with. -/
def about (d : Declaration) : Text :=
  "argument " ++ (['/'] : Text).intercalate d.spellings ++ ": "

/-- The wording of a problem. -/
def Problem.message : Problem → Text
  | ambiguous argument candidates =>
    "ambiguous option: " ++ argument ++ " could match " ++ (", " : Text).intercalate candidates
  | valueExpected d => about d ++ "expected one argument"
  | valueIgnored d value => about d ++ "ignored explicit argument " ++ value.quoted
  | notInt d value => about d ++ "invalid int value: " ++ value.quoted
  | notReal d value => about d ++ "invalid float value: " ++ value.quoted
  | notAmong d value values =>
    about d ++ "invalid choice: " ++ value.quoted ++ " (choose from " ++
      (", " : Text).intercalate (values.map Text.quoted) ++ ")"
  | unrecognized arguments =>
    "unrecognized arguments: " ++ ([' '] : Text).intercalate arguments

/-! ## Telling arguments apart -/

/-- What an argument is. -/
inductive Token
  | plain (t : Text)
  | separator
  | unknown (t : Text)
  | option (d : Declaration) (spelling : Text) (value : Option Text)

/-- What is in front of and behind the first equals sign, if there is one. -/
def splitEquals (t : Text) : Text × Option Text :=
  let front := t.takeWhile (· ≠ ('=' : CodePoint))
  match t.drop front.length with
  | [] => (front, none)
  | _ :: back => (front, some back)

/-- The options that an argument may mean, with the spelling and the value that each reading gives:
for two dashes, those with a spelling that starts like the argument; for one dash, the one whose
letter comes first, the rest of the argument being its value. -/
def readings (t : Text) : List (Declaration × Text × Option Text) :=
  let spelled := all.flatMap fun d => d.spellings.map fun s => (d, s)
  match t with
  | _ :: c :: rest =>
    if c = '-' then
      let (front, value) := splitEquals t
      (spelled.filter fun e => front.isPrefixOf e.2).map fun e => (e.1, e.2, value)
    else
      spelled.filterMap fun e =>
        if e.2 = t.take 2 then some (e.1, e.2, some rest)
        else if t.isPrefixOf e.2 then some (e.1, e.2, none)
        else none
  | _ => []

/-- Whether a text is a minus sign and a number: digits of any script, perhaps with a point and
digits behind it, and perhaps a line feed at the end. -/
def looksNegative (t : Text) : Bool :=
  match t with
  | [] => false
  | c :: rest =>
    let whole := rest.takeWhile Text.isDigit
    let tail := rest.drop whole.length
    let isEnd (t : Text) : Bool := t.isEmpty || t = "\n"
    c = '-' &&
      ((!whole.isEmpty && isEnd tail) ||
        match tail with
        | [] => false
        | p :: tail =>
          let fraction := tail.takeWhile Text.isDigit
          p = '.' && !fraction.isEmpty && isEnd (tail.drop fraction.length))

/-- What an argument is that is not the separator. -/
def token (t : Text) : Except Problem Token :=
  if t.head? ≠ some ('-' : CodePoint) then .ok (.plain t)
  else
    match find? t with
    | some d => .ok (.option d t none)
    | none =>
      if t.length = 1 then .ok (.plain t)
      else
        let (front, value) := splitEquals t
        match if value.isSome then find? front else none with
        | some d => .ok (.option d front value)
        | none =>
          match readings t with
          | [(d, spelling, value)] => .ok (.option d spelling value)
          | [] =>
            if looksNegative t || t.contains ' ' then .ok (.plain t) else .ok (.unknown t)
          | several => .error (.ambiguous t (several.map (·.2.1)))

/-- What the arguments are.  Behind a separator they are all plain. -/
def tokens : List Text → Except Problem (List Token)
  | [] => .ok []
  | t :: rest =>
    if t = "--" then .ok (.separator :: rest.map .plain)
    else
      match token t, tokens rest with
      | .error p, _ => .error p
      | _, .error p => .error p
      | .ok a, .ok more => .ok (a :: more)

/-! ## Taking options -/

/-- What is known so far: the values given, in order, and the arguments that are nothing. -/
structure Taken where
  given : List (Text × Value)
  extra : List Text

/-- What reading a command line comes to: the help is asked for, or values are given. -/
inductive Request
  | help
  | start (taken : Taken)

/-- The value that a text spells for an option. -/
def convert (d : Declaration) (t : Text) : Except Problem Value :=
  match d.kind with
  | .int =>
    match Number.int? t with
    | some n => .ok (.int n)
    | none => .error (.notInt d t)
  | .real =>
    match Number.real? t with
    | some x => .ok (.real x)
    | none => .error (.notReal d t)
  | .choice values => if values.contains t then .ok (.text t) else .error (.notAmong d t values)
  | _ => .ok (.text t)

/-- The value of an option that was given behind an equals sign or its letter.  A separator there
is no value, and leaves an empty list. -/
def convertAttached (d : Declaration) (t : Text) : Except Problem Value :=
  if t = "--" then .ok (.list []) else convert d t

/-- An option that is taken: with a value, without one because it takes none, or still without
one. -/
inductive Step
  | valued (d : Declaration) (value : Text)
  | bare (d : Declaration)
  | open (d : Declaration)

/-- The options in one argument: after a letter that takes nothing, further letters may follow.
`value` is what is attached to the spelling. -/
def unfold (d : Declaration) (spelling : Text) (value : Option Text) (fuel : Nat) :
    Except Problem (List Step) :=
  match value with
  | none => .ok [if d.takesValue then .open d else .bare d]
  | some v =>
    if d.takesValue then .ok [.valued d v]
    else
      match fuel, v with
      | fuel + 1, c :: more =>
        if (spelling.drop 1).head? = some ('-' : CodePoint) then .error (.valueIgnored d v)
        else
          match find? ['-', c] with
          | none => .error (.valueIgnored d v)
          | some e =>
            match unfold e ['-', c] (if more.isEmpty then none else some more) fuel with
            | .error p => .error p
            | .ok steps => .ok (.bare d :: steps)
      | _, _ => .error (.valueIgnored d v)

/-- The values that steps give; nothing if one of them asks for the help. -/
def carryOut : List Step → (following : Option Text) → Except Problem (Option (List (Text × Value)))
  | [], _ => .ok (some [])
  | .bare d :: rest, following =>
    if d.kind = .help then .ok none
    else
      match carryOut rest following with
      | .ok (some more) => .ok (some ((d.name, .bool true) :: more))
      | r => r
  | .valued d v :: rest, following =>
    match convertAttached d v, carryOut rest following with
    | .error p, _ => .error p
    | .ok value, .ok (some more) => .ok (some ((d.name, value) :: more))
    | _, r => r
  | .open d :: rest, following =>
    match following with
    | none => .error (.valueExpected d)
    | some v =>
      match convert d v, carryOut rest following with
      | .error p, _ => .error p
      | .ok value, .ok (some more) => .ok (some ((d.name, value) :: more))
      | _, r => r

/-- Whether the last step still lacks its value. -/
def lacks? : List Step → Option Declaration
  | [] => none
  | [.open d] => some d
  | _ :: rest => lacks? rest

/-- The tokens taken from left to right. -/
def take (taken : Taken) : List Token → Except Problem Request
  | [] => .ok (.start taken)
  | .plain t :: rest => take { taken with extra := taken.extra ++ [t] } rest
  | .separator :: rest => take { taken with extra := taken.extra ++ [("--" : Text)] } rest
  | .unknown t :: rest => take { taken with extra := taken.extra ++ [t] } rest
  | .option d spelling value :: rest =>
    match unfold d spelling value (value.elim 0 List.length) with
    | .error p => .error p
    | .ok steps =>
      let given (following : Option Text) : Except Problem (Option Taken) :=
        match carryOut steps following with
        | .error p => .error p
        | .ok none => .ok none
        | .ok (some values) => .ok (some { taken with given := taken.given ++ values })
      match lacks? steps, rest with
      | none, rest =>
        match given none with
        | .error p => .error p
        | .ok none => .ok .help
        | .ok (some taken) => take taken rest
      | some _, .plain v :: rest =>
        match given (some v) with
        | .error p => .error p
        | .ok none => .ok .help
        | .ok (some taken) => take taken rest
      | some d, _ => .error (.valueExpected d)

/-- What a command line asks for. -/
def request (arguments : List Text) : Except Problem Request :=
  match tokens arguments with
  | .error p => .error p
  | .ok ts =>
    match take ⟨[], []⟩ ts with
    | .error p => .error p
    | .ok .help => .ok .help
    | .ok (.start taken) =>
      if taken.extra.isEmpty then .ok (.start taken) else .error (.unrecognized taken.extra)

/-! ## Choices -/

/-- What a command line chooses: the configuration file, and the settings that take precedence over
it. -/
structure Choices where
  configFile : Value
  overrides : Table

/-- The last value given for a name. -/
def Taken.last? (t : Taken) (name : Text) : Option Value := t.given.reverse.lookup name

/-- The choices among the values given: settings in the order of the options, and colours turned off
at the end. -/
def Taken.choices (t : Taken) : Choices where
  configFile := (t.last? "config").getD .null
  overrides :=
    let settings : Table := all.filterMap fun d =>
      if d.takesValue ∧ d.name ≠ ("config" : Text) then (t.last? d.name).map fun v => (d.name, v)
      else none
    let colours : Table :=
      if (t.last? "no_color").isSome then [("colored_logging", .bool false)] else []
    settings ++ colours

/-- What comes of a command line: the program goes on with some choices, or it ends with a text on
one of its outputs and a status. -/
inductive Outcome
  | chosen (c : Choices)
  | shown (help : Text)
  | refused (text : Text)

/-- What comes of the arguments of a program with a given name. -/
def read (program : Text) (arguments : List Text) : Outcome :=
  match request arguments with
  | .ok .help => .shown (help program)
  | .ok (.start taken) => .chosen taken.choices
  | .error p => .refused (usage program ++ program ++ ": error: " ++ p.message ++ "\n")

end StaticHttp.Options
