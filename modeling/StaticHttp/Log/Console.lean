import StaticHttp.Log.Layout
import StaticHttp.Text.Digit

/-!
# The console

What is written to the console may pass through wrappers, one for each time that colours were turned
on.  On a terminal a wrapper writes what it is given and then a reset; anywhere else it takes the
escape sequences out: first those of the operating-system kind, then those that start with a
bracket.  The wrappers are those that colorama 0.4.6 puts around the console when it is asked to
reset colours by itself: what they write and what they take out is written here as that version does
it.

    write true n t is t with `resets n` resets behind it
    write false n t = t      for a text t without ESC
-/

namespace StaticHttp.Log.Console

/-- The marks that may stand around an escape sequence. -/
def openMark : CodePoint := '\x01'

def closeMark : CodePoint := '\x02'

def escape : CodePoint := '\x1b'

def bell : CodePoint := '\x07'

/-- The letters of ASCII. -/
def isLetter (c : CodePoint) : Bool :=
  (0x41 ≤ c.val && c.val ≤ 0x5A) || (0x61 ≤ c.val && c.val ≤ 0x7A)

/-- How long a text is whose end may carry a closing mark. -/
def withCloseMark (length : Nat) (rest : Text) : Nat :=
  if rest.head? = some closeMark then length + 1 else length

/-- The length of the bracketed sequence behind an escape at the start of a text: digits of any
script and semicolons, then a letter. -/
def bracketedLength? (t : Text) : Option Nat :=
  match t with
  | e :: b :: rest =>
    if e = escape ∧ b = '[' then
      let parameters := rest.takeWhile fun c => Text.isDigit c || c = ';'
      match rest.drop parameters.length with
      | c :: rest => if isLetter c then some (withCloseMark (parameters.length + 3) rest) else none
      | [] => none
    else none
  | _ => none

/-- The length of the sequence of the operating-system kind at the start of a text: anything up to a
bell. -/
def systemLength? (t : Text) : Option Nat :=
  match t with
  | e :: b :: rest =>
    if e = escape ∧ b = ']' then
      let content := rest.takeWhile (· ≠ bell)
      match rest.drop content.length with
      | _ :: rest => some (withCloseMark (content.length + 3) rest)
      | [] => none
    else none
  | _ => none

/-- The length of a sequence at the start of a text, an opening mark in front of it included. -/
def markedLength? (length? : Text → Option Nat) (t : Text) : Option Nat :=
  match t with
  | [] => none
  | c :: rest => if c = openMark then (length? rest).map (· + 1) else length? t

/-- Where the sequences of a text are, from the left: position and length.  `skip` code points are
already part of one. -/
def spansFrom (length? : Text → Option Nat) (position skip : Nat) : Text → List (Nat × Nat)
  | [] => []
  | c :: rest =>
    match skip with
    | skip + 1 => spansFrom length? (position + 1) skip rest
    | 0 =>
      match markedLength? length? (c :: rest) with
      | some n => (position, n) :: spansFrom length? (position + 1) (n - 1) rest
      | none => spansFrom length? (position + 1) 0 rest

/-- Where the sequences of a text are. -/
def spans (length? : Text → Option Nat) (t : Text) : List (Nat × Nat) := spansFrom length? 0 0 t

/-- What is left of a text, from a position on, when spans to the right of it are cut out.  Each is
cut out where it was in the whole text, also when others in front of it have already been cut. -/
def cutFrom (position : Nat) (t : Text) : List (Nat × Nat) → Text
  | [] => t
  | (start, length) :: more =>
    let front := t.take (start - position)
    front ++ cutFrom start (t.drop (start - position + length)) more

/-- A text without its sequences of the operating-system kind. -/
def withoutSystem (t : Text) : Text := cutFrom 0 t (spans systemLength? t)

/-- What lies between spans of a text, from a position on, without the empty pieces. -/
def between (position : Nat) (t : Text) : List (Nat × Nat) → List Text
  | [] => if t.isEmpty then [] else [t]
  | (start, length) :: more =>
    let front := t.take (start - position)
    let back := between (start + length) (t.drop (start - position + length)) more
    if front.isEmpty then back else front :: back

/-- The pieces of a text that are no escape sequences, in order. -/
def plainPieces (t : Text) : List Text :=
  let t := withoutSystem t
  between 0 t (spans bracketedLength? t)

/-- What appears when a text is written through a number of wrappers. -/
def write (terminal : Bool) : (wrappers : Nat) → Text → Text
  | 0, t => t
  | n + 1, t =>
    if terminal then write terminal n t ++ write terminal n reset
    else (plainPieces t).flatMap (write terminal n)

theorem write_zero (terminal : Bool) (t : Text) : write terminal 0 t = t := rfl

end StaticHttp.Log.Console
