import StaticHttp.Json.Fault
import StaticHttp.Text.Utf8
import StaticHttp.Value

/-!
# Failures

Everything that can go wrong, by cause.  The causes that are told apart when a failure is met
have a constructor each; `Failure.message` is the only place that puts a failure into words.
The server's own failures form a small hierarchy of categories (`Category`): a document that
cannot be loaded, and a request that cannot be read.
-/

namespace StaticHttp

/-! ## Errors of the operating system -/

/-- The sorts of operating-system error that have a name of their own. -/
inductive SystemSort
  | general
  | wouldBlock
  | childProcess
  | connection
  | brokenPipe
  | connectionAborted
  | connectionRefused
  | connectionReset
  | fileExists
  | notFound
  | interrupted
  | isDirectory
  | notDirectory
  | permission
  | processLookup
  | timedOut
deriving DecidableEq

/-- The sort of the error with a given number. -/
def SystemSort.ofNumber (n : Int) : SystemSort :=
  if n ∈ [11, 114, 115] then wouldBlock
  else if n = 10 then childProcess
  else if n ∈ [32, 108] then brokenPipe
  else if n = 103 then connectionAborted
  else if n = 111 then connectionRefused
  else if n = 104 then connectionReset
  else if n = 17 then fileExists
  else if n = 2 then notFound
  else if n = 4 then interrupted
  else if n = 21 then isDirectory
  else if n = 20 then notDirectory
  else if n ∈ [1, 13] then permission
  else if n = 3 then processLookup
  else if n = 110 then timedOut
  else general

/-- An error of the operating system: its number if it has one, the reason, and the path it is
about if it is about one. -/
structure SystemError where
  sort : SystemSort
  number : Option Int
  reason : Text
  path : Option Text

/-- The errors that opening a path can meet. -/
inductive PathError
  | missing
  | throughFile
  | isFolder
  | nameTooLong
  | tooManyLinks
deriving DecidableEq

/-- The number of a path error. -/
def PathError.number : PathError → Int
  | missing => 2
  | throughFile => 20
  | isFolder => 21
  | nameTooLong => 36
  | tooManyLinks => 40

/-- The reason given with a path error. -/
def PathError.reason : PathError → Text
  | missing => "No such file or directory"
  | throughFile => "Not a directory"
  | isFolder => "Is a directory"
  | nameTooLong => "File name too long"
  | tooManyLinks => "Too many levels of symbolic links"

/-- The system's error for a path. -/
def PathError.about (e : PathError) (path : Text) : SystemError :=
  ⟨.ofNumber e.number, some e.number, e.reason, some path⟩

/-- The system's error with a number and a reason, about no path. -/
def SystemError.numbered (number : Int) (reason : Text) : SystemError :=
  ⟨.ofNumber number, some number, reason, none⟩

/-- The wording of an error of the operating system. -/
def SystemError.message (e : SystemError) : Text :=
  match e.number with
  | none => e.reason
  | some n =>
    "[Errno " ++ Text.ofInt n ++ "] " ++ e.reason ++
      match e.path with
      | none => []
      | some p => ": " ++ p.quoted

/-! ## The server's own failures -/

/-- How a document failed to load. -/
inductive DocumentFault
  | notFound
  | unreadable
deriving DecidableEq

/-- How a request failed to arrive. -/
inductive RequestFault
  | incomplete
  | malformed
deriving DecidableEq

/-- The categories of the server's own failures; `none` is the whole branch. -/
inductive Category
  | any
  | document (fault : Option DocumentFault)
  | request (fault : Option RequestFault)
deriving DecidableEq

namespace Category

/-- The category that a category is a part of. -/
def parent? : Category → Option Category
  | any => none
  | document none => some any
  | document (some _) => some (document none)
  | request none => some any
  | request (some _) => some (request none)

/-- The categories that a category is a part of, the nearest first. -/
def ancestors : Category → List Category
  | any => []
  | document none => [any]
  | document (some _) => [document none, any]
  | request none => [any]
  | request (some _) => [request none, any]

theorem ancestors_eq (c : Category) :
    c.ancestors = match c.parent? with
      | none => []
      | some p => p :: p.ancestors := by
  cases c with
  | any => rfl
  | document f => cases f <;> rfl
  | request f => cases f <;> rfl

end Category

/-! ## All failures -/

/-- Why an operation failed. -/
inductive Failure
  /-- The operating system refused. -/
  | system (e : SystemError)
  /-- A document could not be loaded from its path. -/
  | document (fault : Option DocumentFault) (path : Option Text) (reason : Option Text)
  /-- A request could not be read or parsed. -/
  | request (fault : Option RequestFault) (message : Text)
  /-- Another failure of the server's own. -/
  | service (message : Text)
  /-- A text holds a surrogate that stands for no byte. -/
  | unencodable (fault : Utf8.EncodeFault)
  /-- Bytes are not UTF-8. -/
  | undecodable (fault : Utf8.DecodeFault)
  /-- A text is not JSON. -/
  | notJson (fault : Json.Fault)
  /-- A value is not among the admissible ones. -/
  | badValue (message : Text)
  /-- A value is not of the sort that an operation needs. -/
  | badSort (message : Text)
  /-- A tuple has no item at an index. -/
  | noItem (message : Text)
  /-- A table has no entry under a key. -/
  | noEntry (key : Value)
  /-- A computation would nest too deeply. -/
  | tooDeep (message : Text)
  /-- A number is beyond the range of what it is used for. -/
  | tooLarge (message : Text)
  /-- There is no memory for a result. -/
  | exhausted
  /-- Any other failure, under a name of its own; a `final` one ends the program. -/
  | other (name : String) (final : Bool) (message : Text)

namespace Failure

/-- The wording of a surrogate that cannot be written. -/
def encodeFaultText (f : Utf8.EncodeFault) : Text :=
  "'utf-8' codec can't encode " ++
    (if f.stop = f.start + 1 then
      "character '\\u" ++ Text.hex 4 f.first.val ++ "' in position " ++ Text.ofNat f.start
    else
      "characters in position " ++ Text.ofNat f.start ++ "-" ++ Text.ofNat (f.stop - 1)) ++
    ": surrogates not allowed"

/-- The wording of bytes that are not UTF-8. -/
def decodeFaultText (f : Utf8.DecodeFault) : Text :=
  "'utf-8' codec can't decode " ++
    (match f.run with
    | [b] => "byte 0x" ++ Text.hex 2 b.toNat ++ " in position " ++ Text.ofNat f.position
    | run =>
      "bytes in position " ++ Text.ofNat f.position ++ "-" ++
        Text.ofNat (f.position + run.length - 1)) ++
    (match f.flaw with
    | .badStart => ": invalid start byte"
    | .badContinuation => ": invalid continuation byte"
    | .unfinished => ": unexpected end of data")

/-- What a failure says. -/
def message : Failure → Text
  | system e => e.message
  | document _ path reason =>
    match reason with
    | some (c :: text) => c :: text
    | _ =>
      match path with
      | some p => p
      | none => "None"
  | request _ text => text
  | service text => text
  | unencodable fault => encodeFaultText fault
  | undecodable fault => decodeFaultText fault
  | notJson fault => fault.text
  | badValue text => text
  | badSort text => text
  | noItem text => text
  | noEntry key => key.quoted
  | tooDeep text => text
  | tooLarge text => text
  | exhausted => []
  | other _ _ text => text

/-- The operating system refused. -/
def isSystem : Failure → Bool
  | system _ => true
  | _ => false

/-- The operating system gave up waiting. -/
def isTimeout : Failure → Bool
  | system e => e.sort = .timedOut
  | _ => false

/-- The request could not be read or parsed. -/
def isRequest : Failure → Bool
  | request _ _ => true
  | _ => false

/-- A value, or a text that should spell one, is not admissible. -/
def isBadValue : Failure → Bool
  | unencodable _ => true
  | undecodable _ => true
  | notJson _ => true
  | badValue _ => true
  | _ => false

/-- The failure ends the program and is not handled on the way. -/
def isFinal : Failure → Bool
  | other _ final _ => final
  | _ => false

/-! ## The failures of this program -/

/-- A path holds a NUL, which no file name can. -/
def embeddedNull : Failure := badValue "embedded null byte"

/-- The peer closed the connection before the blank line. -/
def incomplete (received : Nat) : Failure :=
  request (some .incomplete) ("connection closed after " ++ Text.ofNat received ++ " bytes")

/-- The request holds fewer than two words. -/
def malformed (head : Bytes) : Failure :=
  request (some .malformed) ("no path in request " ++ Text.quotedBytes (head.take 80))

/-- A value that is no text stands where a text is put after it. -/
def notJoinable : Value → Failure
  | .list _ => badSort "can only concatenate list (not \"str\") to list"
  | v => badSort ("unsupported operand type(s) for +: '" ++ v.sort ++ "' and 'str'")

/-- A value that is no number is compared with a whole number. -/
def notComparable (sign : Text) (v : Value) : Failure :=
  badSort ("'" ++ sign ++ "' not supported between instances of '" ++ v.sort ++ "' and 'int'")

/-- A whole number is beyond the range of a sort of number. -/
def beyond (sort : Text) : Failure := tooLarge ("Python int too large to convert to C " ++ sort)

/-- A whole number is beyond the range of doubles. -/
def beyondDouble : Failure := tooLarge "int too large to convert to float"

/-- A value that can be changed stands where a key is needed. -/
def notHashable (v : Value) : Failure := badSort ("unhashable type: '" ++ v.sort ++ "'")

/-- The socket is closed. -/
def badDescriptor : Failure := system (.numbered 9 "Bad file descriptor")

/-- An address has fewer items than are asked for. -/
def shortAddress : Failure := noItem "tuple index out of range"

/-- A tuple has fewer items than are to be named. -/
def tooFewItems (expected got : Nat) : Failure :=
  badValue ("not enough values to unpack (expected " ++ Text.ofNat expected ++ ", got " ++
    Text.ofNat got ++ ")")

/-- A value that has no items is asked for one. -/
def notIndexable (v : Value) : Failure := badSort ("'" ++ v.sort ++ "' object is not subscriptable")

/-- A JSON text was refused. -/
def ofRefusal : Json.Refusal → Failure
  | .fault f => notJson f
  | .tooManyDigits count =>
    badValue ("Exceeds the limit (4300 digits) for integer string conversion: value has " ++
      Text.ofNat count ++ " digits; use sys.set_int_max_str_digits() to increase the limit")
  | .tooDeep inArray =>
    tooDeep ("maximum recursion depth exceeded while decoding a JSON " ++
      (if inArray then ("array" : Text) else "object") ++ " from a unicode string")

/-- The category of one of the server's own failures. -/
def category? : Failure → Option Category
  | document fault _ _ => some (.document fault)
  | request fault _ => some (.request fault)
  | service _ => some .any
  | _ => none

/-- The path that a failure is about, for the failures that keep one. -/
def path? : Failure → Option (Option Text)
  | document _ path _ => some path
  | _ => none

/-- What several parts of a message make together: nothing, the part itself, or all of them in
parentheses. -/
def joinParts : List (Option Text) → Text
  | [] => []
  | [some part] => part
  | [none] => "None"
  | parts => Value.quotedTuple (parts.map fun p => p.elim .null .text)

/-- The failure of a category with the given parts: a document's path and reason, or the parts of
any other failure's message. -/
def ofParts (category : Category) (parts : List (Option Text)) : Except Failure Failure :=
  match category with
  | .document fault =>
    match parts with
    | [path] => .ok (document fault path none)
    | [path, reason] => .ok (document fault path reason)
    | [] =>
      .error (badSort "DocumentError.__init__() missing 1 required positional argument: 'path'")
    | _ =>
      .error (badSort ("DocumentError.__init__() takes from 2 to 3 positional arguments but " ++
        Text.ofNat (parts.length + 1) ++ " were given"))
  | .request fault => .ok (request fault (joinParts parts))
  | .any => .ok (service (joinParts parts))

end Failure

end StaticHttp
