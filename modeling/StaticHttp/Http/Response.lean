import StaticHttp.Failure

/-!
# Responses

A response has a status line, a media type and a body.  On the wire it is a head of three
lines, an empty line, and the body.  The head is text; it is written with the bytes that its
surrogates stand for, and cannot be written if one of them stands for none.

    (Response.mk s m b).toBytes = .ok (h ++ b)      where h are the bytes of head s m b.length
-/

namespace StaticHttp

/-- The statuses that are ever answered. -/
inductive Status
  | ok
  | notFound
  | internalError
deriving DecidableEq

namespace Status

/-- The number of a status. -/
def code : Status → Nat
  | ok => 200
  | notFound => 404
  | internalError => 500

/-- The reason phrase of a status. -/
def reason : Status → Text
  | ok => "OK"
  | notFound => "Not Found"
  | internalError => "Internal Server Error"

/-- Number and reason phrase. -/
def line (s : Status) : Text := Text.ofNat s.code ++ " " ++ s.reason

/-- All statuses. -/
def all : List Status := [ok, notFound, internalError]

/-- Whether a value is the number of a status: as a whole number or as a double. -/
def hasCode (s : Status) (v : Value) : Bool := v.compareInt? s.code == some (some .eq)

/-- Number and reason phrase of the status with a given number, the number being shown as it was
given.  What holds other values is no key to the statuses. -/
def lineOf (code : Value) : Except Failure Text :=
  if code.isCollection then .error (.notHashable code)
  else
    match all.find? fun s => s.hasCode code with
    | some s => .ok (code.display ++ " " ++ s.reason)
    | none => .error (.noEntry code)

end Status

/-- An answer, ready to be written. -/
structure Response where
  status : Text
  mediaType : Text
  body : Bytes
deriving DecidableEq

namespace Response

/-- The end of a line of a head. -/
def lineEnd : Text := "\r\n"

/-- The lines in front of a body of the given length, the empty line included. -/
def head (status mediaType : Text) (length : Nat) : Text :=
  "HTTP/1.1 " ++ status ++ lineEnd ++ "Content-Type: " ++ mediaType ++ lineEnd ++
    "Content-Length: " ++ Text.ofNat length ++ lineEnd ++ lineEnd

/-- What is written for an answer. -/
def toBytes (r : Response) : Except Failure Bytes :=
  match Utf8.encodeEscaping (head r.status r.mediaType r.body.length) with
  | .ok bytes => .ok (bytes ++ r.body)
  | .error fault => .error (.unencodable fault)

/-- The answer where there is no document. -/
def notFound : Response := ⟨Status.notFound.line, "text/plain", Bytes.ofAscii "Not Found"⟩

/-- The answer where a document could not be read. -/
def internalError : Response := ⟨Status.internalError.line, "text/plain", []⟩

/-- The answer that carries a document. -/
def document (mediaType : Text) (body : Bytes) : Response := ⟨Status.ok.line, mediaType, body⟩

end Response

end StaticHttp
