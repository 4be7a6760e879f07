import StaticHttp.Http.Head
import StaticHttp.Router

/-!
# Serving a connection

One request is answered on each connection: its head is read, the path of its first line is
routed, and the response is written.  Whatever fails on the way is logged once, nothing more is
written, and the connection is closed in any case.

    the last thing that `serve` does with a connection is to close it
-/

namespace StaticHttp

/-- How connections are served: by which router, how many bytes a receive asks for, and how long it
may take. -/
structure Handler where
  router : Router
  receiveSize : Value
  requestTimeout : Value

namespace Handler

open Exchange Run

/-- The name under which a handler logs. -/
def source : Text := "ConnectionHandler"

/-- What the other end of a connection is called: the first two items of its address. -/
def peerName : Option (List Value) → Except Failure Text
  | none => .ok "unknown peer"
  | some [] => .ok "unknown peer"
  | some [_] => .error .shortAddress
  | some (host :: port :: _) => .ok (host.display ++ ":" ++ port.display)

/-- What is answered to a request with the given head. -/
def reply (h : Handler) (peer : Text) (head : Bytes) : Run Exchange Bytes := do
  note source Log.debug ("Request from " ++ peer ++ ": " ++ Text.quotedBytes head)
  let path ← lift (Request.path head)
  note source Log.info (peer ++ " - " ++ Request.line head)
  let response ← onHistory (h.router.route path)
  let payload ← lift response.toBytes
  note source Log.info (peer ++ " - " ++ response.status ++ " (" ++ Text.ofNat payload.length ++
    " bytes)")
  return payload

/-- The exchange of a request for its response. -/
def converse (h : Handler) (peer : Text) : Run Exchange Unit := do
  setTimeout h.requestTimeout
  let head ← Request.readHead h.receiveSize
  let payload ← h.reply peer head
  send payload

/-- What is logged about a failed exchange. -/
def report (peer : Text) (f : Failure) : List Log.Entry :=
  if f.isRequest then
    [⟨source, Log.warning, "Dropping request from " ++ peer ++ ": " ++ f.message⟩]
  else if f.isTimeout then [⟨source, Log.warning, "Request from " ++ peer ++ " timed out"⟩]
  else if f.isSystem then
    [⟨source, Log.warning, "Connection error with " ++ peer ++ ": " ++ f.message⟩]
  else
    [⟨source, Log.error, "Error handling request from " ++ peer ++ ": " ++ f.message⟩,
      ⟨source, Log.debug, Log.traceback⟩]

/-- Close the connection; that the operating system refuses is only logged. -/
def finish (peer : Text) : Run Exchange Unit := fun x =>
  match close x with
  | .ok _ x => .ok () x
  | .error f x =>
    if f.isSystem then
      .ok () (x.log source Log.debug
        ("Error closing connection with " ++ peer ++ ": " ++ f.message))
    else .error f x

/-- Exchange a request for its response, log what fails, and close the connection.  A final failure
is not logged and goes on after the connection is closed. -/
def serveAs (h : Handler) (peer : Text) : Run Exchange Unit := fun x =>
  match h.converse peer x with
  | .ok _ x => finish peer x
  | .error f x =>
    if f.isFinal then
      match finish peer x with
      | .ok _ x => .error f x
      | .error g x => .error g x
    else finish peer { x with history := x.history.logAll (report peer f) }

/-- Serve a connection whose other end has the given address. -/
def serve (h : Handler) (address : Option (List Value)) : Run Exchange Unit := fun x =>
  match peerName address with
  | .error f => .error f x
  | .ok peer => h.serveAs peer x

end Handler

end StaticHttp
