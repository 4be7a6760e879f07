import StaticHttp.Config
import StaticHttp.Handler
import StaticHttp.Server.Outside

/-!
# Servers and their sites

A server runs or does not, has a listener or none, and knows the thread that accepts connections
for it.  A site is a server together with its outside, its threads, and what has happened.  Every
call to the outside is recorded first; then comes what comes in between, and then the call fails
or not.
-/

namespace StaticHttp

/-- A listening socket: its number and the name that it is bound to. -/
structure Listener where
  number : Nat
  name : List Value

/-- A server.  How it serves connections is settled when it is made. -/
structure Server where
  config : Config
  handler : Handler
  running : Bool
  listener : Option Listener
  acceptThread : Option Nat

namespace Server

/-- A server that has not been started yet. -/
def ofConfig (config : Config) (load : Loader) : Server where
  config := config
  handler := ⟨⟨config.documentRoot, load⟩, config.receiveSize, config.requestTimeout⟩
  running := false
  listener := none
  acceptThread := none

/-- The address that the listener is bound to. -/
def address? (s : Server) : Option (List Value) := s.listener.map (·.name.take 2)

/-- The name under which a server logs. -/
def source : Text := "WebServer"

end Server

/-- The threads that accept connections: how many there have been, the last one that was started,
and those that have had their turn. -/
structure Threads where
  made : Nat
  started : Option Nat
  begun : List Nat

/-- A server, its outside, and what has happened. -/
structure Site where
  server : Server
  outside : Outside
  history : History
  listeners : Nat
  threads : Threads

/-- How interruptions are dealt with. -/
abbrev Interrupts := Interruption → Run Site Unit

namespace Site

/-- The site of a server that has just been made. -/
def ofServer (server : Server) (outside : Outside) (history : History) : Site :=
  ⟨server, outside, history, 0, ⟨0, none, []⟩⟩

/-- The site with one more event. -/
def push (s : Site) (e : Event) : Site := { s with history := s.history.push e }

/-- Something happens. -/
def happen (e : Event) : Run Site Unit := modify (·.push e)

/-- Log an entry.  Nothing comes in between: what would can come at the call before it or behind
it. -/
def note (level : Int) (message : Text) : Run Site Unit :=
  happen (.log ⟨Server.source, level, message⟩)

/-- Change the server. -/
def update (f : Server → Server) : Run Site Unit := modify fun s => { s with server := f s.server }

/-- What comes in between, if anything does. -/
def interrupted (perform : Interrupts) : Option Interruption → Run Site Unit
  | none => pure ()
  | some i => perform i

/-- Log an entry that something can come in between of.  Nothing refuses to log. -/
def tell (perform : Interrupts) (level : Int) (message : Text) : Run Site Unit := do
  let past := (← get).history
  let e : Event := .log ⟨Server.source, level, message⟩
  happen e
  interrupted perform ((← get).outside.interrupts past e)

/-- Call the outside. -/
def call (perform : Interrupts) (e : Event) : Run Site Unit := do
  let past := (← get).history
  happen e
  interrupted perform ((← get).outside.interrupts past e)
  match (← get).outside.fails past e with
  | none => pure ()
  | some f => throw f

/-- A computation on one of the connections. -/
def onConnection {α : Type} (c : Connection) (m : Run Exchange α) : Run Site α := fun s =>
  match m ⟨s.history, c⟩ with
  | .ok a x => .ok a { s with history := x.history }
  | .error f x => .error f { s with history := x.history }

/-- Run a thread's work; a failure that leaves it is its own. -/
def asThread (m : Run Site Unit) : Run Site Unit := do
  match ← Run.attempt m with
  | .ok _ => pure ()
  | .error f => happen (.threadFailure f)

end Site

end StaticHttp
