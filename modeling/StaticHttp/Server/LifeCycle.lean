import StaticHttp.Server.AcceptLoop

/-!
# Starting and stopping a server

A server is started by binding it and starting a thread that accepts connections; it is stopped
by waiting for that thread and closing the listener.  Anything that waits for the outside can be
interrupted, and what interrupts it can be interrupted in turn.  As a stopped server has nothing
to shut down and a thread has one turn, there is a bound on how deep this goes.

Whoever shuts a server down is never the thread that accepts its connections: signals are dealt with
by the main thread, connections are served by threads of their own, and every other shutdown comes
from outside.  So there is always another thread to wait for.  A turn that has begun is not cut
short: what comes in between of it is done before it goes on, so a shutdown in the middle of a turn
closes the listener before the loop logs that it has come to its end.

    stopping a server that does not run does nothing               (stop_of_not_running)
    starting a server that runs only logs that it does             (launch_of_running)
-/

namespace StaticHttp

namespace Site

/-! ## With interruptions -/

section

variable (perform : Interrupts)

/-- The name of the threads that accept connections. -/
def acceptThreadName : Text := "docserve-accept"

/-- Wait for a thread that accepts connections: it has its turn now, unless the turn has begun. -/
def join (number : Nat) : Run Site Unit := do
  call perform (.joinThread number acceptThreadName)
  runAcceptThread perform number

/-- Stop the server: wait for the thread that accepts connections, which is another one than that
which waits, and close the listener. -/
def stop : Run Site Unit := do
  if (← get).server.running then
    note Log.info "Shutting down server..."
    update fun s => { s with running := false }
    match (← get).server.acceptThread with
    | none => pure ()
    | some number => join perform number
    update fun s => { s with acceptThread := none }
    match (← get).server.listener with
    | none => pure ()
    | some l => do
      call perform (.listener l.number .close)
      update fun s => { s with listener := none }
    note Log.info "Server shutdown complete"

/-- Start a thread that accepts connections. -/
def startAccepting : Run Site Unit := do
  let number := (← get).threads.made
  modify fun s => { s with threads := { s.threads with made := number + 1 } }
  update fun s => { s with acceptThread := some number }
  call perform (.startThread (.accepting number) acceptThreadName)
  modify fun s => { s with threads := { s.threads with started := some number } }

/-- Start the server, unless it runs; whether it runs afterwards. -/
def launch : Run Site Bool := do
  if (← get).server.running then
    note Log.warning "Server is already running"
    return true
  match ← Run.attempt (openListener perform) with
  | .ok _ => do
    startAccepting perform
    return true
  | .error f =>
    if f.isSystem then
      let config := (← get).server.config
      note Log.error ("Error starting server on " ++ config.host.display ++ ":" ++
        config.port.display ++ ": " ++ f.message)
      return false
    else throw f

/-- How long a pause is. -/
def pauseLength : Value := .int 1

/-- Pause. -/
def pause : Run Site Unit := do
  let (interruption, rest) := (← get).outside.takePause
  modify fun s => { s with outside := rest }
  happen (.sleep pauseLength)
  interrupted perform interruption

/-- At most so many pauses, as long as the server runs. -/
def pauses : Nat → Run Site Unit
  | 0 => pure ()
  | n + 1 => do
    if (← get).server.running then
      pause perform
      pauses n

/-- Pause until the server is shut down, which it is after the last pause. -/
def idle : Run Site Unit := do
  pauses perform ((← get).outside.pauses.length + 1)

end

/-! ## Lemmas -/

theorem stop_of_not_running (perform : Interrupts) {s : Site} (h : s.server.running = false) :
    stop perform s = .ok () s := by
  simp [stop, h]

theorem launch_of_running (perform : Interrupts) {s : Site} (h : s.server.running = true) :
    launch perform s =
      .ok true (s.push (.log ⟨Server.source, Log.warning, "Server is already running"⟩)) := by
  simp only [launch, Run.get_bind, h, if_true]
  rfl

/-- The name under which the program logs. -/
def programSource : Text := "docserve"

/-- What a watched signal does: it stops the server. -/
def onSignal (perform : Interrupts) (number : Int) : Run Site Unit := do
  happen (.log ⟨programSource, Log.info, "Received signal " ++ Text.ofInt number ++
    ", shutting down..."⟩)
  stop perform

/-- Deal with an interruption, which can itself be interrupted, but not more deeply than the given
bound.  A signal that is not watched does nothing. -/
def perform : Nat → Interrupts
  | 0, _ => pure ()
  | depth + 1, .shutDown => stop (perform depth)
  | depth + 1, .acceptThread => do
    match (← get).threads.started with
    | none => pure ()
    | some number => runAcceptThread (perform depth) number
  | depth + 1, .signal number => do
    if (← get).history.watches number then onSignal (perform depth) number

/-- A bound on how deep interruptions go: between two that have an effect a thread has had its
turn or the server has been shut down. -/
def depth (s : Site) : Nat := 2 * s.threads.made + 4

/-- A computation whose interruptions are dealt with. -/
def interruptible {α : Type} (m : Interrupts → Run Site α) : Run Site α := fun s =>
  m (perform s.depth) s

end Site

/-! ## The operations of a server -/

namespace Server

open Site

/-- Bind the server to its address, from when on it runs. -/
def bind : Run Site Unit := interruptible openListener

/-- Start the server in the background; whether it runs afterwards. -/
def start : Run Site Bool := interruptible launch

/-- Accept connections until the server is shut down. -/
def serveForever : Run Site Unit := interruptible serve

/-- Shut the server down. -/
def shutDown : Run Site Unit := interruptible stop

/-- Wait until the server is shut down. -/
def waitForShutdown : Run Site Unit := interruptible idle

/-- Give the thread that was started last its turn. -/
def runStarted : Run Site Unit := interruptible (· .acceptThread)

end Server

end StaticHttp
