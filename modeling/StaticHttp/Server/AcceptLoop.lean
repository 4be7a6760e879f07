import StaticHttp.Server.Site

/-!
# Accepting connections

A server is bound to its address by a listener of its own.  As long as it runs it accepts one
connection after the other and has each of them served by a thread of its own.  A connection
whose thread cannot be started is closed, and an accept that fails is tried again.

    a server that does not run accepts nothing                    (rounds_of_not_running)
    a thread that accepts connections has one turn                (runAcceptThread_of_begun)
-/

namespace StaticHttp

namespace Site

variable (perform : Interrupts)

/-! ## Binding -/

/-- How long an accept waits before the loop looks whether the server still runs. -/
def acceptTimeout : Value := .real (Binary64.ofDecimal false 5 (-1))

/-- Make a new listener listen at the server's address. -/
def listen (number : Nat) : Run Site Unit := do
  let config := (← get).server.config
  call perform (.listener number .reuseAddress)
  call perform (.listener number (.bind config.host config.port))
  call perform (.listener number (.listen config.connectionQueue))
  call perform (.listener number (.setTimeout acceptTimeout))

/-- Log the address that the server is bound to, which has to have a host and a port.  The server
runs by now, so it can be shut down in between. -/
def announce (name : List Value) (root : Value) : Run Site Unit :=
  match name.take 2 with
  | [host, port] => do
    tell perform Log.info
      ("Server started and bound to http://" ++ host.display ++ ":" ++ port.display)
    tell perform Log.info ("Serving files from " ++ root.display)
  | short => throw (.tooFewItems 2 short.length)

/-- Bind the server to its address; it runs from then on.  A listener that the operating system
refuses to bind is closed. -/
def openListener : Run Site Unit := do
  let number := (← get).listeners
  let config := (← get).server.config
  modify fun s => { s with listeners := number + 1 }
  call perform (.listener number .create)
  match ← Run.attempt (listen perform number) with
  | .ok _ => pure ()
  | .error f => do
    if f.isSystem then call perform (.listener number .close)
    throw f
  let name := (← get).outside.boundName config.host config.port
  update fun s => { s with listener := some ⟨number, name⟩, running := true }
  announce perform name config.documentRoot

/-! ## The loop -/

/-- Accept a connection. -/
def accept : Run Site (Connection × Address) := do
  let (offer, rest) := (← get).outside.takeOffer
  modify fun s => { s with outside := rest }
  happen .accept
  interrupted perform offer.interruption
  Run.lift offer.outcome

/-- The name of the thread for a connection: the first two items of its address. -/
def workerName : Address → Except Failure Text
  | none => .error (.notIndexable .null)
  | some (host :: port :: _) => .ok ("docserve-" ++ host.display ++ ":" ++ port.display)
  | some _ => .error .shortAddress

/-- Have a connection served by a thread of its own. -/
def dispatch (c : Connection) (address : Address) : Run Site Unit := do
  let name ← Run.lift (workerName address)
  call perform (.startThread (.serving c.number) name)
  let handler := (← get).server.handler
  asThread (onConnection c (handler.serve address))

/-- An address in a message. -/
def addressText : Address → Text
  | none => Value.null.display
  | some items => Value.quotedTuple items

/-- Deal with an accepted connection. -/
def attend (c : Connection) (address : Address) : Run Site Unit := do
  match ← Run.attempt (dispatch perform c address) with
  | .ok _ => pure ()
  | .error f =>
    if f.isFinal then throw f
    note Log.error
      ("Error dispatching connection from " ++ addressText address ++ ": " ++ f.message)
    onConnection c Exchange.close

/-- How long the loop pauses after an accept that failed. -/
def retryPause : Value := .real (Binary64.ofDecimal false 1 (-1))

/-- Deal with an accept that failed.  While the server runs, a failure of the operating system is
logged. -/
def endure (f : Failure) : Run Site Unit := do
  if f.isTimeout then pure ()
  else if f.isSystem then
    if (← get).server.running then
      note Log.error ("Error accepting connection: " ++ f.message)
      call perform (.sleep retryPause)
  else throw f

/-- Accept one connection and deal with it. -/
def round : Run Site Unit := do
  match ← Run.attempt (accept perform) with
  | .ok (c, address) => attend perform c address
  | .error f => endure perform f

/-- At most so many rounds, as long as the server runs. -/
def rounds : Nat → Run Site Unit
  | 0 => pure ()
  | n + 1 => do
    if (← get).server.running then
      round perform
      rounds n

/-- Accept connections until the server is shut down, which it is after the last offer. -/
def serve : Run Site Unit := do
  if (← get).server.listener.isNone then openListener perform
  rounds perform ((← get).outside.offers.length + 1)
  note Log.debug "Accept loop stopped"

/-- Give a thread that accepts connections its turn, unless it has had it. -/
def runAcceptThread (number : Nat) : Run Site Unit := do
  let threads := (← get).threads
  if number ∈ threads.begun then pure ()
  else
    modify fun s => { s with threads := { threads with begun := number :: threads.begun } }
    asThread (serve perform)

/-! ## Lemmas -/

theorem rounds_of_not_running {s : Site} (h : s.server.running = false) (n : Nat) :
    rounds perform n s = .ok () s := by
  cases n with
  | zero => rfl
  | succ n => simp [rounds, h]

theorem runAcceptThread_of_begun {s : Site} {number : Nat} (h : number ∈ s.threads.begun) :
    runAcceptThread perform number s = .ok () s := by
  simp [runAcceptThread, h]

end Site

end StaticHttp
