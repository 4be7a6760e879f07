import StaticHttp.Connection

/-!
# The outside of a server

Everything that a server cannot decide for itself is the outside's: which connections come in,
which calls fail, and what comes in between while a call is waited for.  The outside may answer
every call anew, from all that has happened so far; only the connections and the pauses are given
in advance, and after the last of them the server is shut down.
-/

namespace StaticHttp

/-- What can come in between while a call to the outside is waited for: a request to shut the
server down, the turn of the thread that accepts connections, or a signal. -/
inductive Interruption
  | shutDown
  | acceptThread
  | signal (number : Int)
deriving DecidableEq, Inhabited

/-- The address of the other end of a connection, if it is known. -/
abbrev Address := Option (List Value)

/-- What an accept meets: what comes in between, and then a connection or a failure. -/
structure Offer where
  interruption : Option Interruption
  outcome : Except Failure (Connection × Address)

/-- The outside of a server. -/
structure Outside where
  /-- What the next accepts meet. -/
  offers : List Offer
  /-- What comes in between while the server pauses. -/
  pauses : List (Option Interruption)
  /-- The failure of a call, given what has happened before it. -/
  fails : History → Event → Option Failure
  /-- What comes in between during a call, given what has happened before it. -/
  interrupts : History → Event → Option Interruption
  /-- The name of a listener that was bound to a host and a port. -/
  boundName : Value → Value → List Value

namespace Outside

/-- What an accept meets after the last offer: the server is shut down, and its listener with it. -/
def lastOffer : Offer := ⟨some .shutDown, .error .badDescriptor⟩

/-- The port that is found for a listener that may have any. -/
def freePort : Value := .int 49152

/-- The name of a listener is what it was bound to, with a port that was found for it if none was
asked for. -/
def standardName (host port : Value) : List Value :=
  [host, if port.isTruthy then port else freePort]

/-- The outside in which nothing comes in, nothing fails and nothing comes in between. -/
def quiet : Outside where
  offers := []
  pauses := []
  fails _ _ := none
  interrupts _ _ := none
  boundName := standardName

/-- What the next accept meets, and the outside after it. -/
def takeOffer (o : Outside) : Offer × Outside :=
  match o.offers with
  | [] => (lastOffer, o)
  | offer :: rest => (offer, { o with offers := rest })

/-- What comes in between while the server pauses, and the outside after the pause. -/
def takePause (o : Outside) : Option Interruption × Outside :=
  match o.pauses with
  | [] => (some .shutDown, o)
  | pause :: rest => (pause, { o with pauses := rest })

end Outside

end StaticHttp
