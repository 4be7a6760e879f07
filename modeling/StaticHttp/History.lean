import StaticHttp.Failure
import StaticHttp.Log.Entry

/-!
# Histories

Whatever the server does to the outside, and whatever it logs, is an event; a history is the
sequence of the events so far.  Nothing is ever taken back: every operation only adds events at
the end, and everything that depends on what happened before is a function of the history.

    (h.push e).toList = h.toList ++ [e]                   (toList_push)
-/

namespace StaticHttp

/-- What can be done with a listening socket. -/
inductive ListenerCall
  | create
  | reuseAddress
  | bind (host port : Value)
  | listen (queue : Value)
  | setTimeout (seconds : Value)
  | close
deriving Inhabited

/-- What can be done with a connection. -/
inductive ConnectionCall
  | setTimeout (seconds : Value)
  | receive (size : Value)
  | send (bytes : Bytes)
  | close

/-- What a thread is for: accepting connections, or serving one of them. -/
inductive Purpose
  | accepting (number : Nat)
  | serving (connection : Nat)
deriving DecidableEq

/-- Something that happened.  Listeners, connections and threads are told apart by number. -/
inductive Event
  | log (entry : Log.Entry)
  | setUpLogging (settings : Log.Settings)
  | load (path : Text)
  | connection (number : Nat) (call : ConnectionCall)
  | listener (number : Nat) (call : ListenerCall)
  | accept
  | startThread (purpose : Purpose) (name : Text)
  | joinThread (number : Nat) (name : Text)
  | threadFailure (failure : Failure)
  | sleep (seconds : Value)
  | watchSignal (number : Int)

/-- The events so far. -/
structure History where
  newestFirst : List Event

namespace History

/-- The history in which nothing has happened. -/
def empty : History := ⟨[]⟩

/-- The events, the oldest first. -/
def toList (h : History) : List Event := h.newestFirst.reverse

/-- The history with one more event. -/
def push (h : History) (e : Event) : History := ⟨e :: h.newestFirst⟩

/-- The number of events. -/
def size (h : History) : Nat := h.newestFirst.length

/-- The history with one more entry logged. -/
def log (h : History) (source : Text) (level : Int) (message : Text) : History :=
  h.push (.log ⟨source, level, message⟩)

/-- The history with more entries logged. -/
def logAll (h : History) (entries : List Log.Entry) : History :=
  entries.foldl (fun h e => h.push (.log e)) h

/-- The events after the first `n`. -/
def since (h : History) (n : Nat) : List Event := h.toList.drop n

/-- How many documents have been loaded. -/
def loads (h : History) : Nat :=
  h.newestFirst.countP fun
    | .load _ => true
    | _ => false

/-- Whether a signal is watched for. -/
def watches (h : History) (number : Int) : Bool :=
  h.newestFirst.any fun
    | .watchSignal n => n = number
    | _ => false

/-! ## Lemmas -/

@[simp] theorem toList_empty : empty.toList = [] := rfl

@[simp] theorem toList_push (h : History) (e : Event) : (h.push e).toList = h.toList ++ [e] := by
  simp [toList, push]

@[simp] theorem toList_log (h : History) (source : Text) (level : Int) (message : Text) :
    (h.log source level message).toList = h.toList ++ [.log ⟨source, level, message⟩] :=
  toList_push h _

@[simp] theorem toList_logAll (h : History) (entries : List Log.Entry) :
    (h.logAll entries).toList = h.toList ++ entries.map .log := by
  induction entries generalizing h with
  | nil => simp [logAll]
  | cons e rest ih =>
    have := ih (h.push (.log e))
    simp only [logAll, List.foldl_cons] at this ⊢
    rw [this]
    simp

@[simp] theorem size_push (h : History) (e : Event) : (h.push e).size = h.size + 1 := rfl

theorem length_toList (h : History) : h.toList.length = h.size := by simp [toList, size]

end History

end StaticHttp
