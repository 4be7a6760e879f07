import StaticHttp.History
import StaticHttp.Run

/-!
# Connections

A connection is known by what comes out of it: a list of deliveries, each some bytes or a
failure, after which it is at its end.  A receive takes at most as many bytes as it is asked
for and leaves the rest in place; an empty delivery reads like the end.  Any call on the
connection may fail besides.
-/

namespace StaticHttp

/-- What the next receive on a connection meets. -/
inductive Delivery
  | bytes (bs : Bytes)
  | failure (f : Failure)

/-- A connection: its number, what is still to be delivered, and the failure of each sort of call
that fails. -/
structure Connection where
  number : Nat
  incoming : List Delivery
  setTimeoutFails : Option Failure
  receiveFails : Option Failure
  sendFails : Option Failure
  closeFails : Option Failure

namespace Delivery

/-- How many bytes a delivery has. -/
def size : Delivery → Nat
  | bytes bs => bs.length
  | failure _ => 0

/-- How many bytes several deliveries have. -/
def total : List Delivery → Nat
  | [] => 0
  | d :: rest => d.size + total rest

end Delivery

namespace Connection

/-- How many bytes are still to be delivered. -/
def pending (c : Connection) : Nat := Delivery.total c.incoming

/-- A bound on the receives that can still bring something: every one of them takes a delivery
or a byte away. -/
def weight (c : Connection) : Nat := c.incoming.length + c.pending

/-- How many bytes a receive of the given size takes at most.  Only a whole number can count
them. -/
def limit (size : Value) : Except Failure Nat :=
  match size with
  | .int n => .ok n.toNat
  | .bool b => .ok b.toNat
  | _ => .error (.badSort "slice indices must be integers or None or have an __index__ method")

/-- What is still to be delivered of some bytes, in front of the rest. -/
def remaining (bs : Bytes) (rest : List Delivery) : List Delivery :=
  if bs = [] then rest else .bytes bs :: rest

/-- What a receive of the given size brings, and the connection after it. -/
def take (c : Connection) (size : Value) : Except Failure Bytes × Connection :=
  match c.receiveFails with
  | some f => (.error f, c)
  | none =>
    match size.compareInt? 0 with
    | none => (.error (.notComparable "<" size), c)
    | some (some .lt) => (.error (.badValue "negative buffersize in recv"), c)
    | some _ =>
      match c.incoming with
      | [] => (.ok [], c)
      | .failure f :: rest => (.error f, { c with incoming := rest })
      | .bytes bs :: rest =>
        match limit size with
        | .error f => (.error f, c)
        | .ok n => (.ok (bs.take n), { c with incoming := remaining (bs.drop n) rest })

theorem total_remaining (bs : Bytes) (rest : List Delivery) :
    Delivery.total (remaining bs rest) = bs.length + Delivery.total rest := by
  unfold remaining
  split
  · next h => simp [h]
  · rfl

theorem length_remaining_le (bs : Bytes) (rest : List Delivery) :
    (remaining bs rest).length ≤ rest.length + 1 := by
  unfold remaining
  split <;> simp

/-- A receive that brings something makes the connection lighter. -/
theorem weight_take {c c' : Connection} {size : Value} {bs : Bytes}
    (h : c.take size = (.ok bs, c')) (hbs : bs ≠ []) : c'.weight < c.weight := by
  unfold take at h
  split at h
  · simp at h
  · split at h
    · simp at h
    · simp at h
    · split at h
      · simp only [Prod.mk.injEq, Except.ok.injEq] at h
        exact absurd h.1.symm hbs
      · simp at h
      · next chunk rest heq =>
        split at h
        · simp at h
        · next n hn =>
          simp only [Prod.mk.injEq, Except.ok.injEq] at h
          obtain ⟨rfl, rfl⟩ := h
          have hpos : 0 < chunk.length ∧ 0 < n := by
            constructor
            · rcases chunk with _ | ⟨b, tail⟩
              · simp at hbs
              · simp
            · rcases n with _ | n
              · simp at hbs
              · omega
          have hlength := length_remaining_le (chunk.drop n) rest
          simp only [weight, pending, heq, total_remaining, Delivery.total, Delivery.size,
            List.length_cons, List.length_drop]
          omega

end Connection

/-! ## Exchanges -/

/-- A connection in use, and what has happened so far. -/
structure Exchange where
  history : History
  connection : Connection

namespace Exchange

/-- The exchange with a call on its connection recorded. -/
def record (x : Exchange) (call : ConnectionCall) : Exchange :=
  { x with history := x.history.push (.connection x.connection.number call) }

/-- The exchange with an entry logged. -/
def log (x : Exchange) (source : Text) (level : Int) (message : Text) : Exchange :=
  { x with history := x.history.log source level message }

/-- A call that does nothing but fail or not. -/
def call (call : ConnectionCall) (fails : Connection → Option Failure) : Run Exchange Unit :=
  fun x => match fails x.connection with
  | some f => .error f (x.record call)
  | none => .ok () (x.record call)

/-- Limit the time that a receive may take. -/
def setTimeout (seconds : Value) : Run Exchange Unit :=
  call (.setTimeout seconds) (·.setTimeoutFails)

/-- Write all of the given bytes. -/
def send (bytes : Bytes) : Run Exchange Unit := call (.send bytes) (·.sendFails)

/-- Close the connection. -/
def close : Run Exchange Unit := call .close (·.closeFails)

/-- What a receive brings, and the exchange after it. -/
def take (x : Exchange) (size : Value) : Except Failure Bytes × Exchange :=
  let (result, c) := x.connection.take size
  (result, { x.record (.receive size) with connection := c })

/-- A receive that brings something makes the connection lighter. -/
theorem weight_take {x x' : Exchange} {size : Value} {bs : Bytes}
    (h : x.take size = (.ok bs, x')) (hbs : bs ≠ []) :
    x'.connection.weight < x.connection.weight := by
  unfold take at h
  simp only [Prod.mk.injEq] at h
  obtain ⟨h₁, rfl⟩ := h
  exact Connection.weight_take (Prod.ext h₁ rfl) hbs

/-- Log an entry. -/
def note (source : Text) (level : Int) (message : Text) : Run Exchange Unit := fun x =>
  .ok () (x.log source level message)

/-- A computation on the history alone. -/
def onHistory {α : Type} (m : Run History α) : Run Exchange α := fun x =>
  match m x.history with
  | .ok a h => .ok a { x with history := h }
  | .error f h => .error f { x with history := h }

theorem onHistory_of_ok {α : Type} {m : Run History α} {x : Exchange} {a : α} {past : History}
    (h : m x.history = .ok a past) : onHistory m x = .ok a { x with history := past } := by
  rw [onHistory, h]

theorem onHistory_of_error {α : Type} {m : Run History α} {x : Exchange} {f : Failure}
    {past : History} (h : m x.history = .error f past) :
    onHistory m x = .error f { x with history := past } := by
  rw [onHistory, h]

end Exchange

end StaticHttp
