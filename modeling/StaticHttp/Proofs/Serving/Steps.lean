import StaticHttp.Handler
import StaticHttp.Proofs.Http.Reception

/-!
# The steps of serving a connection

The exchange on a connection is a chain of six steps: limit the time, receive the head, find the
path in it, route the path, write the response down, send it.  `Fails` says what each of them can
fail with when the ones before have succeeded, and `Prepared` that all but the last succeed.

    Received h x head x' →
      h.converse peer x = (h.reply peer head >>= send) x'             (Received.converse_eq)
-/

namespace StaticHttp

/-! ## Events -/

/-- The call on a connection that an event is, with the number of the connection. -/
def Event.call? : Event → Option (Nat × ConnectionCall)
  | .connection number call => some (number, call)
  | _ => none

/-- The entry that an event logs. -/
def Event.entry? : Event → Option Log.Entry
  | .log entry => some entry
  | _ => none

/-- The calls on connections among some events. -/
def calls (es : List Event) : List (Nat × ConnectionCall) := es.filterMap Event.call?

/-- Calls on the connection with the given number. -/
def callsOn (number : Nat) (cs : List ConnectionCall) : List (Nat × ConnectionCall) :=
  cs.map (Prod.mk number)

theorem callsOn_append (number : Nat) (cs ds : List ConnectionCall) :
    callsOn number (cs ++ ds) = callsOn number cs ++ callsOn number ds :=
  List.map_append

theorem mem_callsOn {m n : Nat} {cs : List ConnectionCall} {call : ConnectionCall} :
    (m, call) ∈ callsOn n cs ↔ m = n ∧ call ∈ cs := by
  unfold callsOn
  constructor
  · intro h
    obtain ⟨c, hc, heq⟩ := List.mem_map.1 h
    cases heq
    exact ⟨rfl, hc⟩
  · rintro ⟨rfl, hc⟩
    exact List.mem_map_of_mem hc

@[simp] theorem calls_append (es fs : List Event) : calls (es ++ fs) = calls es ++ calls fs :=
  List.filterMap_append

@[simp] theorem calls_connection (number : Nat) (call : ConnectionCall) :
    calls [.connection number call] = [(number, call)] := rfl

theorem calls_map_log (entries : List Log.Entry) : calls (entries.map .log) = [] := by
  induction entries with
  | nil => rfl
  | cons e entries ih => exact ih

namespace Handler

/-- The entries of a handler that are warnings or worse. -/
def alarms (es : List Event) : List Log.Entry :=
  (es.filterMap Event.entry?).filter fun e => e.source = source ∧ Log.warning ≤ e.level

@[simp] theorem alarms_append (es fs : List Event) :
    alarms (es ++ fs) = alarms es ++ alarms fs := by
  rw [alarms, List.filterMap_append, List.filter_append]
  rfl

@[simp] theorem alarms_connection (number : Nat) (call : ConnectionCall) :
    alarms [.connection number call] = [] := rfl

theorem alarms_log_of_lt {level : Int} (h : level < Log.warning) (name message : Text) :
    alarms [.log ⟨name, level, message⟩] = [] := by
  have : ¬ Log.warning ≤ level := by omega
  simp [alarms, Event.entry?, this]

/-- Under other names no warning of a handler is logged. -/
theorem alarms_map_log_of_ne {entries : List Log.Entry} (h : ∀ e ∈ entries, e.source ≠ source) :
    alarms (entries.map .log) = [] := by
  rw [alarms, List.filterMap_map, List.filter_eq_nil_iff]
  intro e he
  obtain ⟨e', he', heq⟩ := List.mem_filterMap.1 he
  obtain rfl := Option.some.inj heq
  simp [h e' he']

/-- A failed exchange is reported with one entry that is a warning or worse. -/
theorem length_alarms_report (peer : Text) (f : Failure) :
    (alarms ((report peer f).map .log)).length = 1 := by
  unfold report
  split
  · rfl
  split
  · rfl
  split
  · rfl
  · rfl

/-! ## The steps -/

/-- The exchange with a request logged. -/
def logged (peer : Text) (head : Bytes) (x : Exchange) : Exchange :=
  x.log source Log.debug ("Request from " ++ peer ++ ": " ++ Text.quotedBytes head)

/-- The exchange with a request and its first line logged. -/
def announced (peer : Text) (head : Bytes) (x : Exchange) : Exchange :=
  (logged peer head x).log source Log.info (peer ++ " - " ++ Request.line head)

/-- The exchange with a response logged. -/
def answered (peer : Text) (response : Response) (payload : Bytes) (x : Exchange) : Exchange :=
  x.log source Log.info
    (peer ++ " - " ++ response.status ++ " (" ++ Text.ofNat payload.length ++ " bytes)")

/-- The time is limited and a head is received. -/
structure Received (h : Handler) (x : Exchange) (head : Bytes) (x' : Exchange) : Prop where
  setTimeout : x.connection.setTimeoutFails = none
  readHead : Request.readHead h.receiveSize (x.record (.setTimeout h.requestTimeout)) = .ok head x'

/-- A head is received, there is a path in it, and the path is routed. -/
inductive Routed (h : Handler) (peer : Text) (x : Exchange) (response : Response) : Exchange → Prop
  | intro {head : Bytes} {x' : Exchange} {path : Text} {past : History} :
      Received h x head x' → Request.path head = .ok path →
      h.router.route path (announced peer head x').history = .ok response past →
      Routed h peer x response { announced peer head x' with history := past }

/-- Everything succeeds up to the bytes of the response. -/
def Prepared (h : Handler) (peer : Text) (x : Exchange) (payload : Bytes) : Prop :=
  ∃ response x', Routed h peer x response x' ∧ response.toBytes = .ok payload

/-- A step fails that is reached. -/
inductive Fails (h : Handler) (peer : Text) (x : Exchange) : Failure → Prop
  | setTimeout {f : Failure} : x.connection.setTimeoutFails = some f → Fails h peer x f
  | readHead {f : Failure} {x' : Exchange} : x.connection.setTimeoutFails = none →
      Request.readHead h.receiveSize (x.record (.setTimeout h.requestTimeout)) = .error f x' →
      Fails h peer x f
  | path {f : Failure} {head : Bytes} {x' : Exchange} : Received h x head x' →
      Request.path head = .error f → Fails h peer x f
  | route {f : Failure} {head : Bytes} {x' : Exchange} {path : Text} {past : History} :
      Received h x head x' → Request.path head = .ok path →
      h.router.route path (announced peer head x').history = .error f past → Fails h peer x f
  | toBytes {f : Failure} {response : Response} {x' : Exchange} : Routed h peer x response x' →
      response.toBytes = .error f → Fails h peer x f
  | send {f : Failure} {payload : Bytes} : Prepared h peer x payload →
      x.connection.sendFails = some f → Fails h peer x f

section

variable {h : Handler} {peer : Text} {head payload : Bytes} {x x' y : Exchange} {f : Failure}

theorem Received.unique {head' : Bytes} (hr : Received h x head x') (hr' : Received h x head' y) :
    head = head' ∧ x' = y := by
  have := hr.readHead.symm.trans hr'.readHead
  cases this
  exact ⟨rfl, rfl⟩

/-- From a connection with a blank line in its stream a head is received: what stands in front of
it. -/
theorem exists_received {n : Nat} (hsize : Connection.Positive h.receiveSize)
    (hset : x.connection.setTimeoutFails = none) (hfails : x.connection.receiveFails = none)
    (hn : Request.indexOf? Request.blankLine x.connection.stream = some n) :
    ∃ count x', Received h x (x.connection.stream.take n) x' ∧
      Exchange.Receives h.receiveSize (count + 1) (x.record (.setTimeout h.requestTimeout)) x' := by
  obtain ⟨count, x', hread, hreceives⟩ :=
    Request.readHead_of_stream (x := x.record (.setTimeout h.requestTimeout)) hsize hfails hn
  exact ⟨count, x', ⟨hset, hread⟩, hreceives⟩

/-! ### What is answered -/

theorem reply_of_path_error (hp : Request.path head = .error f) :
    h.reply peer head x = .error f (logged peer head x) :=
  Run.bind_of_error (Run.lift_of_error hp (logged peer head x)) _

section

variable {path : Text} {past : History} {response : Response}

theorem reply_of_route_error (hp : Request.path head = .ok path)
    (hr : h.router.route path (announced peer head x).history = .error f past) :
    h.reply peer head x = .error f { announced peer head x with history := past } := by
  refine (Run.bind_of_ok (Run.lift_of_ok hp (logged peer head x)) _).trans ?_
  exact Run.bind_of_error (Exchange.onHistory_of_error hr) _

theorem reply_of_toBytes_error (hp : Request.path head = .ok path)
    (hr : h.router.route path (announced peer head x).history = .ok response past)
    (hb : response.toBytes = .error f) :
    h.reply peer head x = .error f { announced peer head x with history := past } := by
  refine (Run.bind_of_ok (Run.lift_of_ok hp (logged peer head x)) _).trans ?_
  refine (Run.bind_of_ok (Exchange.onHistory_of_ok hr) _).trans ?_
  exact Run.bind_of_error (Run.lift_of_error hb _) _

theorem reply_of_toBytes (hp : Request.path head = .ok path)
    (hr : h.router.route path (announced peer head x).history = .ok response past)
    (hb : response.toBytes = .ok payload) :
    h.reply peer head x = .ok payload
      (answered peer response payload { announced peer head x with history := past }) := by
  refine (Run.bind_of_ok (Run.lift_of_ok hp (logged peer head x)) _).trans ?_
  refine (Run.bind_of_ok (Exchange.onHistory_of_ok hr) _).trans ?_
  exact Run.bind_of_ok (Run.lift_of_ok hb _) _

end

/-! ### The exchange -/

theorem setTimeout_of_some (hf : x.connection.setTimeoutFails = some f) (seconds : Value) :
    Exchange.setTimeout seconds x = .error f (x.record (.setTimeout seconds)) := by
  simp only [Exchange.setTimeout, Exchange.call, hf]

theorem setTimeout_of_none (hf : x.connection.setTimeoutFails = none) (seconds : Value) :
    Exchange.setTimeout seconds x = .ok () (x.record (.setTimeout seconds)) := by
  simp only [Exchange.setTimeout, Exchange.call, hf]

theorem converse_of_setTimeout (hf : x.connection.setTimeoutFails = some f) :
    h.converse peer x = .error f (x.record (.setTimeout h.requestTimeout)) :=
  Run.bind_of_error (setTimeout_of_some hf _) _

theorem converse_of_readHead (hf : x.connection.setTimeoutFails = none)
    (hr : Request.readHead h.receiveSize (x.record (.setTimeout h.requestTimeout)) = .error f x') :
    h.converse peer x = .error f x' := by
  rw [converse, Run.bind_of_ok (setTimeout_of_none hf _), Run.bind_of_error hr]

theorem Received.converse_eq (hr : Received h x head x') :
    h.converse peer x = (h.reply peer head >>= Exchange.send) x' := by
  rw [converse, Run.bind_of_ok (setTimeout_of_none hr.setTimeout _), Run.bind_of_ok hr.readHead]

theorem Received.converse_of_error (hr : Received h x head x')
    (hy : h.reply peer head x' = .error f y) : h.converse peer x = .error f y := by
  rw [hr.converse_eq, Run.bind_of_error hy]

theorem Received.converse_of_ok (hr : Received h x head x')
    (hy : h.reply peer head x' = .ok payload y) :
    h.converse peer x = Exchange.send payload y := by
  rw [hr.converse_eq, Run.bind_of_ok hy]

end

end Handler

end StaticHttp
