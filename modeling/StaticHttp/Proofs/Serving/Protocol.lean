import StaticHttp.Proofs.Serving.Course

/-!
# What serving a connection does to it

Whatever fails, a connection is used in one order only: its time is limited, bytes are received,
at most one response is sent, and the connection is closed, once and last.  The response is sent
when every step before the sending succeeds, and it is the response to the path in the head.  A
failure is logged with one entry that is a warning or worse and goes no further, unless it is final:
then it goes on after the connection has been closed.

    Protocol h peer x (Run.outcome (h.serve address) x) (Exchange.events (h.serve address) x)
-/

namespace StaticHttp.Handler

/-! ## Closing -/

/-- A failed exchange is only closed after it has been reported. -/
def reported (peer : Text) (f : Failure) (y : Exchange) : Exchange :=
  { y with history := y.history.logAll (report peer f) }

section

variable {h : Handler} {peer : Text} {x y : Exchange} {f : Failure}

theorem serveAs_of_ok (hc : h.converse peer x = .ok () y) : h.serveAs peer x = finish peer y := by
  rw [serveAs, hc]

theorem serveAs_of_error (hc : h.converse peer x = .error f y) (hf : f.isFinal = false) :
    h.serveAs peer x = finish peer (reported peer f y) := by
  rw [serveAs, hc]
  simp only [hf]
  rfl

theorem after_serveAs_of_final (hc : h.converse peer x = .error f y) (hf : f.isFinal = true) :
    Run.after (h.serveAs peer) x = Run.after (finish peer) y := by
  unfold Run.after
  rw [serveAs, hc]
  simp only [hf, if_true]
  cases finish peer y <;> rfl

theorem outcome_serveAs_of_final (hc : h.converse peer x = .error f y) (hf : f.isFinal = true)
    (hfinish : Run.outcome (finish peer) y = .ok ()) :
    Run.outcome (h.serveAs peer) x = .error f := by
  unfold Run.outcome at hfinish ⊢
  rw [serveAs, hc]
  simp only [hf, if_true]
  cases hy : finish peer y with
  | ok _ _ => rfl
  | error g z =>
    rw [hy] at hfinish
    cases hfinish

/-- The connection is closed and no warning is logged. -/
theorem finish_history (peer : Text) (y : Exchange) :
    ∃ es, (Run.after (finish peer) y).history.toList = y.history.toList ++ es ∧
      calls es = [(y.connection.number, .close)] ∧ alarms es = [] := by
  unfold Run.after
  cases hc : y.connection.closeFails with
  | none =>
    simp only [finish, Exchange.close, Exchange.call, hc]
    exact ⟨_, Exchange.toList_record _ _, rfl, rfl⟩
  | some f =>
    simp only [finish, Exchange.close, Exchange.call, hc]
    by_cases hf : f.isSystem = true
    · rw [if_pos hf]
      refine ⟨_, by rw [Exchange.toList_log, Exchange.toList_record, List.append_assoc], rfl, ?_⟩
      exact alarms_log_of_lt (by decide) _ _
    · rw [if_neg hf]
      exact ⟨_, Exchange.toList_record _ _, rfl, rfl⟩

theorem outcome_finish (hclose : ∀ f, y.connection.closeFails = some f → f.isSystem = true)
    (peer : Text) : Run.outcome (finish peer) y = .ok () := by
  unfold Run.outcome
  cases hc : y.connection.closeFails with
  | none => simp only [finish, Exchange.close, Exchange.call, hc]
  | some f => simp only [finish, Exchange.close, Exchange.call, hc, hclose f hc, if_true]

/-- How many warnings are logged about an exchange that comes to the given outcome. -/
def alarmCount : Except Failure Unit → Nat
  | .ok _ => 0
  | .error f => if f.isFinal then 0 else 1

/-- Behind the exchange there is one call, and it closes the connection. -/
theorem serveAs_history (h : Handler) (peer : Text) (x : Exchange) :
    ∃ es, (Run.after (h.serveAs peer) x).history.toList =
        (Run.after (h.converse peer) x).history.toList ++ es ∧
      calls es = [((Run.after (h.converse peer) x).connection.number, .close)] ∧
      (alarms es).length = alarmCount (Run.outcome (h.converse peer) x) := by
  cases hc : h.converse peer x with
  | ok u y =>
    obtain ⟨es, hes, hcalls, halarms⟩ := finish_history peer y
    rw [Run.after_of_ok hc, Run.outcome_of_ok hc]
    rw [Run.after_congr (serveAs_of_ok hc)]
    exact ⟨es, hes, hcalls, by rw [halarms]; rfl⟩
  | error f y =>
    rw [Run.after_of_error hc, Run.outcome_of_error hc]
    by_cases hf : f.isFinal = true
    · obtain ⟨es, hes, hcalls, halarms⟩ := finish_history peer y
      rw [after_serveAs_of_final hc hf]
      exact ⟨es, hes, hcalls, by rw [halarms, alarmCount, if_pos hf]; rfl⟩
    · obtain ⟨es, hes, hcalls, halarms⟩ := finish_history peer (reported peer f y)
      have hfalse : f.isFinal = false := Bool.eq_false_iff.2 hf
      refine ⟨(report peer f).map .log ++ es, ?_, ?_, ?_⟩
      · rw [Run.after_congr (serveAs_of_error hc hfalse), hes, reported, History.toList_logAll,
          List.append_assoc]
      · rw [calls_append, calls_map_log, hcalls]
        rfl
      · rw [alarms_append, halarms, List.append_nil, length_alarms_report, alarmCount, if_neg hf]

/-! ## The whole -/

/-- An exchange reaches its end with at most one payload sent, the one that was prepared. -/
theorem exists_reaches (h : Handler) (peer : Text) (x : Exchange) :
    ∃ sent, sent.length ≤ 1 ∧ (∀ payload, payload ∈ sent ↔ Prepared h peer x payload) ∧
      Reaches h sent x (Run.after (h.converse peer) x) := by
  have hc := converse_course h peer x
  unfold Run.after
  generalize h.converse peer x = result at hc
  cases hc with
  | brokenOff _ hnone hreach => exact ⟨[], by simp, by simpa using hnone, hreach⟩
  | unsent hp _ hreach => exact ⟨[_], by simp, hp.mem_singleton_iff, hreach⟩
  | answered hp _ hreach => exact ⟨[_], by simp, hp.mem_singleton_iff, hreach⟩

/-- The calls on a connection that is served and the warnings about it. -/
theorem serveAs_events (h : Handler) (peer : Text) (x : Exchange) :
    ∃ (count : Nat) (sent : List Bytes), sent.length ≤ 1 ∧
      (∀ payload, payload ∈ sent ↔ Prepared h peer x payload) ∧
      (x.connection.setTimeoutFails = none → 0 < count) ∧
      calls (Exchange.events (h.serveAs peer) x) =
        callsOn x.connection.number (h.spoken count sent ++ [.close]) ∧
      (alarms (Exchange.events (h.serveAs peer) x)).length =
        alarmCount (Run.outcome (h.converse peer) x) := by
  obtain ⟨sent, hlen, hsent, ⟨⟨rest, hr⟩, count, es, hes, halarms, hcalls, hcount⟩⟩ :=
    exists_reaches h peer x
  obtain ⟨fs, hfs, hfcalls, hfalarms⟩ := serveAs_history h peer x
  have hnumber : (Run.after (h.converse peer) x).connection.number = x.connection.number := by
    rw [hr]
  rw [hes, List.append_assoc] at hfs
  rw [Exchange.events_eq hfs]
  refine ⟨count, sent, hlen, hsent, hcount, ?_, ?_⟩
  · rw [calls_append, hcalls, hfcalls, hnumber, callsOn_append]
    rfl
  · rw [alarms_append, halarms, List.nil_append, hfalarms]

/-- What the serving of a connection comes to, by what its exchange comes to. -/
def settled : Except Failure Unit → Except Failure Unit
  | .ok _ => .ok ()
  | .error f => if f.isFinal then .error f else .ok ()

/-- What serving comes to, when nothing but the operating system refuses to close. -/
theorem outcome_serveAs (h : Handler) (peer : Text) {x : Exchange}
    (hclose : ∀ f, x.connection.closeFails = some f → f.isSystem = true) :
    Run.outcome (h.serveAs peer) x = settled (Run.outcome (h.converse peer) x) := by
  obtain ⟨_, _, _, ⟨⟨rest, hr⟩, _⟩⟩ := exists_reaches h peer x
  have hafter : ∀ f, (Run.after (h.converse peer) x).connection.closeFails = some f →
      f.isSystem = true := by
    rw [hr]
    exact hclose
  cases hc : h.converse peer x with
  | ok u y =>
    rw [Run.after_of_ok hc] at hafter
    rw [Run.outcome_of_ok hc, Run.outcome_congr (serveAs_of_ok hc)]
    exact outcome_finish hafter peer
  | error f y =>
    rw [Run.after_of_error hc] at hafter
    rw [Run.outcome_of_error hc]
    by_cases hf : f.isFinal = true
    · rw [settled, if_pos hf]
      exact outcome_serveAs_of_final hc hf (outcome_finish hafter peer)
    · have hfalse : f.isFinal = false := Bool.eq_false_iff.2 hf
      have hreported : ∀ g, (reported peer f y).connection.closeFails = some g →
          g.isSystem = true := hafter
      rw [settled, if_neg hf, Run.outcome_congr (serveAs_of_error hc hfalse)]
      exact outcome_finish hreported peer

/-- The other end has a name when its address has no item at all or at least two. -/
theorem exists_peerName {address : Option (List Value)} (haddress : ∀ v, address ≠ some [v]) :
    ∃ peer, peerName address = .ok peer := by
  match address with
  | none => exact ⟨_, rfl⟩
  | some [] => exact ⟨_, rfl⟩
  | some [v] => exact absurd rfl (haddress v)
  | some (host :: port :: _) => exact ⟨_, rfl⟩

theorem serve_of_ok {address : Option (List Value)} (hpeer : peerName address = .ok peer) :
    h.serve address = h.serveAs peer := by
  funext x
  rw [serve, hpeer]

theorem events_serve_of_error {address : Option (List Value)} (hpeer : peerName address = .error f)
    (x : Exchange) : Exchange.events (h.serve address) x = [] := by
  have hserve : h.serve address x = .error f x := by rw [serve, hpeer]
  exact Exchange.events_eq (by rw [Run.after_of_error hserve, List.append_nil])

/-- What is sent is what was prepared, and it is sent on the connection that is served. -/
theorem sent_iff {address : Option (List Value)} (hpeer : peerName address = .ok peer)
    {number : Nat} {payload : Bytes} :
    (number, .send payload) ∈ calls (Exchange.events (h.serve address) x) ↔
      number = x.connection.number ∧ Prepared h peer x payload := by
  obtain ⟨count, sent, _, hsent, _, hcalls, _⟩ := serveAs_events h peer x
  rw [serve_of_ok hpeer, hcalls, mem_callsOn, ← hsent payload]
  simp [spoken]

end

/-- How a connection is served: what serving it comes to, and the events that happen. -/
structure Protocol (h : Handler) (peer : Text) (x : Exchange) (outcome : Except Failure Unit)
    (es : List Event) : Prop where
  /-- The time is limited, bytes are received, at most one payload is sent, and the connection is
  closed. -/
  calls_eq : ∃ (count : Nat) (sent : List Bytes), sent.length ≤ 1 ∧
    calls es = callsOn x.connection.number (.setTimeout h.requestTimeout ::
      (List.replicate count (.receive h.receiveSize) ++ sent.map .send) ++ [.close])
  /-- What is sent is the response that was prepared. -/
  sent_iff : ∀ payload, (x.connection.number, .send payload) ∈ calls es ↔ Prepared h peer x payload
  /-- When no step fails, nothing is reported. -/
  quiet : (∀ f, ¬ Fails h peer x f) → outcome = .ok () ∧ alarms es = []
  /-- A failure is reported once and goes no further. -/
  reported : ∀ f, Fails h peer x f → f.isFinal = false →
    outcome = .ok () ∧ (alarms es).length = 1
  /-- A final failure is not reported and goes on. -/
  final : ∀ f, Fails h peer x f → f.isFinal = true → outcome = .error f ∧ alarms es = []

/-- **Every connection is served by the protocol**, whatever its other end, the documents and the
operating system do.  The address has no item at all or at least two, and closing is refused by
nothing but the operating system. -/
theorem serve_protocol (h : Handler) (address : Option (List Value)) (x : Exchange)
    (haddress : ∀ v, address ≠ some [v])
    (hclose : ∀ f, x.connection.closeFails = some f → f.isSystem = true) :
    ∃ peer, peerName address = .ok peer ∧
      Protocol h peer x (Run.outcome (h.serve address) x)
        (Exchange.events (h.serve address) x) := by
  obtain ⟨peer, hpeer⟩ := exists_peerName haddress
  obtain ⟨count, sent, hlen, _, _, hcalls, halarms⟩ := serveAs_events h peer x
  have houtcome := outcome_serveAs h peer hclose
  rw [← serve_of_ok hpeer] at hcalls halarms houtcome
  refine ⟨peer, hpeer, ?_⟩
  constructor
  · refine ⟨count, sent, hlen, ?_⟩
    rw [hcalls, spoken]
  · intro payload
    rw [sent_iff hpeer]
    exact and_iff_right rfl
  · intro hnone
    cases hc : Run.outcome (h.converse peer) x with
    | ok u =>
      rw [hc] at houtcome halarms
      exact ⟨houtcome, List.eq_nil_of_length_eq_zero halarms⟩
    | error f => exact absurd (fails_iff.2 hc) (hnone f)
  · intro f hf hfinal
    rw [fails_iff.1 hf] at houtcome halarms
    simp only [settled, alarmCount, hfinal, Bool.false_eq_true, if_false] at houtcome halarms
    exact ⟨houtcome, halarms⟩
  · intro f hf hfinal
    rw [fails_iff.1 hf] at houtcome halarms
    simp only [settled, alarmCount, hfinal, if_true] at houtcome halarms
    exact ⟨houtcome, List.eq_nil_of_length_eq_zero halarms⟩

/-- A handler whose documents all read the same. -/
def greeter : Handler := ⟨⟨.text "/srv", fun _ _ => .ok (Bytes.ofAscii "Hi")⟩, .int 16, .int 30⟩

/-- A connection on which a request for a script arrives in two parts. -/
def scriptRequest : Connection where
  number := 1
  incoming := [.bytes (Bytes.ofAscii "GET /a.js "), .bytes (Bytes.ofAscii "HTTP/1.1\r\n\r\n")]
  setTimeoutFails := none
  receiveFails := none
  sendFails := none
  closeFails := none

/-- The other end is gone, and closing the connection is refused as well. -/
def brokenPipe : Exchange where
  history := .empty
  connection := { scriptRequest with
    sendFails := some (.system (.numbered 32 "Broken pipe"))
    closeFails := some (.system (.numbered 5 "Input/output error")) }

theorem serve_protocol_brokenPipe :
    (∀ v : Value, none ≠ some [v]) ∧
      (∀ f, brokenPipe.connection.closeFails = some f → f.isSystem = true) ∧
      ∃ peer, peerName none = .ok peer ∧
        Protocol greeter peer brokenPipe (Run.outcome (greeter.serve none) brokenPipe)
          (Exchange.events (greeter.serve none) brokenPipe) := by
  have hclose : ∀ f, brokenPipe.connection.closeFails = some f → f.isSystem = true := by
    intro f hf
    obtain rfl := Option.some.inj hf
    rfl
  exact ⟨fun _ => by simp, hclose, serve_protocol greeter none brokenPipe (fun _ => by simp) hclose⟩

end StaticHttp.Handler
