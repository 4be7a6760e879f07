import StaticHttp.Proofs.Serving.Routing
import StaticHttp.Proofs.Serving.Steps

/-!
# The course of an exchange

An exchange takes one of three courses: a step before the last one fails, the last one fails, or
none.  On each of them what it has done to the connection is known: `Reaches h sent x y` says that
on the way from `x` to `y` the time was limited, bytes were received and `sent` was sent, in this
order, and that no warning was logged.

    Course h peer x (h.converse peer x)                            (converse_course)
    Fails h peer x f ↔ Run.outcome (h.converse peer) x = .error f  (fails_iff)
-/

namespace StaticHttp

namespace Router

/-- A path is routed without a call on a connection, and what is logged is the router's own. -/
theorem route_history (r : Router) (path : Text) (past : History) :
    ∃ es, (Run.after (r.route path) past).toList = past.toList ++ es ∧ calls es = [] ∧
      Handler.alarms es = [] := by
  cases hfile : r.filePath (target path) with
  | error f =>
    refine ⟨[], ?_, rfl, rfl⟩
    rw [Run.after_of_error (route_of_error hfile), List.append_nil]
  | ok file =>
    obtain ⟨_, entries, hsource, heq⟩ := respond_eq (target path) file (r.load past file)
    refine ⟨.load file :: entries.map .log, ?_, calls_map_log entries, ?_⟩
    · rw [Run.after_congr (route_of_ok hfile), (heq _).2, History.toList_logAll,
        History.toList_push, List.append_assoc]
      rfl
    · exact Handler.alarms_map_log_of_ne fun e he => by rw [hsource e he]; decide

end Router

namespace Handler

/-- The calls of an exchange in which so many receives were made and some payloads sent. -/
def spoken (h : Handler) (count : Nat) (sent : List Bytes) : List ConnectionCall :=
  .setTimeout h.requestTimeout ::
    (List.replicate count (.receive h.receiveSize) ++ sent.map .send)

/-- On the way from `x` to `y` the time was limited, bytes were received and `sent` was sent; no
warning was logged. -/
structure Reaches (h : Handler) (sent : List Bytes) (x y : Exchange) : Prop where
  connection : ∃ rest, y.connection = { x.connection with incoming := rest }
  history : ∃ count es, y.history.toList = x.history.toList ++ es ∧ alarms es = [] ∧
    calls es = callsOn x.connection.number (h.spoken count sent) ∧
    (x.connection.setTimeoutFails = none → 0 < count)

/-- The courses that an exchange can take, with what it comes to. -/
inductive Course (h : Handler) (peer : Text) (x : Exchange) :
    EStateM.Result Failure Exchange Unit → Prop
  | brokenOff {f : Failure} {y : Exchange} : Fails h peer x f →
      (∀ payload, ¬ Prepared h peer x payload) → Reaches h [] x y → Course h peer x (.error f y)
  | unsent {f : Failure} {payload : Bytes} {y : Exchange} : Prepared h peer x payload →
      x.connection.sendFails = some f → Reaches h [payload] x y → Course h peer x (.error f y)
  | answered {payload : Bytes} {y : Exchange} : Prepared h peer x payload →
      x.connection.sendFails = none → Reaches h [payload] x y → Course h peer x (.ok () y)

section

variable {h : Handler} {peer : Text} {x y z : Exchange}

/-! ## What each step does -/

theorem reaches_setTimeout {f : Failure} (hf : x.connection.setTimeoutFails = some f) :
    Reaches h [] x (x.record (.setTimeout h.requestTimeout)) := by
  refine ⟨⟨x.connection.incoming, rfl⟩, 0, _, Exchange.toList_record _ _, rfl, rfl, ?_⟩
  intro hn
  rw [hf] at hn
  cases hn

theorem calls_receives (number count : Nat) (size : Value) :
    calls (List.replicate count (.connection number (.receive size))) =
      callsOn number (List.replicate count (.receive size)) := by
  rw [callsOn, List.map_replicate]
  induction count with
  | zero => rfl
  | succ count ih =>
    rw [List.replicate_succ, List.replicate_succ, ← ih]
    rfl

theorem alarms_receives (number count : Nat) (size : Value) :
    alarms (List.replicate count (.connection number (.receive size))) = [] := by
  induction count with
  | zero => rfl
  | succ count ih =>
    rw [List.replicate_succ]
    exact ih

theorem reaches_receives {count : Nat}
    (hr : Exchange.Receives h.receiveSize (count + 1) (x.record (.setTimeout h.requestTimeout)) y) :
    Reaches h [] x y := by
  obtain ⟨hc, hh⟩ := hr
  rw [Exchange.toList_record, List.append_assoc] at hh
  refine ⟨hc, count + 1, _, hh, ?_, ?_, fun _ => Nat.succ_pos count⟩
  · rw [alarms_append, alarms_connection, alarms_receives]
    rfl
  · rw [calls_append, calls_connection, calls_receives, spoken, List.map_nil, List.append_nil]
    rfl

theorem Received.reaches {head : Bytes} (hr : Received h x head y) : Reaches h [] x y := by
  obtain ⟨count, hcount⟩ := Request.readHead_receives h.receiveSize
    (x.record (.setTimeout h.requestTimeout))
  rw [Run.after_of_ok hr.readHead] at hcount
  exact reaches_receives hcount

/-- What makes no call and logs no warning may come behind. -/
theorem Reaches.trans_quiet {sent : List Bytes} (hxy : Reaches h sent x y)
    (hc : z.connection = y.connection) {es : List Event}
    (hh : z.history.toList = y.history.toList ++ es) (hcalls : calls es = [])
    (halarms : alarms es = []) : Reaches h sent x z := by
  obtain ⟨⟨rest, hr⟩, count, fs, hfs, hfalarms, hfcalls, hcount⟩ := hxy
  refine ⟨⟨rest, by rw [hc, hr]⟩, count, fs ++ es, ?_, ?_, ?_, hcount⟩
  · rw [hh, hfs, List.append_assoc]
  · rw [alarms_append, hfalarms, halarms, List.append_nil]
  · rw [calls_append, hfcalls, hcalls, List.append_nil]

theorem Reaches.log {sent : List Bytes} (hxy : Reaches h sent x y) {level : Int}
    (hlevel : level < Log.warning) (name message : Text) :
    Reaches h sent x (y.log name level message) :=
  hxy.trans_quiet rfl (Exchange.toList_log _ _ _ _) rfl (alarms_log_of_lt hlevel _ _)

theorem Reaches.announced {sent : List Bytes} (hxy : Reaches h sent x y) (peer : Text)
    (head : Bytes) :
    Reaches h sent x (announced peer head y) :=
  (hxy.log (by decide) _ _).log (by decide) _ _

theorem Reaches.route {sent : List Bytes} (hxy : Reaches h sent x y) (path : Text) :
    Reaches h sent x { y with history := Run.after (h.router.route path) y.history } := by
  obtain ⟨es, hes, hcalls, halarms⟩ := h.router.route_history path y.history
  exact hxy.trans_quiet rfl hes hcalls halarms

theorem Reaches.send (hxy : Reaches h [] x y) (payload : Bytes) :
    Reaches h [payload] x (y.record (.send payload)) := by
  obtain ⟨⟨rest, hr⟩, count, es, hes, halarms, hcalls, hcount⟩ := hxy
  have hnumber : y.connection.number = x.connection.number := by rw [hr]
  refine ⟨⟨rest, hr⟩, count, es ++ [.connection y.connection.number (.send payload)], ?_, ?_, ?_,
    hcount⟩
  · rw [Exchange.toList_record, hes, List.append_assoc]
  · rw [alarms_append, halarms, alarms_connection]
    rfl
  · rw [calls_append, hcalls, calls_connection, hnumber]
    simp [callsOn, spoken]

/-! ## What an exchange comes to -/

theorem Prepared.reply_eq {payload : Bytes} (hp : Prepared h peer x payload) :
    ∃ head x' y, Received h x head x' ∧ h.reply peer head x' = .ok payload y := by
  obtain ⟨response, _, ⟨hr, hpath, hroute⟩, hbytes⟩ := hp
  exact ⟨_, _, _, hr, reply_of_toBytes hpath hroute hbytes⟩

/-- A head that is received is replied to or not, and what is done until then is known. -/
theorem Received.reply_course {head : Bytes} (hr : Received h x head y) (peer : Text) :
    (∃ f z, h.reply peer head y = .error f z ∧ Fails h peer x f ∧ Reaches h [] x z) ∨
      ∃ payload z, h.reply peer head y = .ok payload z ∧ Prepared h peer x payload ∧
        Reaches h [] x z := by
  have hreach : Reaches h [] x y := hr.reaches
  cases hpath : Request.path head with
  | error f =>
    exact .inl ⟨f, _, reply_of_path_error hpath, .path hr hpath, hreach.log (by decide) _ _⟩
  | ok path =>
    have hroutes := (hreach.announced peer head).route path
    cases hroute : h.router.route path (announced peer head y).history with
    | error f past =>
      rw [Run.after_of_error hroute] at hroutes
      exact .inl ⟨f, _, reply_of_route_error hpath hroute, .route hr hpath hroute, hroutes⟩
    | ok response past =>
      rw [Run.after_of_ok hroute] at hroutes
      have hrouted : Routed h peer x response _ := .intro hr hpath hroute
      cases hbytes : response.toBytes with
      | error f =>
        exact .inl ⟨f, _, reply_of_toBytes_error hpath hroute hbytes, .toBytes hrouted hbytes,
          hroutes⟩
      | ok payload =>
        have hp : Prepared h peer x payload := ⟨response, _, hrouted, hbytes⟩
        exact .inr ⟨payload, _, reply_of_toBytes hpath hroute hbytes, hp,
          hroutes.log (by decide) _ _⟩

theorem Received.prepared {head payload : Bytes} (hr : Received h x head y)
    (hz : h.reply peer head y = .ok payload z) : Prepared h peer x payload := by
  rcases hr.reply_course peer with ⟨f, _, hz', _, _⟩ | ⟨payload', _, hz', hp, _⟩
  · cases hz.symm.trans hz'
  · cases hz.symm.trans hz'
    exact hp

/-- **An exchange takes one of three courses.** -/
theorem converse_course (h : Handler) (peer : Text) (x : Exchange) :
    Course h peer x (h.converse peer x) := by
  cases hset : x.connection.setTimeoutFails with
  | some f =>
    rw [converse_of_setTimeout hset]
    refine .brokenOff (.setTimeout hset) ?_ (reaches_setTimeout hset)
    intro payload hp
    obtain ⟨_, _, _, hr, _⟩ := hp.reply_eq
    rw [hr.setTimeout] at hset
    cases hset
  | none =>
    cases hread : Request.readHead h.receiveSize (x.record (.setTimeout h.requestTimeout)) with
    | error f y =>
      rw [converse_of_readHead hset hread]
      obtain ⟨count, hcount⟩ := Request.readHead_receives h.receiveSize
        (x.record (.setTimeout h.requestTimeout))
      rw [Run.after_of_error hread] at hcount
      refine .brokenOff (.readHead hset hread) ?_ (reaches_receives hcount)
      intro payload hp
      obtain ⟨_, _, _, hr, _⟩ := hp.reply_eq
      cases hread.symm.trans hr.readHead
    | ok head y =>
      have hr : Received h x head y := ⟨hset, hread⟩
      rcases hr.reply_course peer with ⟨f, z, hz, hf, hreach⟩ | ⟨payload, z, hz, hp, hreach⟩
      · rw [hr.converse_of_error hz]
        refine .brokenOff hf ?_ hreach
        intro payload hp
        obtain ⟨_, _, _, hr', hz'⟩ := hp.reply_eq
        obtain ⟨rfl, rfl⟩ := hr.unique hr'
        cases hz.symm.trans hz'
      · rw [hr.converse_of_ok hz]
        obtain ⟨rest, hc⟩ := hreach.connection
        have hsends : z.connection.sendFails = x.connection.sendFails := by rw [hc]
        simp only [Exchange.send, Exchange.call, hsends]
        cases hs : x.connection.sendFails with
        | some f => exact .unsent hp hs (hreach.send payload)
        | none => exact .answered hp hs (hreach.send payload)

theorem Prepared.unique {payload payload' : Bytes} (hp : Prepared h peer x payload)
    (hp' : Prepared h peer x payload') : payload = payload' := by
  obtain ⟨_, _, _, hr, hz⟩ := hp.reply_eq
  obtain ⟨_, _, _, hr', hz'⟩ := hp'.reply_eq
  obtain ⟨rfl, rfl⟩ := hr.unique hr'
  cases hz.symm.trans hz'
  rfl

theorem Prepared.mem_singleton_iff {payload : Bytes} (hp : Prepared h peer x payload)
    (payload' : Bytes) : payload' ∈ [payload] ↔ Prepared h peer x payload' := by
  rw [List.mem_singleton]
  constructor
  · rintro rfl
    exact hp
  · intro hp'
    exact hp'.unique hp

/-- What a step fails with is what the exchange fails with. -/
theorem fails_iff {f : Failure} :
    Fails h peer x f ↔ Run.outcome (h.converse peer) x = .error f := by
  constructor
  · intro hf
    cases hf with
    | setTimeout hset => exact Run.outcome_of_error (converse_of_setTimeout hset)
    | readHead hset hread => exact Run.outcome_of_error (converse_of_readHead hset hread)
    | path hr hpath => exact Run.outcome_of_error (hr.converse_of_error (reply_of_path_error hpath))
    | route hr hpath hroute =>
      exact Run.outcome_of_error (hr.converse_of_error (reply_of_route_error hpath hroute))
    | toBytes hrouted hbytes =>
      obtain ⟨hr, hpath, hroute⟩ := hrouted
      exact Run.outcome_of_error (hr.converse_of_error (reply_of_toBytes_error hpath hroute hbytes))
    | send hp hs =>
      have hc := converse_course h peer x
      unfold Run.outcome
      generalize h.converse peer x = result at hc
      cases hc with
      | brokenOff _ hnone _ => exact absurd hp (hnone _)
      | unsent _ hs' _ =>
        rw [hs] at hs'
        obtain rfl := Option.some.inj hs'
        rfl
      | answered _ hs' _ =>
        rw [hs] at hs'
        cases hs'
  · intro hf
    have hc := converse_course h peer x
    unfold Run.outcome at hf
    generalize h.converse peer x = result at hc hf
    cases hc with
    | brokenOff hf' _ _ =>
      obtain rfl := Except.error.inj hf
      exact hf'
    | unsent hp hs _ =>
      obtain rfl := Except.error.inj hf
      exact .send hp hs
    | answered _ _ _ => cases hf

end

end Handler

end StaticHttp
