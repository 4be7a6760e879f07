import StaticHttp.Proofs.Serving.Protocol

/-!
# The effects of serving a connection

What is seen from outside of a computation on an exchange is what it comes to and the effects that
it has: what it logs, loads and sends, and that it closes the connection.  The receives are left
out, and how a reply is made and a connection closed is then the same from one exchange to the
other, when the documents are.

    Shows m x result done        m comes to result from x, with the effects done
    h.Offers x root documents → Shows (h.reply peer head) x result done            (reply_shows)
-/

namespace StaticHttp

/-! ## Effects -/

/-- What can be done besides receiving: to log an entry, to load a document, to send bytes and to
close the connection. -/
inductive Effect
  | log (entry : Log.Entry)
  | load (path : Text)
  | send (bytes : Bytes)
  | close

/-- The effect of an event that has one. -/
def Event.effect? : Event → Option Effect
  | .log entry => some (.log entry)
  | .load path => some (.load path)
  | .connection _ (.send bytes) => some (.send bytes)
  | .connection _ .close => some .close
  | _ => none

/-- The effects of some events. -/
def effects (es : List Event) : List Effect := es.filterMap Event.effect?

@[simp] theorem effects_append (es fs : List Event) :
    effects (es ++ fs) = effects es ++ effects fs :=
  List.filterMap_append

theorem effects_map_log (entries : List Log.Entry) :
    effects (entries.map .log) = entries.map .log := by
  rw [effects, List.filterMap_map, ← List.filterMap_eq_map]
  rfl

/-- What a computation on an exchange comes to, with the effects it has. -/
structure Shows {α : Type} (m : Run Exchange α) (x : Exchange) (result : Except Failure α)
    (done : List Effect) : Prop where
  outcome_eq : Run.outcome m x = result
  history : ∃ es, (Run.after m x).history.toList = x.history.toList ++ es ∧ effects es = done
  connection : ∃ rest, (Run.after m x).connection = { x.connection with incoming := rest }

/-- Nothing with an effect happens between two exchanges. -/
structure Quiet (x y : Exchange) : Prop where
  history : ∃ es, y.history.toList = x.history.toList ++ es ∧ effects es = []
  connection : ∃ rest, y.connection = { x.connection with incoming := rest }

namespace Shows

variable {α β : Type} {m : Run Exchange α} {x y : Exchange} {done : List Effect}

theorem of_ok {a : α} (h : m x = .ok a y) (hc : y.connection = x.connection) {es : List Event}
    (hh : y.history.toList = x.history.toList ++ es) : Shows m x (.ok a) (effects es) := by
  refine ⟨Run.outcome_of_ok h, ⟨es, ?_, rfl⟩, x.connection.incoming, ?_⟩
  · rw [Run.after_of_ok h, hh]
  · rw [Run.after_of_ok h, hc]

theorem of_error {f : Failure} (h : m x = .error f y) (hc : y.connection = x.connection)
    {es : List Event} (hh : y.history.toList = x.history.toList ++ es) :
    Shows m x (.error f) (effects es) := by
  refine ⟨Run.outcome_of_error h, ⟨es, ?_, rfl⟩, x.connection.incoming, ?_⟩
  · rw [Run.after_of_error h, hh]
  · rw [Run.after_of_error h, hc]

theorem effects_events {result : Except Failure α} (h : Shows m x result done) :
    effects (Exchange.events m x) = done := by
  obtain ⟨es, hes, hdone⟩ := h.history
  rw [Exchange.events_eq hes, hdone]

/-- What stops where one computation stops behind another one has the effects of both. -/
theorem behind {m' : Run Exchange β} {result : Except Failure α} {result' : Except Failure β}
    {done' : List Effect} (h : Shows m x result done)
    (h' : Shows m' (Run.after m x) result' done') {n : Run Exchange β} {final : Except Failure β}
    (hn : Run.outcome n x = final) (hafter : Run.after n x = Run.after m' (Run.after m x)) :
    Shows n x final (done ++ done') := by
  obtain ⟨es, hes, hdone⟩ := h.history
  obtain ⟨es', hes', hdone'⟩ := h'.history
  obtain ⟨rest, hrest⟩ := h.connection
  obtain ⟨rest', hrest'⟩ := h'.connection
  refine ⟨hn, ⟨es ++ es', ?_, ?_⟩, rest', ?_⟩
  · rw [hafter, hes', hes, List.append_assoc]
  · rw [effects_append, hdone, hdone']
  · rw [hafter, hrest', hrest]

theorem bind {k : α → Run Exchange β} {a : α} {result : Except Failure β} {done' : List Effect}
    (h : Shows m x (.ok a) done) (hk : Shows (k a) (Run.after m x) result done') :
    Shows (m >>= k) x result (done ++ done') := by
  have heq := Run.bind_of_ok (Run.eq_ok_of_outcome h.outcome_eq) k
  exact h.behind hk ((Run.outcome_congr heq).trans hk.outcome_eq) (Run.after_congr heq)

theorem bind_of_error {k : α → Run Exchange β} {f : Failure} (h : Shows m x (.error f) done) :
    Shows (m >>= k) x (.error f) done := by
  have heq := Run.bind_of_error (Run.eq_error_of_outcome h.outcome_eq) k
  refine ⟨Run.outcome_of_error heq, ?_, ?_⟩
  · rw [Run.after_of_error heq]
    exact h.history
  · rw [Run.after_of_error heq]
    exact h.connection

/-- What has no effect does not show when it comes first. -/
theorem of_quiet {result : Except Failure α} {n : Run Exchange α} (h : Shows m y result done)
    (heq : n x = m y) (hq : Quiet x y) : Shows n x result done := by
  obtain ⟨es', hes', hdone⟩ := h.history
  obtain ⟨es, hes, hnone⟩ := hq.history
  obtain ⟨rest, hrest⟩ := h.connection
  obtain ⟨rest', hrest'⟩ := hq.connection
  refine ⟨(Run.outcome_congr heq).trans h.outcome_eq, ⟨es ++ es', ?_, ?_⟩, rest, ?_⟩
  · rw [Run.after_congr heq, hes', hes, List.append_assoc]
  · rw [effects_append, hnone, hdone, List.nil_append]
  · rw [Run.after_congr heq, hrest, hrest']

end Shows

/-! ## The same documents -/

/-- A handler answers from the given root and documents, as long as it has loaded none. -/
structure Handler.Offers (h : Handler) (x : Exchange) (root : Value)
    (documents : Text → Except Failure Bytes) : Prop where
  root_eq : h.router.root = root
  load_eq : ∀ past file, past.loaded = x.history.loaded →
    h.router.load past file = documents file

theorem Handler.Offers.of_loaded {h : Handler} {x y : Exchange} {root : Value}
    {documents : Text → Except Failure Bytes} (ho : h.Offers x root documents)
    (hy : y.history.loaded = x.history.loaded) : h.Offers y root documents :=
  ⟨ho.root_eq, fun past file hpast => ho.load_eq past file (hpast.trans hy)⟩

/-- The documents of a tree stay as they are. -/
theorem Handler.offers_ofTree {h : Handler} {t : Tree} (ht : h.router.load = .ofTree t)
    (x : Exchange) : h.Offers x h.router.root fun path => Loader.document path (t.read path) :=
  ⟨rfl, fun _ _ _ => by rw [ht]; rfl⟩

namespace Handler

/-! ## The same head -/

theorem announced_history (peer : Text) (head : Bytes) :
    ∃ entries, ∀ x, (announced peer head x).history = x.history.logAll entries :=
  ⟨[_, _], fun _ => rfl⟩

theorem Offers.load_announced {h : Handler} {x : Exchange} {root : Value}
    {documents : Text → Except Failure Bytes} (ho : h.Offers x root documents) (peer : Text)
    (head : Bytes) (file : Text) :
    h.router.load (announced peer head x).history file = documents file := by
  obtain ⟨entries, hentries⟩ := announced_history peer head
  exact ho.load_eq _ file (by rw [hentries, History.loaded_logAll])

theorem answered_history (peer : Text) (response : Response) (payload : Bytes) :
    ∃ entries, ∀ x, (answered peer response payload x).history = x.history.logAll entries :=
  ⟨[_], fun _ => rfl⟩

/-- What is replied is told by the root, the documents, the peer and the head. -/
theorem reply_shows (root : Value) (documents : Text → Except Failure Bytes) (peer : Text)
    (head : Bytes) :
    ∃ result done, ∀ (h : Handler) (x : Exchange), h.Offers x root documents →
      Shows (h.reply peer head) x result done := by
  cases hpath : Request.path head with
  | error f =>
    exact ⟨.error f, _, fun h x _ =>
      .of_error (reply_of_path_error hpath) rfl (Exchange.toList_log _ _ _ _)⟩
  | ok path =>
    obtain ⟨result, es, hroute⟩ := Router.route_eq root documents path
    obtain ⟨entries, hentries⟩ := announced_history peer head
    have hroutes : ∀ (h : Handler) (x : Exchange), h.Offers x root documents →
        Run.outcome (h.router.route path) (announced peer head x).history = result ∧
          (Run.after (h.router.route path) (announced peer head x).history).toList =
            x.history.toList ++ (entries.map .log ++ es) := by
      intro h x ho
      obtain ⟨houtcome, hafter⟩ := hroute h.router _ ho.root_eq (ho.load_announced peer head)
      refine ⟨houtcome, ?_⟩
      rw [hafter, hentries, History.toList_logAll, List.append_assoc]
    cases result with
    | error f =>
      refine ⟨.error f, effects (entries.map .log ++ es), fun h x ho => ?_⟩
      obtain ⟨houtcome, hafter⟩ := hroutes h x ho
      exact .of_error (reply_of_route_error hpath (Run.eq_error_of_outcome houtcome)) rfl hafter
    | ok response =>
      cases hbytes : response.toBytes with
      | error f =>
        refine ⟨.error f, effects (entries.map .log ++ es), fun h x ho => ?_⟩
        obtain ⟨houtcome, hafter⟩ := hroutes h x ho
        exact .of_error (reply_of_toBytes_error hpath (Run.eq_ok_of_outcome houtcome) hbytes) rfl
          hafter
      | ok payload =>
        obtain ⟨last, hlast⟩ := answered_history peer response payload
        refine ⟨.ok payload, effects (entries.map .log ++ es ++ last.map .log), fun h x ho => ?_⟩
        obtain ⟨houtcome, hafter⟩ := hroutes h x ho
        refine .of_ok (reply_of_toBytes hpath (Run.eq_ok_of_outcome houtcome) hbytes) rfl ?_
        rw [hlast, History.toList_logAll, hafter]
        simp only [List.append_assoc]

section

variable {h : Handler} {peer : Text} {x : Exchange}

theorem send_shows (hsend : x.connection.sendFails = none) (payload : Bytes) :
    Shows (Exchange.send payload) x (.ok ()) [.send payload] := by
  have heq : Exchange.send payload x = .ok () (x.record (.send payload)) := by
    simp only [Exchange.send, Exchange.call, hsend]
  exact .of_ok heq rfl (Exchange.toList_record x _)

theorem finish_shows (hclose : x.connection.closeFails = none) (peer : Text) :
    Shows (finish peer) x (.ok ()) [.close] := by
  have heq : finish peer x = .ok () (x.record .close) := by
    simp only [finish, Exchange.close, Exchange.call, hclose]
  exact .of_ok heq rfl (Exchange.toList_record x _)

/-- A failure is reported before the connection is closed. -/
theorem finish_reported_shows (hclose : x.connection.closeFails = none) (peer : Text)
    (f : Failure) :
    Shows (fun y => finish peer (reported peer f y)) x (.ok ())
      ((report peer f).map .log ++ [.close]) := by
  have hh : (reported peer f x).history.toList = x.history.toList ++ (report peer f).map .log :=
    History.toList_logAll _ _
  have hreported := Shows.of_ok (m := fun y => .ok () (reported peer f y)) (x := x) rfl rfl hh
  rw [effects_map_log] at hreported
  have hfinish := finish_shows (x := reported peer f x) hclose peer
  exact hreported.behind hfinish hfinish.outcome_eq rfl

/-- What is done behind an exchange that comes to the given outcome. -/
def farewell (peer : Text) : Except Failure Unit → List Effect
  | .ok _ => [.close]
  | .error f => if f.isFinal then [.close] else (report peer f).map .log ++ [.close]

theorem serveAs_shows {result : Except Failure Unit} {done : List Effect}
    (hc : Shows (h.converse peer) x result done) (hclose : x.connection.closeFails = none) :
    Shows (h.serveAs peer) x (settled result) (done ++ farewell peer result) := by
  have hafter : (Run.after (h.converse peer) x).connection.closeFails = none := by
    obtain ⟨rest, hrest⟩ := hc.connection
    rw [hrest, hclose]
  cases result with
  | ok u =>
    have heq := serveAs_of_ok (Run.eq_ok_of_outcome hc.outcome_eq)
    have hfinish := finish_shows hafter peer
    exact hc.behind hfinish ((Run.outcome_congr heq).trans hfinish.outcome_eq) (Run.after_congr heq)
  | error f =>
    have herror := Run.eq_error_of_outcome hc.outcome_eq
    by_cases hf : f.isFinal = true
    · have hfinish := finish_shows hafter peer
      simp only [settled, farewell, if_pos hf]
      exact hc.behind hfinish (outcome_serveAs_of_final herror hf hfinish.outcome_eq)
        (after_serveAs_of_final herror hf)
    · have heq := serveAs_of_error herror (Bool.eq_false_iff.2 hf)
      have hfinish := finish_reported_shows hafter peer f
      simp only [settled, farewell, if_neg hf]
      exact hc.behind hfinish ((Run.outcome_congr heq).trans hfinish.outcome_eq)
        (Run.after_congr heq)

end

end Handler

end StaticHttp
