import StaticHttp.Proofs.Serving.Protocol

/-!
# What serving a connection adds to the history

Whoever serves a connection logs under a name of its own, loads documents and calls connections; it
starts no thread, uses no listener and does not sleep.  `Adds p m` says of a computation that every
event that it adds satisfies `p`, and is proved along the way a computation is put together.

    (Run.after (h.serve address) x).history.toList =
      x.history.toList ++ Exchange.events (h.serve address) x                   (toList_serve)
    ∀ e ∈ Exchange.events (h.serve address) x, e.OfService                      (ofService_serve)
-/

namespace StaticHttp

/-- The events of those who serve a connection. -/
def Event.OfService : Event → Prop
  | .log entry => entry.source = Handler.source ∨ entry.source = Router.source
  | .load _ => True
  | .connection _ _ => True
  | _ => False

namespace Exchange

/-- Every event that a computation adds to the history satisfies `p`. -/
def Adds {α : Type} (p : Event → Prop) (m : Run Exchange α) : Prop :=
  ∀ x, ∃ es, (Run.after m x).history.toList = x.history.toList ++ es ∧ ∀ e ∈ es, p e

namespace Adds

variable {α β : Type} {p : Event → Prop} {m : Run Exchange α}

theorem of_history_eq (h : ∀ x, (Run.after m x).history = x.history) : Adds p m := by
  intro x
  refine ⟨[], ?_, by simp⟩
  rw [h, List.append_nil]

theorem lift (r : Except Failure α) : Adds p (Run.lift r) := by
  apply of_history_eq
  intro x
  cases r <;> rfl

theorem note {source : Text} {level : Int} {message : Text}
    (h : p (.log ⟨source, level, message⟩)) :
    Adds p (Exchange.note source level message) := by
  intro x
  refine ⟨[_], toList_log x source level message, ?_⟩
  intro e he
  rw [List.mem_singleton.1 he]
  exact h

theorem call {c : ConnectionCall} (h : ∀ number, p (.connection number c))
    (fails : Connection → Option Failure) : Adds p (Exchange.call c fails) := by
  intro x
  refine ⟨[.connection x.connection.number c], ?_, ?_⟩
  · unfold Run.after Exchange.call
    cases fails x.connection <;> exact toList_record x c
  · intro e he
    rw [List.mem_singleton.1 he]
    exact h _

theorem bind {k : α → Run Exchange β} (hm : Adds p m) (hk : ∀ a, Adds p (k a)) :
    Adds p (m >>= k) := by
  intro x
  obtain ⟨es, hes, hp⟩ := hm x
  cases h : m x with
  | error f y =>
    rw [Run.after_of_error h] at hes
    exact ⟨es, by rw [Run.after_of_error (Run.bind_of_error h k), hes], hp⟩
  | ok a y =>
    rw [Run.after_of_ok h] at hes
    obtain ⟨fs, hfs, hq⟩ := hk a y
    refine ⟨es ++ fs, ?_, ?_⟩
    · rw [Run.after_congr (Run.bind_of_ok h k), hfs, hes, List.append_assoc]
    · intro e he
      rcases List.mem_append.1 he with he | he
      · exact hp e he
      · exact hq e he

end Adds

end Exchange

namespace Handler

open Exchange

/-! ## The steps of serving -/

theorem adds_readHead (size : Value) : Adds Event.OfService (Request.readHead size) := by
  intro x
  obtain ⟨n, _, hn⟩ := Request.readHead_receives size x
  refine ⟨_, hn, ?_⟩
  intro e he
  rw [List.eq_of_mem_replicate he]
  trivial

theorem adds_route (r : Router) (path : Text) :
    Adds Event.OfService (onHistory (r.route path)) := by
  intro x
  have hhistory : (Run.after (onHistory (r.route path)) x).history =
      Run.after (r.route path) x.history := by
    unfold Run.after onHistory
    cases r.route path x.history <;> rfl
  rw [hhistory]
  cases hfile : r.filePath (Router.target path) with
  | error f =>
    refine ⟨[], ?_, by simp⟩
    rw [Run.after_of_error (Router.route_of_error hfile), List.append_nil]
  | ok file =>
    obtain ⟨_, entries, hsource, heq⟩ :=
      Router.respond_eq (Router.target path) file (r.load x.history file)
    refine ⟨.load file :: entries.map .log, ?_, ?_⟩
    · rw [Run.after_congr (Router.route_of_ok hfile), (heq _).2, History.toList_logAll,
        History.toList_push, List.append_assoc]
      rfl
    · intro e he
      rcases List.mem_cons.1 he with rfl | he
      · trivial
      · obtain ⟨entry, hentry, rfl⟩ := List.mem_map.1 he
        exact .inr (hsource entry hentry)

theorem adds_reply (h : Handler) (peer : Text) (head : Bytes) :
    Adds Event.OfService (h.reply peer head) := by
  unfold reply
  refine (Adds.note (.inl rfl)).bind fun _ => ?_
  refine (Adds.lift _).bind fun path => ?_
  refine (Adds.note (.inl rfl)).bind fun _ => ?_
  refine (adds_route h.router path).bind fun response => ?_
  refine (Adds.lift _).bind fun payload => ?_
  exact (Adds.note (.inl rfl)).bind fun _ => Adds.of_history_eq fun _ => rfl

theorem adds_converse (h : Handler) (peer : Text) :
    Adds Event.OfService (h.converse peer) := by
  unfold converse
  refine (Adds.call (fun _ => trivial) _).bind fun _ => ?_
  refine (adds_readHead h.receiveSize).bind fun head => ?_
  exact (adds_reply h peer head).bind fun payload => Adds.call (fun _ => trivial) _

theorem adds_finish (peer : Text) : Adds Event.OfService (finish peer) := by
  intro x
  unfold Run.after
  cases hc : x.connection.closeFails with
  | none =>
    simp only [finish, Exchange.close, Exchange.call, hc]
    refine ⟨[.connection x.connection.number .close], toList_record x _, ?_⟩
    simp [Event.OfService]
  | some f =>
    simp only [finish, Exchange.close, Exchange.call, hc]
    by_cases hf : f.isSystem = true
    · rw [if_pos hf]
      refine ⟨_, by rw [toList_log, toList_record, List.append_assoc], ?_⟩
      simp [Event.OfService]
    · rw [if_neg hf]
      refine ⟨[.connection x.connection.number .close], toList_record x _, ?_⟩
      simp [Event.OfService]

theorem report_source (peer : Text) (f : Failure) : ∀ e ∈ report peer f, e.source = source := by
  unfold report
  split
  · simp
  split
  · simp
  split
  · simp
  · simp

theorem adds_serveAs (h : Handler) (peer : Text) : Adds Event.OfService (h.serveAs peer) := by
  intro x
  obtain ⟨es, hes, hservice⟩ := adds_converse h peer x
  cases hc : h.converse peer x with
  | ok u y =>
    rw [Run.after_of_ok hc] at hes
    obtain ⟨fs, hfs, hclosing⟩ := adds_finish peer y
    refine ⟨es ++ fs, ?_, ?_⟩
    · rw [Run.after_congr (serveAs_of_ok hc), hfs, hes, List.append_assoc]
    · exact List.forall_mem_append.2 ⟨hservice, hclosing⟩
  | error f y =>
    rw [Run.after_of_error hc] at hes
    by_cases hf : f.isFinal = true
    · obtain ⟨fs, hfs, hclosing⟩ := adds_finish peer y
      refine ⟨es ++ fs, ?_, ?_⟩
      · rw [after_serveAs_of_final hc hf, hfs, hes, List.append_assoc]
      · exact List.forall_mem_append.2 ⟨hservice, hclosing⟩
    · obtain ⟨fs, hfs, hclosing⟩ := adds_finish peer (reported peer f y)
      refine ⟨es ++ ((report peer f).map .log ++ fs), ?_, ?_⟩
      · rw [Run.after_congr (serveAs_of_error hc (Bool.eq_false_iff.2 hf)), hfs, reported,
          History.toList_logAll, hes]
        simp only [List.append_assoc]
      · refine List.forall_mem_append.2 ⟨hservice, List.forall_mem_append.2 ⟨?_, hclosing⟩⟩
        intro e he
        obtain ⟨entry, hentry, rfl⟩ := List.mem_map.1 he
        exact .inl (report_source peer f entry hentry)

theorem adds_serve (h : Handler) (address : Option (List Value)) :
    Adds Event.OfService (h.serve address) := by
  cases hpeer : peerName address with
  | ok peer =>
    rw [serve_of_ok hpeer]
    exact adds_serveAs h peer
  | error f =>
    apply Adds.of_history_eq
    intro x
    rw [Run.after_of_error (s := x) (t := x) (by rw [serve, hpeer])]

/-! ## The whole -/

theorem toList_serve (h : Handler) (address : Option (List Value)) (x : Exchange) :
    (Run.after (h.serve address) x).history.toList =
      x.history.toList ++ Exchange.events (h.serve address) x := by
  obtain ⟨es, hes, _⟩ := adds_serve h address x
  rw [Exchange.events_eq hes, hes]

/-- Whoever serves a connection does nothing but log under its own name, load and call the
connection. -/
theorem ofService_serve (h : Handler) (address : Option (List Value)) (x : Exchange) :
    ∀ e ∈ Exchange.events (h.serve address) x, e.OfService := by
  obtain ⟨es, hes, hservice⟩ := adds_serve h address x
  rw [Exchange.events_eq hes]
  exact hservice

end Handler

end StaticHttp
