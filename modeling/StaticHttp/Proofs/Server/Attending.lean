import StaticHttp.Proofs.Server.Calm
import StaticHttp.Proofs.Server.Upholding

/-!
# Attending to a listener

A start that says that the server listens is right about somebody accepting connections when the
listener was made by a start: then a thread has been started since the listener was bound, and it
has not been told to stop.  A server that is bound directly runs as well, so that a start takes it
for started, and nobody accepts connections from its listener.

    Used s₀ direct s → s.Minded direct                                             (Used.minded)
    Server.start s = .ok true t → (t.history.Attended l.number ↔ l.number ∉ direct)
                                                                                (start_attended)
-/

namespace StaticHttp

/-- The listener that is bound to an address by a call. -/
def Event.bound? : Event → Option Nat
  | .listener number (.bind _ _) => some number
  | _ => none

theorem Event.bound?_of_isOwn {e : Event} (h : e.isOwn = false) : e.bound? = none := by
  cases e with
  | listener number call => cases h
  | _ => rfl

namespace History

/-- The listeners that have been bound to an address, or that could not be. -/
def bindings (events : List Event) : List Nat := events.filterMap Event.bound?

/-- A thread that accepts connections has been started since a listener was bound, and it has not
been told to stop. -/
def Attended (h : History) (number : Nat) : Prop :=
  ∃ after thread name before,
    h.newestFirst = after ++ .startThread (.accepting thread) name :: before ∧
      number ∈ bindings before ∧ Site.haltBegin ∉ after

/-- No thread that accepts connections has been started since a listener was bound. -/
def Unattended (h : History) (number : Nat) : Prop :=
  ∀ after thread name before,
    h.newestFirst = after ++ .startThread (.accepting thread) name :: before →
      number ∉ bindings before

variable {h : History} {number : Nat} {e : Event} {es : List Event}

theorem Unattended.not_attended (hh : h.Unattended number) : ¬ h.Attended number := by
  rintro ⟨after, thread, name, before, heq, hmem, _⟩
  exact hh after thread name before heq hmem

theorem Attended.push (hh : h.Attended number) (he : e ≠ Site.haltBegin) :
    (h.push e).Attended number := by
  obtain ⟨after, thread, name, before, heq, hmem, hhalt⟩ := hh
  refine ⟨e :: after, thread, name, before, ?_, hmem, ?_⟩
  · rw [History.push, heq]
    rfl
  · exact List.not_mem_cons_of_ne_of_not_mem (Ne.symm he) hhalt

theorem Unattended.push (hh : h.Unattended number) (he : e.accepting? = none) :
    (h.push e).Unattended number := by
  intro after thread name before heq
  cases after with
  | nil =>
    obtain ⟨rfl, _⟩ := List.cons.inj heq
    cases he
  | cons e' after =>
    obtain ⟨_, heq⟩ := List.cons.inj heq
    exact hh after thread name before heq

/-- No thread is for a listener that is not bound yet. -/
theorem unattended_of_notMem (hnumber : number ∉ bindings h.newestFirst) :
    h.Unattended number := by
  intro after thread name before heq hmem
  apply hnumber
  rw [heq, bindings, List.filterMap_append]
  exact List.mem_append_right _ hmem

theorem bindings_append (hes : ∀ e ∈ es, e.bound? = none) (h : History) :
    bindings (h.append es).newestFirst = bindings h.newestFirst := by
  have hnone : es.reverse.filterMap Event.bound? = [] :=
    List.filterMap_eq_nil_iff.2 fun e he => hes e (List.mem_reverse.1 he)
  rw [bindings, append, List.filterMap_append, hnone]
  rfl

theorem mem_bindings_append (hnumber : number ∈ bindings (h.append es).newestFirst) :
    (∃ e ∈ es, e.bound? = some number) ∨ number ∈ bindings h.newestFirst := by
  rw [bindings, append, List.filterMap_append] at hnumber
  rcases List.mem_append.1 hnumber with hnew | hold
  · obtain ⟨e, he, hbound⟩ := List.mem_filterMap.1 hnew
    exact .inl ⟨e, List.mem_reverse.1 he, hbound⟩
  · exact .inr hold

/-- A listener is attended, unless it is one of those that were bound directly. -/
def AttendedUnless (direct : List Nat) (h : History) (number : Nat) : Prop :=
  (number ∈ direct → h.Unattended number) ∧ (number ∉ direct → h.Attended number)

theorem Attended.append (hh : h.Attended number) (hes : ∀ e ∈ es, e ≠ Site.haltBegin) :
    (h.append es).Attended number :=
  append_induction (p := fun k => k.Attended number) hh fun e he _ hk => hk.push (hes e he)

theorem Unattended.append (hh : h.Unattended number) (hes : ∀ e ∈ es, e.accepting? = none) :
    (h.append es).Unattended number :=
  append_induction (p := fun k => k.Unattended number) hh fun e he _ hk => hk.push (hes e he)

theorem AttendedUnless.append {direct : List Nat} (hh : h.AttendedUnless direct number)
    (haccepting : ∀ e ∈ es, e.accepting? = none) (hhalt : ∀ e ∈ es, e ≠ Site.haltBegin) :
    (h.append es).AttendedUnless direct number :=
  ⟨fun hmem => (hh.1 hmem).append haccepting, fun hmem => (hh.2 hmem).append hhalt⟩

end History

/-- An event while the listener with a number is made and set up. -/
structure Event.OfSetUp (number : Nat) (e : Event) : Prop where
  accepting? : e.accepting? = none
  begins : e ≠ Site.haltBegin
  bound? : ∀ n, e.bound? = some n → n = number

/-- Nothing comes in between, and threads for accepting connections can be started and waited for;
any call on a listener may fail. -/
structure Outside.Startable (o : Outside) : Prop where
  calm : o.Calm
  logs : o.LetsLog
  names : o.Names
  starts : ∀ past number name, o.fails past (.startThread (.accepting number) name) = none
  joins : ∀ past number name, o.fails past (.joinThread number name) = none

namespace Site

variable {s t : Site} {e : Event} {es : List Event} {direct : List Nat}

/-! ## Events -/

theorem ofSetUp_listener {number : Nat} (call : ListenerCall) :
    (Event.listener number call).OfSetUp number where
  accepting? := rfl
  begins h := by cases h
  bound? n h := by
    cases call with
    | bind host port => exact (Option.some.inj h).symm
    | _ => cases h

/-- A message that begins in another way than that of a shutdown. -/
theorem ofSetUp_log {number : Nat} {start rest : Text} (hlength : 2 ≤ start.length)
    (hstart : start.take 2 ≠ Text.ofString "Sh") :
    Event.OfSetUp number (.log ⟨Server.source, Log.info, start ++ rest⟩) where
  accepting? := rfl
  begins := by
    intro h
    injection h with hentry
    injection hentry with _ _ hmessage
    apply hstart
    have htake : (start ++ rest).take 2 = start.take 2 := List.take_append_of_le_length hlength
    rw [← htake, hmessage]
    rfl
  bound? := by rintro _ ⟨⟩

theorem ofSetUp_announcement (s : Site) : ∀ e ∈ s.announcement, e.OfSetUp s.listeners := by
  intro e he
  unfold announcement announcing at he
  split at he
  · simp only [List.mem_cons, List.not_mem_nil, or_false, List.append_assoc] at he
    rcases he with rfl | rfl
    · exact ofSetUp_log (by decide) (by decide)
    · exact ofSetUp_log (by decide) (by decide)
  · cases he

/-- What happens while a server is bound. -/
theorem OpensCalmly.ofSetUp {fault : Option Failure} {server : Server}
    (h : OpensCalmly s fault es server) : ∀ e ∈ es, e.OfSetUp s.listeners := by
  have hsetUp : ∀ e ∈ setUp s.listeners s.server.config, e.OfSetUp s.listeners := by
    intro e he
    obtain ⟨call, _, rfl⟩ := List.mem_map.1 he
    exact ofSetUp_listener call
  have htried : ∀ e ∈ s.creation :: s.tried, e.OfSetUp s.listeners := by
    refine List.forall_mem_cons.2 ⟨ofSetUp_listener _, fun e he => hsetUp e ?_⟩
    exact (s.outside.tried_prefix _ _).subset he
  cases h with
  | unmade f creation => exact List.forall_mem_singleton.2 (ofSetUp_listener _)
  | left f creation unfit notSystem => exact htried
  | closed f creation unfit system =>
    exact List.forall_mem_append.2 ⟨htried, List.forall_mem_singleton.2 (ofSetUp_listener _)⟩
  | bound creation unfit =>
    refine List.forall_mem_append.2 ⟨?_, ofSetUp_announcement s⟩
    exact List.forall_mem_cons.2 ⟨ofSetUp_listener _, hsetUp⟩

/-! ## What is kept between operations -/

/-- A server whose listeners are attended, unless they were bound directly. -/
structure Minded (direct : List Nat) (s : Site) : Prop where
  outside : s.outside.Startable
  bound_lt : ∀ number ∈ History.bindings s.history.newestFirst, number < s.listeners
  direct_lt : ∀ number ∈ direct, number < s.listeners
  /-- A thread that was started has had its turn, or a shutdown waits for it. -/
  started : ∀ number, s.threads.started = some number → number ∈ s.threads.begun ∨
    s.server.running = true ∧ s.server.acceptThread = some number
  running : s.server.running = true → ∃ l, s.server.listener = some l ∧
    s.history.AttendedUnless direct l.number

namespace Minded

theorem settled (hs : s.Minded direct) : s.Settled := by
  intro number hnumber
  rcases hs.started number hnumber with hbegun | ⟨hrun, _⟩
  · exact .inl hbegun
  · obtain ⟨l, hlistener, _⟩ := hs.running hrun
    exact .inr (by rw [hlistener]; rfl)

/-- The listener that is attended or not has been bound. -/
theorem lt_listeners (hs : s.Minded direct) {number : Nat}
    (h : s.history.AttendedUnless direct number) : number < s.listeners := by
  by_cases hdirect : number ∈ direct
  · exact hs.direct_lt number hdirect
  · obtain ⟨after, thread, name, before, heq, hmem, _⟩ := h.2 hdirect
    apply hs.bound_lt
    rw [heq, History.bindings, List.filterMap_append]
    exact List.mem_append_right _ hmem

theorem push (hs : s.Minded direct) (hown : e.isOwn = false) (hhalt : e ≠ haltBegin) :
    (s.push e).Minded direct where
  outside := hs.outside
  bound_lt := by
    have hbindings := History.bindings_append
      (List.forall_mem_singleton.2 (Event.bound?_of_isOwn hown)) s.history
    intro number hnumber
    apply hs.bound_lt
    rw [← hbindings]
    exact hnumber
  direct_lt := hs.direct_lt
  started := hs.started
  running hrun := by
    obtain ⟨l, hlistener, hattended⟩ := hs.running hrun
    refine ⟨l, hlistener, ?_⟩
    exact hattended.append (List.forall_mem_singleton.2 (Event.accepting?_of_isOwn hown))
      (List.forall_mem_singleton.2 hhalt)

end Minded

/-! ## Shutting down -/

theorem received_ne_haltBegin (number : Int) : received number ≠ haltBegin := by
  intro h
  injection h with hentry
  injection hentry with hsource
  exact absurd hsource (by decide)

/-- The last call of a shutdown and the entry after it. -/
theorem released_eq (s : Site) (l : Listener) :
    ∃ es server, s.released l = { s with server := server, history := s.history.append es } ∧
      server.running = s.server.running ∧ ∀ e ∈ es, e.bound? = none := by
  unfold released
  cases s.unclosed? l with
  | none =>
    refine ⟨[.listener l.number .close, haltEnd], _, rfl, rfl, ?_⟩
    exact List.forall_mem_cons.2 ⟨rfl, List.forall_mem_singleton.2 rfl⟩
  | some f =>
    exact ⟨[.listener l.number .close], _, rfl, rfl, List.forall_mem_singleton.2 rfl⟩

/-- A shutdown binds nothing. -/
theorem bindings_settled (s : Site) :
    History.bindings s.settled.history.newestFirst = History.bindings s.history.newestFirst := by
  refine History.bindings_append (List.forall_mem_cons.2 ⟨rfl, ?_⟩) s.history
  intro e he
  rcases mem_waiting he with ⟨number, rfl⟩ | rfl
  · rfl
  · rfl

namespace Minded

theorem after_stop (hs : s.Minded direct) (P : Interrupts) :
    (Run.after (Site.stop P) s).Minded direct := by
  cases hrun : s.server.running with
  | false =>
    rw [Run.after_of_ok (stop_of_not_running P hrun)]
    exact hs
  | true =>
    obtain ⟨l, hlistener, _⟩ := hs.running hrun
    have hstop := stop_calm P hs.outside.calm hrun hlistener fun number _ => hs.outside.joins _ _ _
    obtain ⟨begun, hsub, hturn, hthreads⟩ := s.settled_threads
    obtain ⟨es, server, hreleased, hstopped, hes⟩ := released_eq s.settled l
    rw [Run.after_of_ended hstop, hreleased]
    have hbindings : History.bindings (s.settled.history.append es).newestFirst =
        History.bindings s.history.newestFirst := by
      rw [History.bindings_append hes, bindings_settled]
    refine ⟨hs.outside, ?_, hs.direct_lt, ?_, ?_⟩
    · show ∀ number ∈ History.bindings (s.settled.history.append es).newestFirst, _
      rw [hbindings]
      exact hs.bound_lt
    · show ∀ number, s.settled.threads.started = some number →
        number ∈ s.settled.threads.begun ∨ _
      rw [hthreads]
      intro number hnumber
      rcases hs.started number hnumber with hbegun | ⟨_, hthread⟩
      · exact .inl (hsub hbegun)
      · exact .inl (hturn number hthread)
    · intro hrunning
      cases hstopped.symm.trans hrunning

theorem upheld : Upheld (Minded direct) where
  settled hs := hs.settled
  push hs he _ := hs.push he.own he.begins
  offers hs _ := ⟨⟨hs.outside.calm, hs.outside.logs, hs.outside.names, hs.outside.starts,
    hs.outside.joins⟩, hs.bound_lt, hs.direct_lt, hs.started, hs.running⟩
  turn hs _ := ⟨hs.outside, hs.bound_lt, hs.direct_lt,
    fun m hm => (hs.started m hm).imp_left (List.mem_cons_of_mem _), hs.running⟩
  stop hs depth := hs.after_stop (Site.perform depth)
  signal hs depth _ :=
    (hs.push rfl (received_ne_haltBegin _)).after_stop (Site.perform depth)

end Minded

/-! ## Binding -/

theorem bound_lt_opening (hs : s.Minded direct) (hes : ∀ e ∈ es, e.OfSetUp s.listeners) :
    ∀ number ∈ History.bindings (s.history.append es).newestFirst, number < s.listeners + 1 := by
  intro number hnumber
  rcases History.mem_bindings_append hnumber with ⟨e, he, hbound⟩ | hold
  · rw [(hes e he).bound? number hbound]
    exact Nat.lt_succ_self _
  · exact Nat.lt_succ_of_lt (hs.bound_lt number hold)

namespace Minded

/-- A server is left as it is when the next listener cannot be made or set up, also when that
listener counts as bound directly. -/
theorem opening (hs : s.Minded direct) (hes : ∀ e ∈ es, e.OfSetUp s.listeners)
    {direct' : List Nat} (hdirect : ∀ n, n ≠ s.listeners → (n ∈ direct' ↔ n ∈ direct)) :
    (s.opening es s.server).Minded direct' where
  outside := hs.outside
  bound_lt := bound_lt_opening hs hes
  direct_lt := by
    intro number hnumber
    by_cases heq : number = s.listeners
    · rw [heq]
      exact Nat.lt_succ_self _
    · exact Nat.lt_succ_of_lt (hs.direct_lt number ((hdirect number heq).1 hnumber))
  started := hs.started
  running hrun := by
    obtain ⟨l, hlistener, hattended⟩ := hs.running hrun
    have hne : l.number ≠ s.listeners := Nat.ne_of_lt (hs.lt_listeners hattended)
    have happend := hattended.append (fun e he => (hes e he).accepting?)
      fun e he => (hes e he).begins
    exact ⟨l, hlistener, fun hmem => happend.1 ((hdirect _ hne).1 hmem),
      fun hmem => happend.2 fun h => hmem ((hdirect _ hne).2 h)⟩

/-- The next listener is bound directly. -/
theorem bound (hs : s.Minded direct) (hes : ∀ e ∈ es, e.OfSetUp s.listeners) :
    (s.opening es s.bound).Minded (s.listeners :: direct) where
  outside := hs.outside
  bound_lt := bound_lt_opening hs hes
  direct_lt := List.forall_mem_cons.2
    ⟨Nat.lt_succ_self _, fun n hn => Nat.lt_succ_of_lt (hs.direct_lt n hn)⟩
  started number hnumber := (hs.started number hnumber).imp_right fun h => ⟨rfl, h.2⟩
  running _ := by
    have hfresh : s.history.Unattended s.listeners :=
      History.unattended_of_notMem fun hmem => Nat.lt_irrefl _ (hs.bound_lt _ hmem)
    refine ⟨_, rfl, fun _ => ?_, fun hnot => absurd List.mem_cons_self hnot⟩
    exact hfresh.append fun e he => (hes e he).accepting?

/-- A thread is started that accepts connections from the next listener. -/
theorem accepting (hs : s.Minded direct)
    (hes : ∀ e ∈ es, e.OfSetUp s.listeners)
    (hbound : s.listeners ∈ History.bindings (s.history.append es).newestFirst) :
    (s.opening es s.bound).accepting.Minded direct where
  outside := hs.outside
  bound_lt := bound_lt_opening hs hes
  direct_lt n hn := Nat.lt_succ_of_lt (hs.direct_lt n hn)
  started := by
    intro number hnumber
    obtain rfl := Option.some.inj hnumber
    exact .inr ⟨rfl, rfl⟩
  running _ := by
    refine ⟨_, rfl, fun hmem => absurd (hs.direct_lt _ hmem) (Nat.lt_irrefl _), fun _ => ?_⟩
    exact ⟨[], _, _, _, rfl, hbound, List.not_mem_nil⟩

/-- A server is bound, or it is left as it is. -/
theorem openListener (hs : s.Minded direct) (P : Interrupts) :
    ∃ es, (∀ e ∈ es, e.OfSetUp s.listeners) ∧
      (s.listeners ∈ History.bindings (s.history.append es).newestFirst ∧
          Site.openListener P s = .ok () (s.opening es s.bound) ∨
        ∃ f, Site.openListener P s = .error f (s.opening es s.server)) := by
  obtain ⟨fault, es, server, hopen, hopens⟩ :=
    openListener_calm P hs.outside.calm hs.outside.logs hs.outside.names
  refine ⟨es, hopens.ofSetUp, ?_⟩
  cases fault with
  | none =>
    cases hopens with
    | bound creation unfit =>
      refine .inl ⟨List.mem_filterMap.2 ⟨?_, ?_, ?_⟩, hopen⟩
      · exact .listener s.listeners (.bind s.server.config.host s.server.config.port)
      · simp [History.append, setUp]
      · rfl
  | some f =>
    have hserver : server = s.server := by cases hopens <;> rfl
    rw [hserver] at hopen
    exact .inr ⟨f, hopen⟩

/-- A server that does not run is started with a thread of its own, or it is left as it is. -/
theorem launch (hs : s.Minded direct) (P : Interrupts) (hrun : s.server.running = false) :
    (∃ t, Site.launch P s = .ok true t ∧ t.Minded direct ∧ t.server.running = true) ∨
      (∃ t, Site.launch P s = .ok false t ∧ t.Minded direct) ∨
      ∃ f t, Site.launch P s = .error f t ∧ t.Minded direct := by
  obtain ⟨es, hes, ⟨hbound, hopen⟩ | ⟨f, hopen⟩⟩ := hs.openListener P
  · have hstart := startAccepting_calm P (s := s.opening es s.bound) hs.outside.calm
      (hs.outside.starts _ _ _)
    refine .inl ⟨_, (launch_of_ok hrun hopen).trans (Run.bind_of_ok hstart _), ?_, rfl⟩
    exact hs.accepting hes hbound
  · have ht : (s.opening es s.server).Minded direct := hs.opening hes fun _ _ => Iff.rfl
    cases hf : f.isSystem with
    | false => exact .inr (.inr ⟨f, _, launch_of_broken hrun hopen hf, ht⟩)
    | true =>
      refine .inr (.inl ⟨_, launch_of_refused hrun hopen hf, ht.push rfl ?_⟩)
      exact (ofLoop_note (by decide) _).begins

/-! ## Sequences of operations -/

theorem apply (hs : s.Minded direct) {operation : Operation} (h : operation ≠ .serveForever) :
    (operation.apply s).Minded direct := by
  refine upheld.apply hs h fun hrun => ?_
  rcases hs.launch (Site.perform s.depth) hrun with
    ⟨t, hlaunch, ht, _⟩ | ⟨t, hlaunch, ht⟩ | ⟨f, t, hlaunch, ht⟩
  · rw [Run.after_of_ok hlaunch]
    exact ht
  · rw [Run.after_of_ok hlaunch]
    exact ht
  · rw [Run.after_of_error hlaunch]
    exact ht

theorem after_bind (hs : s.Minded direct) :
    (Run.after Server.bind s).Minded (s.listeners :: direct) := by
  have heq : Server.bind s = Site.openListener (Site.perform s.depth) s := rfl
  rw [Run.after_congr heq]
  obtain ⟨es, hes, ⟨_, hopen⟩ | ⟨f, hopen⟩⟩ := hs.openListener (Site.perform s.depth)
  · rw [Run.after_of_ok hopen]
    exact hs.bound hes
  · rw [Run.after_of_error hopen]
    refine hs.opening hes fun n hne => ?_
    rw [List.mem_cons]
    exact or_iff_right hne

end Minded

/-- The sites that a sequence of calls leads to by which a server is bound, started and shut down,
with the turns of the threads that accept connections in between, and the listeners that were made
by binding it directly. -/
inductive Used (s₀ : Site) : List Nat → Site → Prop
  | first : Used s₀ [] s₀
  | bind {direct : List Nat} {s : Site} (h : Used s₀ direct s) :
      Used s₀ (s.listeners :: direct) (Run.after Server.bind s)
  | next {direct : List Nat} {s : Site} (operation : Operation) (h : Used s₀ direct s)
      (hserve : operation ≠ .serveForever) : Used s₀ direct (operation.apply s)

theorem Used.minded {s₀ : Site} (h₀ : s₀.Minded []) (h : Used s₀ direct s) :
    s.Minded direct := by
  induction h with
  | first => exact h₀
  | bind h ih => exact ih.after_bind
  | next operation h hserve ih => exact ih.apply hserve

/-- A server that has just been made. -/
theorem minded_ofServer {config : Config} {load : Loader} {o : Outside} {h : History}
    (ho : o.Startable) (hh : ∀ e ∈ h.toList, e.isOwn = false) :
    (ofServer (Server.ofConfig config load) o h).Minded [] where
  outside := ho
  bound_lt := by
    intro number hnumber
    obtain ⟨e, he, hbound⟩ := List.mem_filterMap.1 hnumber
    rw [Event.bound?_of_isOwn (hh e (List.mem_reverse.2 he))] at hbound
    cases hbound
  direct_lt := by simp
  started _ hnumber := by cases hnumber
  running hrun := by cases hrun

end Site

/-! ## Starting -/

namespace Server

open Site

/-- **A start is right that somebody accepts connections**, unless the listener was made by binding
the server directly. -/
theorem start_attended {config : Config} {load : Loader} {o : Outside} {h : History}
    {direct : List Nat} {s t : Site} (ho : o.Startable) (hh : ∀ e ∈ h.toList, e.isOwn = false)
    (hs : Used (ofServer (ofConfig config load) o h) direct s) (hstart : start s = .ok true t) :
    ∃ l, t.server.listener = some l ∧ (t.history.Attended l.number ↔ l.number ∉ direct) := by
  have hminded := hs.minded (minded_ofServer ho hh)
  have ht : t.Minded direct ∧ t.server.running = true := by
    cases hrun : s.server.running with
    | true =>
      have hlaunch : start s = .ok true (s.push alreadyRunning) := launch_of_running _ hrun
      cases hlaunch.symm.trans hstart
      exact ⟨hminded.push rfl (ofLoop_note (by decide) _).begins, hrun⟩
    | false =>
      have heq : start s = Site.launch (perform s.depth) s := rfl
      rcases hminded.launch (perform s.depth) hrun with
        ⟨u, hlaunch, hu⟩ | ⟨u, hlaunch, hu⟩ | ⟨f, u, hlaunch, hu⟩
      all_goals
        cases (heq.trans hlaunch).symm.trans hstart
      exact hu
  obtain ⟨l, hlistener, hattended⟩ := ht.1.running ht.2
  refine ⟨l, hlistener, ?_, hattended.2⟩
  intro h hmem
  exact (hattended.1 hmem).not_attended h

theorem inUse_startable : inUse.Startable where
  calm _ _ _ := rfl
  logs := inUse_steady.logs
  names := inUse_steady.names
  starts _ _ _ := rfl
  joins _ _ _ := rfl

/-- A server that is bound directly, which the operating system refuses, and then started twice,
with a shutdown in between. -/
def restarted : Site :=
  Operation.shutDown.apply (Operation.start.apply (Run.after bind (fresh inUse)))

theorem start_attended_inUse :
    inUse.Startable ∧ start restarted = .ok true (Run.after start restarted) ∧
      ∃ l, (Run.after start restarted).server.listener = some l ∧
        ((Run.after start restarted).history.Attended l.number ↔ l.number ∉ [0]) := by
  have hused : Used (fresh inUse) [0] restarted :=
    .next .shutDown (.next .start (.bind .first) (by simp)) (by simp)
  have hstart : start restarted = .ok true (Run.after start restarted) := rfl
  exact ⟨inUse_startable, hstart, start_attended inUse_startable (by simp) hused hstart⟩

/-- A start says that a server listens that was bound directly, and nobody accepts connections. -/
theorem start_unattended : ∃ s t l, bind (fresh .quiet) = .ok () s ∧ start s = .ok true t ∧
    t.server.listener = some l ∧ ¬ t.history.Attended l.number := by
  refine ⟨_, _, _, rfl, rfl, rfl, ?_⟩
  rintro ⟨after, thread, name, before, heq, _⟩
  have hthreads := congrArg (List.filterMap Event.accepting?) heq
  rw [List.filterMap_append] at hthreads
  exact List.append_ne_nil_of_right_ne_nil _ (List.cons_ne_nil thread _) hthreads.symm

end Server

end StaticHttp
