import StaticHttp.Proofs.Server.Accounting
import StaticHttp.Proofs.Server.Binding

/-!
# The life of a server

However a server is started, made to serve and shut down, and however often the operating system
refuses to make or to set up a listener, the server runs exactly when it has a listener, and every
listener but its own has been closed once.

    s₀.Reached s → s.Contract                                                         (lifeCycle)
-/

namespace StaticHttp

/-! ## The outside -/

/-- An orderly outside whose offers the loop puts up with, that names listeners as it should, and
that lets servers be announced and threads for accepting connections start. -/
structure Outside.Steady (o : Outside) : Prop extends Orderly o where
  regular : ∀ offer ∈ o.offers, offer.Regular
  names : o.Names
  logs : o.LetsLog
  starts : ∀ past number name, o.interrupts past (.startThread (.accepting number) name) = none

theorem Outside.Steady.later {o : Outside} (h : o.Steady) (n : Nat) : (o.later n).Steady where
  toOrderly := h.toOrderly.later n
  regular offer hoffer := h.regular offer (List.mem_of_mem_drop hoffer)
  names := h.names
  logs := h.logs
  starts := h.starts

namespace Site

variable {s t : Site}

/-- A site between two operations. -/
structure Idle (s : Site) : Prop where
  kept : s.Kept
  steady : s.outside.Steady

theorem Idle.passage {n : Nat} {a : Bool} {es : List Event} (hs : s.Idle)
    (h : Passage (s.later n) a es t) : t.Idle where
  kept := (hs.kept.later n).passage h
  steady := by
    rw [h.outside]
    exact hs.steady.later n

/-! ## Binding -/

/-- The calls by which the next listener is made and set up. -/
def making (s : Site) : List Event := s.creation :: setUp s.listeners s.server.config

/-- A call by which the next listener is made or set up is refused. -/
def Refuses (s : Site) (f : Failure) : Prop :=
  ∃ past, ∃ e ∈ s.making, s.outside.fails past e = some f

theorem Opens.refuses {f : Failure} {calls : List Event} {server : Server}
    (h : Opens s (some f) calls server) : s.Refuses f ∧ server = s.server := by
  cases h with
  | refused f creation => exact ⟨⟨s.history, s.creation, List.mem_cons_self, creation⟩, rfl⟩
  | unfit f done e past creation hbegins refusal =>
    refine ⟨⟨past, e, List.mem_cons_of_mem _ (hbegins.subset ?_), refusal⟩, rfl⟩
    exact List.mem_append_right done List.mem_cons_self

theorem Refuses.isSystem {f : Failure} (h : s.Refuses f) (ho : s.outside.Orderly) :
    f.isSystem = true := by
  obtain ⟨past, e, he, hf⟩ := h
  have hmay := ho.fails past e f hf
  rcases List.mem_cons.1 he with rfl | he
  · exact hmay
  · obtain ⟨call, hcall, rfl⟩ := List.mem_map.1 he
    simp only [List.mem_cons, List.not_mem_nil, or_false] at hcall
    rcases hcall with rfl | rfl | rfl | rfl
    all_goals exact hmay

/-- A server that does not run is bound, or it is left as it is by a refusal. -/
theorem openListener_idle (depth : Nat) (hs : s.Idle) (hrun : s.server.running = false) :
    (∃ t, openListener (perform depth) s = .ok () t ∧ t.Idle ∧ t.server.running = true) ∨
      ∃ f t, openListener (perform depth) s = .error f t ∧ t.Idle ∧ t.server = s.server ∧
        s.Refuses f := by
  obtain ⟨fault, es, t, hm, hopens, hopen⟩ := openListener_opens depth hrun (hs.kept.spent hrun)
    hs.steady.letsStop hs.steady.names
  have hopen : openListener (perform depth) s = Run.ended fault t :=
    hopen.resolve_right fun h => h.2.1 hs.steady.logs
  have hsteady : t.outside.Steady := by
    rw [hm.outside]
    exact hs.steady
  cases fault with
  | none =>
    have hkept : t.Kept := hs.kept.opens hrun hm hopens (by simp)
    exact .inl ⟨t, hopen, ⟨hkept, hsteady⟩, hopens.running⟩
  | some f =>
    obtain ⟨hrefuses, hserver⟩ := hopens.refuses
    have hkept : t.Kept := by
      refine hs.kept.opens hrun hm hopens ?_
      intro g hg
      cases hg
      exact hrefuses.isSystem hs.steady.toOrderly
    exact .inr ⟨f, t, hopen, ⟨hkept, hsteady⟩, hserver, hrefuses⟩

/-! ## Starting -/

/-- The site with the next thread for accepting connections made. -/
def prepared (s : Site) : Site :=
  { s with
    server := { s.server with acceptThread := some s.threads.made }
    threads := { s.threads with made := s.threads.made + 1 } }

/-- The start of the next thread for accepting connections. -/
def acceptStart (s : Site) : Event :=
  .startThread (.accepting s.threads.made) acceptThreadName

theorem startAccepting_eq (P : Interrupts) (s : Site) :
    startAccepting P s = (call P s.acceptStart >>= fun _ => modify fun s' => { s' with
      threads := { s'.threads with started := some s.threads.made } }) s.prepared := rfl

/-- The thread that accepts connections is started. -/
theorem startAccepting_idle (P : Interrupts) (hs : s.Idle) (hrun : s.server.running = true) :
    ∃ t, startAccepting P s = .ok () t ∧ t.Idle ∧ t.server.running = true := by
  let started : Site := s.prepared.push s.acceptStart
  have hcall : call P s.acceptStart s.prepared = .ok () started := by
    have hinterrupts : s.prepared.outside.interrupts s.prepared.history s.acceptStart = none :=
      hs.steady.starts _ _ _
    have hfails : s.prepared.outside.fails s.prepared.history s.acceptStart = none :=
      hs.steady.fails_eq_none (fun _ => id) _
    have hinterrupted :
        interrupted P (s.prepared.outside.interrupts s.prepared.history s.acceptStart) started =
          .ok () started := by
      rw [hinterrupts]
      rfl
    rw [call_eq hinterrupted rfl, hfails, Run.ended_none]
  let t : Site :=
    { started with threads := { started.threads with started := some s.threads.made } }
  have hstart : startAccepting P s = .ok () t := by
    rw [startAccepting_eq, Run.bind_of_ok hcall]
    rfl
  refine ⟨t, hstart, ⟨?_, hs.steady⟩, hrun⟩
  refine ⟨hs.kept.running, hs.kept.opened, hs.kept.nodup, hs.kept.below, ?_⟩
  intro number hnumber
  cases hnumber
  exact .inr ⟨rfl, hs.kept.listener_isSome hrun⟩

/-- The entry that is logged when a server is started that runs already. -/
def alreadyRunning : Event := .log ⟨Server.source, Log.warning, "Server is already running"⟩

/-- The entry that is logged when a server cannot be started. -/
def startReport (c : Config) (f : Failure) : Event :=
  .log ⟨Server.source, Log.error,
    "Error starting server on " ++ c.host.display ++ ":" ++ c.port.display ++ ": " ++ f.message⟩

section

variable {P : Interrupts} {f : Failure}

theorem launch_of_ok (hrun : s.server.running = false) (hopen : openListener P s = .ok () t) :
    launch P s = (startAccepting P >>= fun _ => pure true) t := by
  unfold launch
  rw [Run.get_bind, hrun]
  exact Run.bind_of_ok (Run.attempt_ok hopen) _

theorem launch_of_refused (hrun : s.server.running = false) (hopen : openListener P s = .error f t)
    (hf : f.isSystem = true) :
    launch P s = .ok false (t.push (startReport t.server.config f)) := by
  unfold launch
  rw [Run.get_bind, hrun]
  refine (Run.bind_of_ok (Run.attempt_error hopen) _).trans ?_
  simp only [hf, if_true]
  rfl

theorem launch_of_broken (hrun : s.server.running = false) (hopen : openListener P s = .error f t)
    (hf : f.isSystem = false) : launch P s = .error f t := by
  unfold launch
  rw [Run.get_bind, hrun]
  refine (Run.bind_of_ok (Run.attempt_error hopen) _).trans ?_
  simp only [hf, Bool.false_eq_true, if_false]
  rfl

end

/-- A server that does not run is started, or it is left as it is by a refusal. -/
theorem launch_idle (depth : Nat) (hs : s.Idle) (hrun : s.server.running = false) :
    (∃ t, launch (perform depth) s = .ok true t ∧ t.Idle ∧ t.server.running = true) ∨
      ∃ t, launch (perform depth) s = .ok false t ∧ t.Idle ∧ t.server = s.server := by
  rcases openListener_idle depth hs hrun with ⟨t, hopen, ht, hrun'⟩ | ⟨f, t, hopen, ht, hserver, hf⟩
  · obtain ⟨u, hstart, hu⟩ := startAccepting_idle (perform depth) ht hrun'
    exact .inl ⟨u, (launch_of_ok hrun hopen).trans (Run.bind_of_ok hstart _), hu⟩
  · have hlaunch := launch_of_refused hrun hopen (hf.isSystem hs.steady.toOrderly)
    exact .inr ⟨_, hlaunch, ht.passage (n := 0) (.push t rfl), hserver⟩

/-! ## Serving -/

/-- The loop of a server that runs ends with the server shut down. -/
theorem serve_idle_of_running (depth : Nat) (hs : s.Idle) (hrun : s.server.running = true) :
    ∃ t, serve (perform (depth + 1)) s = .ok () t ∧ t.Idle ∧ t.server.running = false := by
  obtain ⟨rs, t, haccepts, _, hserve, hp⟩ := serve_accepts depth hrun
    (hs.kept.listener_isSome hrun) hs.steady.toOrderly
  have hfault := haccepts.fault_eq_none hs.steady.regular
  rw [List.findSome?_eq_none_iff.2 hfault] at hserve
  rw [haccepts.any_shut hfault] at hp
  exact ⟨t, hserve, hs.passage hp, hp.not_running⟩

/-- A server is bound if it has to be, and its loop ends with the server shut down; or else it is
left as it is by a refusal. -/
theorem serve_idle (depth : Nat) (hs : s.Idle) :
    (∃ t, serve (perform (depth + 1)) s = .ok () t ∧ t.Idle ∧ t.server.running = false) ∨
      ∃ f t, serve (perform (depth + 1)) s = .error f t ∧ t.Idle ∧ t.server = s.server ∧
        s.Refuses f := by
  cases hrun : s.server.running with
  | true => exact .inl (serve_idle_of_running depth hs hrun)
  | false =>
    have hnone : s.server.listener.isNone = true := by
      rw [hs.kept.listener_eq_none hrun]
      rfl
    rcases openListener_idle (depth + 1) hs hrun with
      ⟨t, hopen, ht, hrun'⟩ | ⟨f, t, hopen, ht, hserver, hf⟩
    · obtain ⟨u, hserve, hu⟩ := serve_idle_of_running depth ht hrun'
      refine .inl ⟨u, ?_, hu⟩
      rw [← hserve, serve_of_listener _ (ht.kept.listener_isSome hrun')]
      unfold serve
      rw [Run.get_bind, hnone]
      exact Run.bind_of_ok hopen _
    · refine .inr ⟨f, t, ?_, ht, hserver, hf⟩
      unfold serve
      rw [Run.get_bind, hnone]
      exact Run.bind_of_error hopen _

/-- The turn of the thread that accepts connections. -/
theorem turn_idle (depth : Nat) (hs : s.Idle) :
    ∃ t, perform (depth + 2) .acceptThread s = .ok () t ∧ t.Idle := by
  unfold perform
  rw [Run.get_bind]
  cases hstarted : s.threads.started with
  | none => exact ⟨s, rfl, hs⟩
  | some number =>
    show ∃ t, runAcceptThread (perform (depth + 1)) number s = .ok () t ∧ t.Idle
    by_cases hbegun : number ∈ s.threads.begun
    · exact ⟨s, runAcceptThread_of_begun _ hbegun, hs⟩
    · let s₁ : Site := { s with threads := { s.threads with begun := number :: s.threads.begun } }
      have hrun : s.server.running = true := by
        rw [hs.kept.running]
        exact ((hs.kept.settled number hstarted).resolve_left hbegun).2
      obtain ⟨t, hserve, ht, _⟩ := serve_idle_of_running depth (s := s₁)
        ⟨hs.kept.turn number, hs.steady⟩ hrun
      refine ⟨t, ?_, ht⟩
      unfold runAcceptThread
      rw [Run.get_bind, if_neg hbegun, Run.modify_bind, asThread]
      exact Run.bind_of_ok (Run.attempt_ok hserve) _

theorem stop_idle (depth : Nat) (hs : s.Idle) :
    ∃ t, stop (perform depth) s = .ok () t ∧ t.Idle ∧ t.server.running = false := by
  cases hrun : s.server.running with
  | false => exact ⟨s, stop_of_not_running _ hrun, hs, hrun⟩
  | true =>
    obtain ⟨es, t, hstop, hp, _⟩ := stop_passage depth hrun (hs.kept.listener_isSome hrun)
      hs.steady.letsStop
    exact ⟨t, hstop, hs.passage (n := 0) hp, hp.not_running⟩

/-! ## Sequences of operations -/

/-- What can be done with a server, and the turn of the thread that accepts connections for it. -/
inductive Operation
  | start
  | serveForever
  | shutDown
  | turn

/-- The site after an operation. -/
def Operation.apply : Operation → Site → Site
  | start => Run.after Server.start
  | serveForever => Run.after Server.serveForever
  | shutDown => Run.after Server.shutDown
  | turn => Run.after Server.runStarted

/-- The sites that a sequence of operations leads to. -/
inductive Reached (s₀ : Site) : Site → Prop
  | first : Reached s₀ s₀
  | next (operation : Operation) {s : Site} (h : Reached s₀ s) : Reached s₀ (operation.apply s)

theorem Idle.apply (hs : s.Idle) (operation : Operation) : (operation.apply s).Idle := by
  cases operation with
  | start =>
    cases hrun : s.server.running with
    | true =>
      have hstart : Server.start s = .ok true (s.push alreadyRunning) := launch_of_running _ hrun
      show (Run.after Server.start s).Idle
      rw [Run.after_of_ok hstart]
      exact hs.passage (n := 0) (.push s rfl)
    | false =>
      show (Run.after Server.start s).Idle
      rcases launch_idle s.depth hs hrun with ⟨t, hstart, ht, _⟩ | ⟨t, hstart, ht, _⟩
      · rw [Run.after_of_ok (m := Server.start) hstart]
        exact ht
      · rw [Run.after_of_ok (m := Server.start) hstart]
        exact ht
  | serveForever =>
    show (Run.after Server.serveForever s).Idle
    rcases serve_idle _ hs with ⟨t, hserve, ht, _⟩ | ⟨f, t, hserve, ht, _⟩
    · rw [Run.after_of_ok (m := Server.serveForever) hserve]
      exact ht
    · rw [Run.after_of_error (m := Server.serveForever) hserve]
      exact ht
  | shutDown =>
    obtain ⟨t, hstop, ht, _⟩ := stop_idle s.depth hs
    show (Run.after Server.shutDown s).Idle
    rw [Run.after_of_ok (m := Server.shutDown) hstop]
    exact ht
  | turn =>
    obtain ⟨t, hturn, ht⟩ := turn_idle _ hs
    show (Run.after Server.runStarted s).Idle
    rw [Run.after_of_ok (m := Server.runStarted) hturn]
    exact ht

/-- A server that has just been made. -/
theorem kept_ofServer {config : Config} {load : Loader} {o : Outside} {h : History}
    (hh : ∀ e ∈ h.toList, e.ofListener = false) :
    (ofServer (Server.ofConfig config load) o h).Kept := by
  have hhistory : h = History.empty.append h.toList := by
    apply History.eq_append
    rfl
  have hnone : h.toList.filter Event.ofListener = [] := by
    apply List.filter_eq_nil_iff.2
    intro e he
    rw [hh e he]
    exact Bool.false_ne_true
  have hopened : h.opened o.fails = [] := by
    rw [hhistory]
    exact History.opened_append _ (by rw [hnone]; simp)
  have hclosed : h.closed = [] := by
    rw [hhistory, History.closed_append, hnone]
    rfl
  refine ⟨rfl, ?_, ?_, ?_, ?_⟩
  · show h.opened o.fails = [] ++ h.closed
    rw [hopened, hclosed]
    rfl
  · show (h.opened o.fails).Nodup
    rw [hopened]
    exact List.nodup_nil
  · show ∀ number ∈ h.opened o.fails, number < 0
    rw [hopened]
    simp
  · intro number hnumber
    cases hnumber

theorem Reached.idle {s₀ : Site} (h₀ : s₀.Idle) (h : Reached s₀ s) : s.Idle := by
  induction h with
  | first => exact h₀
  | next operation h ih => exact ih.apply operation

/-! ## The contract -/

/-- What a server can be relied on for between two operations. -/
structure Contract (s : Site) : Prop where
  listener : s.server.running = true ↔ s.server.listener.isSome = true
  address : s.server.running = true ↔ s.server.address?.isSome = true
  /-- Every listener that was made has been closed once, but for the server's own, which has not. -/
  closed : ∀ number ∈ s.history.opened s.outside.fails,
    s.history.closed.count number = if number ∈ s.server.current then 0 else 1
  /-- A start tells whether the server runs, and leaves it as it was if it does not. -/
  start : ∃ b t, Server.start s = .ok b t ∧ (b = true ↔ t.server.running = true) ∧
    (b = false → t.server = s.server)
  /-- Nothing is made when a server is started that runs. -/
  restart : s.server.running = true → Server.start s = .ok true (s.push alreadyRunning)
  /-- All that leaves the loop is a refusal to bind the server, which leaves the server as it
  was. -/
  serveForever : (∃ t, Server.serveForever s = .ok () t) ∨
    ∃ f t, Server.serveForever s = .error f t ∧ f.isSystem = true ∧ s.Refuses f ∧
      t.server = s.server
  /-- Nothing happens when a server is shut down that does not run. -/
  shutDown : s.server.running = false → Server.shutDown s = .ok () s

theorem Idle.start (hs : s.Idle) :
    ∃ b t, Server.start s = .ok b t ∧ (b = true ↔ t.server.running = true) ∧
      (b = false → t.server = s.server) := by
  cases hrun : s.server.running with
  | true =>
    refine ⟨true, s.push alreadyRunning, launch_of_running _ hrun, ?_, by simp⟩
    exact ⟨fun _ => hrun, fun _ => rfl⟩
  | false =>
    rcases launch_idle s.depth hs hrun with ⟨t, hstart, _, hrun'⟩ | ⟨t, hstart, _, hserver⟩
    · exact ⟨true, t, hstart, ⟨fun _ => hrun', fun _ => rfl⟩, by simp⟩
    · refine ⟨false, t, hstart, ?_, fun _ => hserver⟩
      rw [hserver, hrun]

theorem Idle.contract (hs : s.Idle) : s.Contract where
  listener := by rw [hs.kept.running]
  address := by
    rw [hs.kept.running, Server.address?]
    cases s.server.listener <;> simp
  closed _ := hs.kept.count_closed
  start := hs.start
  restart := launch_of_running _
  serveForever := by
    rcases serve_idle _ hs with ⟨t, hserve, _⟩ | ⟨f, t, hserve, _, hserver, hf⟩
    · exact .inl ⟨t, hserve⟩
    · exact .inr ⟨f, t, hserve, hf.isSystem hs.steady.toOrderly, hf, hserver⟩
  shutDown := stop_of_not_running _

end Site

namespace Server

open Site

/-- **The life of a server**: whatever is done with it, what it can be relied on for holds after
every operation. -/
theorem lifeCycle {config : Config} {load : Loader} {o : Outside} {h : History} {s : Site}
    (ho : o.Steady) (hh : ∀ e ∈ h.toList, e.ofListener = false)
    (hs : Reached (ofServer (ofConfig config load) o h) s) : s.Contract :=
  (hs.idle ⟨kept_ofServer hh, ho⟩).contract

/-- The address is in use when the first listener is bound. -/
def inUse : Outside :=
  { Outside.quiet with
    fails := fun _ e => match e with
      | .listener 0 (.bind _ _) => some (.system (.numbered 98 "Address already in use"))
      | _ => none }

theorem inUse_steady : inUse.Steady where
  interrupts := by
    intro past e i hi
    cases hi
  offers := by simp [inUse, Outside.quiet]
  fails := by
    intro past e f hf
    simp only [inUse] at hf
    split at hf
    · cases hf
      rfl
    · cases hf
  regular := by simp [inUse, Outside.quiet]
  names := by simp [Outside.Names, inUse, Outside.quiet, Outside.standardName]
  logs past entry := rfl
  starts past number name := rfl

/-- A server that is started twice and shut down: the first start fails. -/
theorem lifeCycle_inUse :
    inUse.Steady ∧
      (Operation.shutDown.apply (Operation.start.apply (Operation.start.apply
        (ofServer (ofConfig .standard fun _ _ => .ok []) inUse .empty)))).Contract :=
  ⟨inUse_steady, lifeCycle inUse_steady (by simp)
    (.next .shutDown (.next .start (.next .start .first)))⟩

end Server

end StaticHttp
