import StaticHttp.Proofs.Server.Announcing
import StaticHttp.Proofs.Server.Ledger

/-!
# Binding a server

A server that does not run is bound by making a listener and setting it up with four calls.  Nothing
comes of what comes in between of them.  Either the listener cannot be made, or one of the calls is
refused and the listener is closed, or the server runs with the new listener; in the first two cases
the server is as before.  When it runs it may be shut down again while its address is logged.

    openListener P s = Run.ended fault t ∧ Opens s fault calls t.server         (openListener_opens)
    s.Kept → t.Kept                                                             (Kept.opens)
-/

namespace StaticHttp

/-- A listener's name has a host and a port. -/
def Outside.Names (o : Outside) : Prop := ∀ host port, 2 ≤ (o.boundName host port).length

namespace Site

/-- The making of the next listener. -/
def creation (s : Site) : Event := .listener s.listeners .create

/-- The calls that set up a listener. -/
def setUp (number : Nat) (c : Config) : List Event :=
  [.reuseAddress, .bind c.host c.port, .listen c.connectionQueue, .setTimeout acceptTimeout].map
    (Event.listener number)

/-- The server that runs with the next listener. -/
def bound (s : Site) : Server :=
  { s.server with
    running := true
    listener := some ⟨s.listeners, s.outside.boundName s.server.config.host s.server.config.port⟩ }

/-- What comes of binding a server: the failure, the calls on the listener once it is made, and the
server after it. -/
inductive Opens (s : Site) : Option Failure → List Event → Server → Prop
  /-- The listener cannot be made. -/
  | refused (f : Failure) (creation : s.outside.fails s.history s.creation = some f) :
      Opens s (some f) [] s.server
  /-- The listener cannot be set up, and it is closed if the operating system refuses. -/
  | unfit (f : Failure) (done : List Event) (e : Event) (past : History)
      (creation : s.outside.fails s.history s.creation = none)
      (setUp : done ++ [e] <+: setUp s.listeners s.server.config)
      (refusal : s.outside.fails past e = some f) :
      Opens s (some f)
        (done ++ [e] ++ if f.isSystem then [.listener s.listeners .close] else []) s.server
  /-- The server is bound. -/
  | bound (creation : s.outside.fails s.history s.creation = none) :
      Opens s none (setUp s.listeners s.server.config) s.bound

variable {s t : Site} {e : Event}

/-! ## Calls of a server that does not run -/

/-- No signal comes during a call on a listener as long as nothing else is done. -/
def Unsignalled (s : Site) : Prop :=
  ∀ es e number, deeds es = [] → e.ofListener = true →
    s.outside.interrupts (s.history.append es) e ≠ some (.signal number)

/-- The server stays as it is on the way, and listeners are called at most. -/
structure Stays (s : Site) (es : List Event) (t : Site) : Prop extends Moves s es t where
  server_eq : t.server = s.server
  deeds_eq : deeds es = []
  untold : s.Unsignalled → ∀ e ∈ es, ¬ Tells e

namespace Stays

variable {u : Site} {es fs : List Event}

theorem refl (s : Site) : Stays s [] s := ⟨(Passage.refl s).toMoves, rfl, rfl, by simp⟩

theorem unsignalled (h : Stays s es t) (hs : s.Unsignalled) : t.Unsignalled := by
  intro fs e number hfs he
  rw [h.outside, h.history, History.append_append]
  refine hs _ e number ?_ he
  rw [deeds_append, h.deeds_eq, hfs]
  rfl

theorem trans (h : Stays s es t) (h' : Stays t fs u) : Stays s (es ++ fs) u where
  toMoves := h.toMoves.trans h'.toMoves
  server_eq := h'.server_eq.trans h.server_eq
  deeds_eq := by
    rw [deeds_append, h.deeds_eq, h'.deeds_eq]
    rfl
  untold hs := List.forall_mem_append.2 ⟨h.untold hs, h'.untold (h.unsignalled hs)⟩

theorem settled (h : Stays s es t) (hs : s.Settled) : t.Settled := by
  intro number hnumber
  rw [h.started] at hnumber
  rcases hs number hnumber with hbegun | hlistener
  · exact .inl (h.begun hbegun)
  · exact .inr (by rw [h.server_eq]; exact hlistener)

end Stays

theorem not_tells_of_ofListener (he : e.ofListener = true) : ¬ Tells e := by
  rintro ⟨number, rfl⟩
  cases he

theorem deeds_of_ofListener (he : e.ofListener = true) : deeds [e] = [] := by
  cases e with
  | listener number call => rfl
  | _ => cases he

theorem call_of_not_running (depth : Nat) (he : e.ofListener = true)
    (hrun : s.server.running = false) (hs : s.Settled) :
    ∃ es t, call (perform depth) e s = Run.ended (s.outside.fails s.history e) t ∧
      Stays s (e :: es) t ∧ es.filter Event.ofListener = [] := by
  obtain ⟨es, t, hi, hp, hes, htells⟩ := interrupted_of_not_running depth
    (s.outside.interrupts s.history e) (s := s.push e) hrun fun _ => hs
  have hfirst : Moves s [e] (s.push e) := .append s [e] s.server
  refine ⟨es, t, call_eq hi hp.outside, ⟨hfirst.trans hp.toMoves, hp.server_eq, ?_, ?_⟩, hp.closing⟩
  · rw [deeds_cons, deeds_of_ofListener he, hes]
    rfl
  · intro hunsignalled
    refine List.forall_mem_cons.2 ⟨not_tells_of_ofListener he, htells ?_⟩
    exact fun number => hunsignalled [] e number rfl he

/-- Calls on a listener are made one after the other until one of them is refused. -/
theorem calls_of_not_running (depth : Nat) (calls : List Event)
    (hcalls : ∀ e ∈ calls, e.ofListener = true) (hrun : s.server.running = false)
    (hs : s.Settled) :
    ∃ fault es t, calls.forM (call (perform depth)) s = Run.ended fault t ∧ Stays s es t ∧
      match fault with
      | none => es.filter Event.ofListener = calls
      | some f => ∃ done e past, es.filter Event.ofListener = done ++ [e] ∧ done ++ [e] <+: calls ∧
          s.outside.fails past e = some f := by
  induction calls generalizing s with
  | nil => exact ⟨none, [], s, rfl, .refl s, rfl⟩
  | cons e calls ih =>
    have he : e.ofListener = true := hcalls e List.mem_cons_self
    obtain ⟨es, t, hcall, hstays, hlisteners⟩ := call_of_not_running depth he hrun hs
    have hfilter : (e :: es).filter Event.ofListener = [e] := by
      rw [List.filter_cons_of_pos he, hlisteners]
    have hforM : (e :: calls).forM (call (perform depth)) s =
        (call (perform depth) e >>= fun _ => calls.forM (call (perform depth))) s := rfl
    cases hf : s.outside.fails s.history e with
    | some f =>
      rw [hf] at hcall
      refine ⟨some f, e :: es, t, ?_, hstays, [], e, s.history, hfilter, ⟨calls, rfl⟩, hf⟩
      rw [hforM, Run.bind_of_error hcall]
      rfl
    | none =>
      rw [hf] at hcall
      obtain ⟨fault, fs, u, hrest, hstays', hfault⟩ := ih
        (fun e' he' => hcalls e' (List.mem_cons_of_mem e he')) (s := t)
        (by rw [hstays.server_eq, hrun]) (hstays.settled hs)
      refine ⟨fault, e :: es ++ fs, u, ?_, hstays.trans hstays', ?_⟩
      · rw [hforM, Run.bind_of_ok hcall, hrest]
      · rw [List.filter_append, hfilter]
        cases fault with
        | none => rw [hfault]; rfl
        | some f =>
          obtain ⟨done, e', past, hdone, hbegins, hrefusal⟩ := hfault
          rw [hstays.outside] at hrefusal
          refine ⟨e :: done, e', past, by rw [hdone]; rfl, ?_, hrefusal⟩
          exact List.cons_prefix_cons.2 ⟨rfl, hbegins⟩

/-! ## The listener -/

theorem mem_setUp {number : Nat} {c : Config} (he : e ∈ setUp number c) :
    e.ofListener = true ∧ e.created? = none ∧ e.closed? = none := by
  obtain ⟨call, hcall, rfl⟩ := List.mem_map.1 he
  simp only [List.mem_cons, List.not_mem_nil, or_false] at hcall
  rcases hcall with rfl | rfl | rfl | rfl
  all_goals exact ⟨rfl, rfl, rfl⟩

theorem listen_eq (P : Interrupts) (s : Site) (number : Nat) :
    listen P number s = (setUp number s.server.config).forM (call P) s := by
  have hforM : (setUp number s.server.config).forM (call P) =
      (call P (.listener number .reuseAddress) >>= fun _ =>
        call P (.listener number (.bind s.server.config.host s.server.config.port)) >>= fun _ =>
        call P (.listener number (.listen s.server.config.connectionQueue)) >>= fun _ =>
        call P (.listener number (.setTimeout acceptTimeout)) >>= fun _ => pure ()) := rfl
  rw [hforM, bind_pure_unit, listen, Run.get_bind]

theorem listen_of_not_running (depth number : Nat) (hrun : s.server.running = false)
    (hs : s.Settled) :
    ∃ fault es t, listen (perform depth) number s = Run.ended fault t ∧ Stays s es t ∧
      match fault with
      | none => es.filter Event.ofListener = setUp number s.server.config
      | some f => ∃ done e past, es.filter Event.ofListener = done ++ [e] ∧
          done ++ [e] <+: setUp number s.server.config ∧ s.outside.fails past e = some f := by
  rw [listen_eq]
  exact calls_of_not_running depth _ (fun e he => (mem_setUp he).1) hrun hs

section

variable {u v : Site} {f : Failure}

/-- The site with its next number for a listener taken. -/
def numbered (s : Site) : Site := { s with listeners := s.listeners + 1 }

theorem openListener_of_refused (P : Interrupts)
    (hcreate : call P s.creation s.numbered = .error f t) : openListener P s = .error f t := by
  unfold openListener
  rw [Run.get_bind, Run.get_bind, Run.modify_bind]
  exact Run.bind_of_error hcreate _

theorem openListener_of_closed (P : Interrupts) (hcreate : call P s.creation s.numbered = .ok () t)
    (hlisten : listen P s.listeners t = .error f u) (hf : f.isSystem = true)
    (hclose : call P (.listener s.listeners .close) u = .ok () v) :
    openListener P s = .error f v := by
  unfold openListener
  rw [Run.get_bind, Run.get_bind, Run.modify_bind]
  refine (Run.bind_of_ok hcreate _).trans ?_
  rw [Run.bind_of_ok (Run.attempt_error hlisten)]
  simp only [hf, if_true]
  exact Run.bind_of_ok hclose _

theorem openListener_of_left (P : Interrupts) (hcreate : call P s.creation s.numbered = .ok () t)
    (hlisten : listen P s.listeners t = .error f u) (hf : f.isSystem = false) :
    openListener P s = .error f u := by
  unfold openListener
  rw [Run.get_bind, Run.get_bind, Run.modify_bind]
  refine (Run.bind_of_ok hcreate _).trans ?_
  rw [Run.bind_of_ok (Run.attempt_error hlisten)]
  simp only [hf, Bool.false_eq_true, if_false]
  rfl

theorem openListener_of_ok (P : Interrupts) (hcreate : call P s.creation s.numbered = .ok () t)
    (hlisten : listen P s.listeners t = .ok () u) (hserver : u.server = s.server)
    (houtside : u.outside = s.outside) :
    openListener P s =
      announce P (s.outside.boundName s.server.config.host s.server.config.port)
        s.server.config.documentRoot { u with server := s.bound } := by
  unfold openListener
  rw [Run.get_bind, Run.get_bind, Run.modify_bind]
  refine (Run.bind_of_ok hcreate _).trans ?_
  rw [Run.bind_of_ok (Run.attempt_ok hlisten)]
  rw [Site.bound, ← houtside, ← hserver]
  rfl

end

/-- What happens while a server is bound: a listener is made, nothing is done but call it, and no
signal comes if none comes during these calls. -/
structure Binds (s : Site) (es : List Event) (t : Site) : Prop
    extends Moves s.numbered (s.creation :: es) t where
  deeds_eq : deeds es = []
  untold : s.Unsignalled → ∀ e ∈ s.creation :: es, ¬ Tells e

theorem Stays.binds {es : List Event} (h : Stays s.numbered (s.creation :: es) t) :
    Binds s es t where
  toMoves := h.toMoves
  deeds_eq := h.deeds_eq
  untold hs := h.untold hs

/-- The listener has been set up: the server runs with it, and it is perhaps shut down while that is
logged. -/
theorem openListener_bound (depth : Nat) {es : List Event} (ho : s.outside.LetsStop)
    (hnames : s.outside.Names) (hs : s.Spent)
    (hcreate : call (perform depth) s.creation s.numbered = .ok () t)
    (hlisten : listen (perform depth) s.listeners t = .ok () u)
    (h : Stays s.numbered (s.creation :: es) u) :
    ∃ fs v, Binds s (es ++ fs) v ∧ v.server = s.bound ∧ fs.filter Event.ofListener = [] ∧
      (openListener (perform depth) s = .ok () v ∨ ¬ s.outside.LetsLog ∧
        ∃ gs w, openListener (perform depth) s = .ok () w ∧ Drops v gs w) := by
  let root := s.server.config.documentRoot
  let name := s.outside.boundName s.server.config.host s.server.config.port
  let x (fs : List Event) : Site := { u with history := u.history.append fs, server := s.bound }
  have hbinds : ∀ fs, deeds fs = [] → (∀ e ∈ fs, ¬ Tells e) → Binds s (es ++ fs) (x fs) := by
    intro fs hfs htells
    refine ⟨h.toMoves.trans (.append u fs s.bound), ?_, fun hunsignalled => ?_⟩
    · rw [deeds_append, h.binds.deeds_eq, hfs]
      rfl
    · exact List.forall_mem_append.2 ⟨h.untold hunsignalled, htells⟩
  have hopen : openListener (perform depth) s = announce (perform depth) name root (x []) :=
    openListener_of_ok (perform depth) hcreate hlisten h.server_eq h.outside
  have houtside : (x []).outside = s.outside := h.outside
  have hspent : (x []).Spent := by
    have hu : u.Spent := Spent.moves (s := s.numbered) hs h.toMoves
    exact hu
  rcases announce_of_running depth (hnames _ _) root (s := x []) rfl rfl (houtside ▸ ho) hspent with
    hannounce | ⟨hloud, gs, w, hannounce, hdrops⟩
  · have hquiet := hbinds (announcing name root) (deeds_announcing _ _) (not_tells_announcing _ _)
    exact ⟨announcing name root, x _, hquiet, rfl, filter_announcing _ _,
      .inl (hopen.trans hannounce)⟩
  · refine ⟨[], x [], hbinds [] rfl (by simp), rfl, rfl, .inr ⟨houtside ▸ hloud, gs, w, ?_, hdrops⟩⟩
    exact hopen.trans hannounce

/-- The listener cannot be set up: it is closed if the operating system refuses. -/
theorem openListener_unfit (depth : Nat) {es : List Event} (hrun : s.server.running = false)
    (hs : s.Settled) (ho : s.outside.LetsStop)
    (hcreate : call (perform depth) s.creation s.numbered = .ok () t)
    (hlisten : listen (perform depth) s.listeners t = .error f u)
    (h : Stays s.numbered (s.creation :: es) u) :
    ∃ fs v, openListener (perform depth) s = .error f v ∧ Binds s (es ++ fs) v ∧
      v.server = s.server ∧
      fs.filter Event.ofListener = if f.isSystem then [.listener s.listeners .close] else [] := by
  cases hf : f.isSystem with
  | false =>
    refine ⟨[], u, openListener_of_left _ hcreate hlisten hf, ?_, h.server_eq, rfl⟩
    rw [List.append_nil]
    exact h.binds
  | true =>
    obtain ⟨fs, v, hclose, hstays, hlisteners⟩ := call_of_not_running depth
      (e := .listener s.listeners .close) (s := u) rfl (by rw [h.server_eq]; exact hrun)
      (h.settled hs)
    have hcloses : u.outside.fails u.history (.listener s.listeners .close) = none := by
      rw [h.outside]
      exact ho.close _ _
    rw [hcloses] at hclose
    have hboth := h.trans hstays
    refine ⟨.listener s.listeners .close :: fs, v, ?_, hboth.binds, hboth.server_eq, ?_⟩
    · exact openListener_of_closed _ hcreate hlisten hf hclose
    · rw [List.filter_cons_of_pos rfl, hlisteners, if_pos rfl]

/-- **Binding a server that does not run**: it comes off, or it leaves the server as it is.  If it
comes off, something may come in between while that is logged, and shut the server down. -/
theorem openListener_opens (depth : Nat) (hrun : s.server.running = false) (hs : s.Spent)
    (ho : s.outside.LetsStop) (hnames : s.outside.Names) :
    ∃ fault es t, Binds s es t ∧ Opens s fault (es.filter Event.ofListener) t.server ∧
      (openListener (perform depth) s = Run.ended fault t ∨ fault = none ∧ ¬ s.outside.LetsLog ∧
        ∃ fs u, openListener (perform depth) s = .ok () u ∧ Drops t fs u) := by
  obtain ⟨es, t, hcreate, hstays, hlisteners⟩ :=
    call_of_not_running depth (e := s.creation) (s := s.numbered) rfl hrun hs.settled
  cases hcreation : s.outside.fails s.history s.creation with
  | some f =>
    rw [show s.numbered.outside.fails s.numbered.history s.creation = some f from hcreation]
      at hcreate
    refine ⟨some f, es, t, hstays.binds, ?_, .inl (openListener_of_refused _ hcreate)⟩
    rw [hlisteners, hstays.server_eq]
    exact .refused f hcreation
  | none =>
    rw [show s.numbered.outside.fails s.numbered.history s.creation = none from hcreation]
      at hcreate
    obtain ⟨fault, fs, u, hlisten, hstays', hfault⟩ := listen_of_not_running depth s.listeners
      (s := t) (by rw [hstays.server_eq]; exact hrun) (hstays.settled hs.settled)
    have hboth : Stays s.numbered (s.creation :: (es ++ fs)) u := hstays.trans hstays'
    cases fault with
    | none =>
      obtain ⟨gs, v, hbinds, hserver, hquiet, hopen⟩ :=
        openListener_bound depth ho hnames hs hcreate hlisten hboth
      refine ⟨none, es ++ fs ++ gs, v, hbinds, ?_, ?_⟩
      · simp only [List.filter_append, hlisteners, hquiet, hfault, hstays.server_eq, hserver,
          List.nil_append, List.append_nil]
        exact .bound hcreation
      · rcases hopen with hopen | hdropped
        · exact .inl hopen
        · exact .inr ⟨rfl, hdropped⟩
    | some f =>
      obtain ⟨done, e, past, hdone, hbegins, hrefusal⟩ := hfault
      rw [hstays.server_eq] at hbegins
      rw [hstays.outside] at hrefusal
      obtain ⟨gs, v, hopen, hbinds, hserver, hclosing⟩ :=
        openListener_unfit depth hrun hs.settled ho hcreate hlisten hboth
      refine ⟨some f, es ++ fs ++ gs, v, hbinds, ?_, .inl hopen⟩
      rw [List.filter_append, List.filter_append, hlisteners, hdone, hclosing, hserver]
      exact .unfit f done e past hcreation hbegins hrefusal

/-! ## What is kept -/

theorem filterMap_closed?_setUp {number : Nat} {c : Config} {calls : List Event}
    (h : calls <+: setUp number c) : calls.filterMap Event.closed? = [] := by
  apply List.filterMap_eq_nil_iff.2
  intro e he
  exact (mem_setUp (h.subset he)).2.2

/-- Only the first call makes a listener. -/
theorem Opens.created? {fault : Option Failure} {calls : List Event} {server : Server}
    (h : Opens s fault calls server) : ∀ e ∈ calls, e.created? = none := by
  cases h with
  | refused f creation => simp
  | unfit f done e past creation hbegins refusal =>
    intro e' he'
    rcases List.mem_append.1 he' with he' | he'
    · exact (mem_setUp (hbegins.subset he')).2.1
    · split at he'
      · rw [List.mem_singleton.1 he']
        rfl
      · cases he'
  | bound creation =>
    intro e he
    exact (mem_setUp he).2.1

theorem Opens.running {calls : List Event} {server : Server} (h : Opens s none calls server) :
    server.running = true := by
  cases h with
  | bound creation => rfl

theorem Kept.spent (hs : s.Kept) (hrun : s.server.running = false) : s.Spent :=
  fun _ => hs.begun hrun

section

variable {es : List Event}

theorem Binds.begun_of_kept (h : Binds s es t) (hs : s.Kept) (hrun : s.server.running = false)
    {number : Nat} (hnumber : t.threads.started = some number) : number ∈ t.threads.begun := by
  rw [h.started] at hnumber
  exact h.begun (hs.begun hrun hnumber)

/-- The history after a server is bound starts with the making of the listener. -/
theorem Binds.history_eq (h : Binds s es t) :
    t.history = (s.history.push s.creation).append es := by
  rw [h.history, History.append_cons]
  rfl

theorem Binds.opened (h : Binds s es t)
    (hes : ∀ e ∈ es.filter Event.ofListener, e.created? = none) :
    t.history.opened t.outside.fails =
      if (s.outside.fails s.history s.creation).isNone then
        s.listeners :: s.history.opened s.outside.fails
      else s.history.opened s.outside.fails := by
  have hfails : t.outside.fails = s.outside.fails := by
    rw [h.outside]
    rfl
  rw [hfails, h.history_eq, History.opened_append _ hes]
  exact History.opened_push_create s.history s.listeners

theorem Binds.closed (h : Binds s es t) :
    t.history.closed =
      ((es.filter Event.ofListener).filterMap Event.closed?).reverse ++ s.history.closed := by
  rw [h.history_eq, History.closed_append]
  rfl

/-- The number of the listener to be made has not been used. -/
theorem Kept.fresh (hs : s.Kept) {made : List Nat}
    (hmade : made = s.listeners :: s.history.opened s.outside.fails ∨
      made = s.history.opened s.outside.fails) :
    made.Nodup ∧ ∀ number ∈ made, number < s.listeners + 1 := by
  have hbelow : ∀ number ∈ s.history.opened s.outside.fails, number < s.listeners + 1 :=
    fun number hnumber => Nat.lt_succ_of_lt (hs.below number hnumber)
  rcases hmade with rfl | rfl
  · refine ⟨List.nodup_cons.2 ⟨?_, hs.nodup⟩, List.forall_mem_cons.2 ⟨Nat.lt_succ_self _, hbelow⟩⟩
    exact fun hmem => Nat.lt_irrefl _ (hs.below _ hmem)
  · exact ⟨hs.nodup, hbelow⟩

/-- What is kept is kept when a server is bound, and when the operating system refuses. -/
theorem Kept.opens {fault : Option Failure} (hs : s.Kept) (hrun : s.server.running = false)
    (h : Binds s es t) (hopens : Opens s fault (es.filter Event.ofListener) t.server)
    (hfault : ∀ f, fault = some f → f.isSystem = true) : t.Kept := by
  have hcurrent : s.server.current = [] := by
    rw [Server.current, hs.listener_eq_none hrun]
    rfl
  have hbefore : s.history.opened s.outside.fails = s.history.closed := by
    rw [hs.opened, hcurrent]
    rfl
  have hopened := h.opened hopens.created?
  obtain ⟨hnodup, hbelow⟩ := hs.fresh (hopened ▸ ite_eq_or_eq ..)
  have hserver : t.server.running = t.server.listener.isSome ∧
      t.history.opened t.outside.fails = t.server.current ++ t.history.closed := by
    rw [hopened, h.closed, hbefore]
    generalize es.filter Event.ofListener = calls at hopens
    generalize t.server = server at hopens
    cases hopens with
    | refused f creation =>
      refine ⟨hs.running, ?_⟩
      rw [creation, hcurrent]
      rfl
    | unfit f done e past creation hbegins refusal =>
      refine ⟨hs.running, ?_⟩
      rw [creation, hcurrent, hfault f rfl, if_pos rfl, List.filterMap_append,
        filterMap_closed?_setUp hbegins]
      rfl
    | bound creation =>
      refine ⟨rfl, ?_⟩
      rw [creation, filterMap_closed?_setUp List.prefix_rfl]
      rfl
  refine ⟨hserver.1, hserver.2, hnodup, ?_, fun _ hnumber => .inl (h.begun_of_kept hs hrun hnumber)⟩
  rw [h.listeners]
  exact hbelow

end

end Site

end StaticHttp
