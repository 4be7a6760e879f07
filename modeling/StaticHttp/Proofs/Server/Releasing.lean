import StaticHttp.Proofs.Server.Account
import StaticHttp.Proofs.Server.Calm
import StaticHttp.Proofs.Server.Upholding

/-!
# Releasing listeners

When the thread that accepts connections cannot be started, the server runs with a listener that is
forsaken: a shutdown waits for the thread, which fails as it was not started, and so it does not
come to close the listener; after it there is nothing to shut down any more.  Every other listener
is released: after a shutdown it has been closed, once, whatever the operating system refuses
meanwhile.

    s.Tended → (operation.apply s).Tended                                           (Tended.apply)
    Server.shutDown s = Run.ended fault t ∧ s.Releases fault t                 (shutDown_releases)
-/

namespace StaticHttp

/-! ## The outside -/

/-- A thread that was not started cannot be waited for. -/
def Failure.unjoinable : Failure :=
  .other "RuntimeError" false "cannot join thread before it is started"

/-- What can go wrong when a server is started and shut down, one after the other and nothing in
between: the operating system may refuse any call by which a listener is bound, the thread that
accepts connections may not start, and a thread that was not started cannot be waited for. -/
structure Outside.Breakable (o : Outside) : Prop where
  calm : o.Calm
  logs : o.LetsLog
  names : o.Names
  refuses : ∀ past number call f, o.fails past (.listener number call) = some f → f.isSystem = true
  /-- Closing a listener fails at most while it is being set up. -/
  closes : ∀ (past : History) (number : Nat) (e : Event), e.ofListener = false →
    o.fails (past.push e) (.listener number .close) = none
  joins : ∀ past number name, o.fails past (.joinThread number name) =
    if number ∈ past.unstarted o.fails then some .unjoinable else none

namespace Site

variable {s t : Site} {P : Interrupts} {es : List Event}

/-- The account of a server. -/
def account (s : Site) : Account where
  server := s.server
  threads := s.threads
  next := s.listeners
  made := s.history.opened s.outside.fails
  closed := s.history.closed
  stranded := s.history.stranded s.outside.fails

/-- A server that can be shut down whatever has been refused. -/
structure Tended (s : Site) : Prop where
  outside : s.outside.Breakable
  sound : s.account.Sound

/-! ## Events -/

theorem neutral_setUp {number : Nat} {c : Config} : ∀ e ∈ setUp number c, e.Neutral := by
  intro e he
  obtain ⟨_, hcreated, hclosed⟩ := mem_setUp he
  refine ⟨hcreated, hclosed, ?_⟩
  obtain ⟨call, _, rfl⟩ := List.mem_map.1 he
  rfl

theorem neutral_tried (s : Site) : ∀ e ∈ s.tried, e.Neutral :=
  fun e he => neutral_setUp e ((s.outside.tried_prefix _ _).subset he)

theorem neutral_announcement (s : Site) : ∀ e ∈ s.announcement, e.Neutral := by
  intro e he
  obtain ⟨message, rfl⟩ := mem_announcing he
  exact Event.neutral_of_isOwn rfl

theorem neutral_joining (number : Nat) : (joining number).Neutral := ⟨rfl, rfl, rfl⟩

theorem neutral_waiting (s : Site) : ∀ e ∈ haltBegin :: s.waiting, e.Neutral := by
  refine List.forall_mem_cons.2 ⟨Event.neutral_of_isOwn rfl, ?_⟩
  intro e he
  rcases mem_waiting he with ⟨number, rfl⟩ | rfl
  · exact neutral_joining number
  · exact Event.neutral_of_isOwn rfl

/-- Neutral events leave the account as it is. -/
theorem account_append (hes : ∀ e ∈ es, e.Neutral) (s : Site) :
    account { s with history := s.history.append es } = s.account := by
  obtain ⟨hopened, hclosed, hstranded⟩ :=
    History.append_neutral s.outside.fails hes s.history
  unfold account
  rw [hopened, hclosed, hstranded]

namespace Tended

theorem settled (hs : s.Tended) : s.Settled := by
  intro number hnumber
  obtain ⟨_, _, hbegun | ⟨hrun, _⟩⟩ := hs.sound.started number hnumber
  · exact .inl hbegun
  · obtain ⟨l, _, hlistener, _⟩ := hs.sound.running hrun
    exact .inr (by rw [show s.server.listener = some l from hlistener]; rfl)

theorem push (hs : s.Tended) {e : Event} (he : e.Neutral) : (s.push e).Tended where
  outside := hs.outside
  sound := by
    have haccount : (s.push e).account = s.account :=
      account_append (List.forall_mem_singleton.2 he) s
    rw [haccount]
    exact hs.sound

end Tended

/-! ## Shutting down -/

/-- The server runs with a listener that no thread accepts connections from. -/
def Abandoned (s : Site) : Prop :=
  s.server.running = true ∧
    ∃ l, s.server.listener = some l ∧ l.number ∈ s.history.forsaken s.outside.fails

/-- The listener is not called just before it is closed by a shutdown. -/
theorem settled_history (s : Site) :
    ∃ past e, s.settled.history = History.push past e ∧ e.ofListener = false := by
  unfold settled waiting
  cases s.server.acceptThread with
  | none => exact ⟨s.history, haltBegin, rfl, rfl⟩
  | some number =>
    by_cases hbegun : number ∈ s.threads.begun
    · simp only [if_pos hbegun]
      exact ⟨s.history.append [haltBegin], joining number, rfl, rfl⟩
    · simp only [if_neg hbegun]
      exact ⟨s.history.append [haltBegin, joining number], loopEnd, rfl, rfl⟩

namespace Tended

/-- A shutdown can wait for a thread unless that was not started. -/
theorem fails_joining (hs : s.Tended) (number : Nat) :
    s.outside.fails (s.history.push haltBegin) (joining number) =
      if number ∈ s.account.unstarted then some .unjoinable else none := by
  have hunstarted : (s.history.push haltBegin).unstarted s.outside.fails = s.account.unstarted :=
    congrArg (List.map Prod.fst) (History.stranded_push rfl s.history)
  rw [← hunstarted]
  exact hs.outside.joins _ _ _

/-- The thread cannot be waited for as it was not started, and the listener stays open. -/
theorem stop_of_abandoned (hs : s.Tended) (P : Interrupts) (habandoned : s.Abandoned) :
    ∃ t, Site.stop P s = .error .unjoinable t ∧ t.Tended ∧ t.server.running = false ∧
      t.history.forsaken t.outside.fails = s.history.forsaken s.outside.fails := by
  obtain ⟨hrun, l, hlistener, hforsaken⟩ := habandoned
  obtain ⟨_, number, _, hthread, _⟩ := hs.sound.running hrun
  have hnumber : number ∈ s.account.unstarted :=
    (hs.sound.unstarted_iff hrun hlistener hthread).2 hforsaken
  have hjoins : s.outside.fails (s.history.push haltBegin) (joining number) =
      some .unjoinable := (hs.fails_joining number).trans (if_pos hnumber)
  have hplain : ∀ e ∈ [haltBegin, joining number], e.Neutral :=
    List.forall_mem_cons.2 ⟨Event.neutral_of_isOwn rfl,
      List.forall_mem_singleton.2 (neutral_joining number)⟩
  have haccount := account_append hplain { s with server := { s.server with running := false } }
  refine ⟨_, stop_calm_unjoined P hs.outside.calm hrun hthread hjoins, ⟨hs.outside, ?_⟩, rfl, ?_⟩
  · rw [haccount]
    exact hs.sound.abandon hrun hlistener hthread hnumber
  · exact congrArg Account.forsaken haccount

/-- The thread is waited for and the listener is closed. -/
theorem stop_of_running (hs : s.Tended) (P : Interrupts) (hrun : s.server.running = true)
    (habandoned : ¬ s.Abandoned) :
    ∃ t, Site.stop P s = .ok () t ∧ t.Tended ∧ t.server.running = false ∧
      t.history.forsaken t.outside.fails = s.history.forsaken s.outside.fails := by
  obtain ⟨l, number, hlistener, hthread, hiff⟩ := hs.sound.running hrun
  have hnumber : number ∉ s.account.unstarted :=
    fun hmem => habandoned ⟨hrun, l, hlistener, hiff.1 hmem⟩
  have hjoins : ∀ m, s.server.acceptThread = some m →
      s.outside.fails (s.history.push haltBegin) (joining m) = none := by
    intro m hm
    obtain rfl := Option.some.inj (hthread.symm.trans hm)
    exact (hs.fails_joining number).trans (if_neg hnumber)
  have hcloses : s.settled.unclosed? l = none := by
    obtain ⟨past, e, hpast, he⟩ := s.settled_history
    unfold unclosed?
    rw [hpast]
    exact hs.outside.closes past _ e he
  have hstop := stop_calm P hs.outside.calm hrun hlistener hjoins
  rw [hcloses] at hstop
  obtain ⟨begun, hsub, hturn, hthreads⟩ := s.settled_threads
  let u : Site := { s with
    server := { s.server with running := false, acceptThread := none, listener := none }
    threads := { s.threads with begun := begun } }
  have haccount : (s.settled.released l).account =
      { u.account with closed := l.number :: s.history.closed } := by
    obtain ⟨hopened, hclosed, hstranded⟩ :=
      History.append_neutral s.outside.fails (neutral_waiting s) s.history
    unfold released
    rw [hcloses]
    show Account.mk u.server s.settled.threads s.listeners
      ((s.history.append (haltBegin :: s.waiting)).opened s.outside.fails)
      (l.number :: (s.history.append (haltBegin :: s.waiting)).closed)
      ((s.history.append (haltBegin :: s.waiting)).stranded s.outside.fails) = _
    rw [hthreads, hopened, hclosed, hstranded]
    rfl
  refine ⟨_, hstop, ⟨?_, ?_⟩, ?_, ?_⟩
  · unfold released
    rw [hcloses]
    exact hs.outside
  · rw [haccount]
    exact hs.sound.stop hrun hlistener hthread hnumber hsub (hturn number hthread)
  · unfold released
    rw [hcloses]
    rfl
  · exact congrArg Account.forsaken haccount

end Tended

/-! ## Starting -/

/-- The account when the next listener cannot be made. -/
theorem account_unmade {f : Failure} (h : s.outside.fails s.history s.creation = some f) :
    (s.opening [s.creation] s.server).account = { s.account with next := s.listeners + 1 } := by
  have hopened : (s.history.push s.creation).opened s.outside.fails =
      s.history.opened s.outside.fails := by
    unfold creation at h ⊢
    rw [History.opened_push_create, h]
    rfl
  show Account.mk s.server s.threads (s.listeners + 1)
    ((s.history.push s.creation).opened s.outside.fails) (s.history.push s.creation).closed
    ((s.history.push s.creation).stranded s.outside.fails) = _
  rw [hopened, History.closed_push rfl, History.stranded_push rfl]
  rfl

/-- The account when the next listener is made. -/
theorem account_made (h : s.outside.fails s.history s.creation = none)
    (hes : ∀ e ∈ es, e.Neutral) (server : Server) :
    (s.opening (s.creation :: es) server).account =
      { s.account with
        server := server
        next := s.listeners + 1
        made := s.listeners :: s.history.opened s.outside.fails } := by
  obtain ⟨hopened, hclosed, hstranded⟩ :=
    History.append_neutral s.outside.fails hes (s.history.push s.creation)
  have hfirst : (s.history.push s.creation).opened s.outside.fails =
      s.listeners :: s.history.opened s.outside.fails := by
    unfold creation at h ⊢
    rw [History.opened_push_create, h]
    rfl
  unfold opening
  rw [History.append_cons]
  show Account.mk server s.threads (s.listeners + 1)
    (((s.history.push s.creation).append es).opened s.outside.fails)
    ((s.history.push s.creation).append es).closed
    (((s.history.push s.creation).append es).stranded s.outside.fails) = _
  rw [hopened, hclosed, hstranded, hfirst, History.closed_push rfl, History.stranded_push rfl]
  rfl

theorem account_close (number : Nat) (s : Site) :
    (s.push (.listener number .close)).account =
      { s.account with closed := number :: s.history.closed } := by
  show Account.mk s.server s.threads s.listeners
    ((s.history.push (.listener number .close)).opened s.outside.fails) _
    ((s.history.push (.listener number .close)).stranded s.outside.fails) = _
  rw [History.opened_push rfl, History.stranded_push rfl]
  rfl

/-- The account when the thread that accepts connections is started. -/
theorem account_accepting (h : s.outside.fails s.history s.acceptStart = none) :
    s.accepting.account =
      { s.account with
        server := { s.server with acceptThread := some s.threads.made }
        threads :=
          { s.threads with made := s.threads.made + 1, started := some s.threads.made } } := by
  show Account.mk _ _ s.listeners ((s.history.push s.acceptStart).opened s.outside.fails)
    (s.history.push s.acceptStart).closed
    ((s.history.push s.acceptStart).stranded s.outside.fails) = _
  rw [History.opened_push rfl, History.closed_push rfl, History.stranded_push_of_started h]
  rfl

/-- The account when the thread that accepts connections cannot be started. -/
theorem account_unstarted {f : Failure}
    (h : s.outside.fails s.history s.acceptStart = some f) :
    (s.prepared.push s.acceptStart).account =
      { s.account with
        server := { s.server with acceptThread := some s.threads.made }
        threads := { s.threads with made := s.threads.made + 1 }
        stranded := (s.threads.made, s.account.made.head?) :: s.account.stranded } := by
  have hstranded : (s.history.push s.acceptStart).stranded s.outside.fails =
      (s.threads.made, (s.history.opened s.outside.fails).head?) ::
        s.history.stranded s.outside.fails :=
    History.stranded_push_of_refused rfl (by rw [h]; rfl)
  show Account.mk _ _ s.listeners ((s.history.push s.acceptStart).opened s.outside.fails)
    (s.history.push s.acceptStart).closed
    ((s.history.push s.acceptStart).stranded s.outside.fails) = _
  rw [History.opened_push rfl, History.closed_push rfl, hstranded]
  rfl

/-- The operating system refuses when a failure comes from a call on a listener. -/
theorem isSystem_of_unfit? (ho : s.outside.Breakable) {f : Failure} (h : s.unfit? = some f) :
    f.isSystem = true := by
  obtain ⟨e, he, past, hrefused⟩ := Outside.refusal?_eq_some h
  obtain ⟨call, _, rfl⟩ := List.mem_map.1 he
  exact ho.refuses past _ call f hrefused

namespace Tended

/-- A server that does not run is bound, or it is left as it is by a refusal. -/
theorem openListener (hs : s.Tended) (P : Interrupts) :
    (s.outside.fails s.history s.creation = none ∧ Site.openListener P s = .ok ()
        (s.opening (s.creation :: (setUp s.listeners s.server.config ++ s.announcement))
          s.bound)) ∨
      ∃ f es, Site.openListener P s = .error f (s.opening (s.creation :: es) s.server) ∧
        f.isSystem = true ∧ (s.opening (s.creation :: es) s.server).Tended := by
  obtain ⟨fault, es, server, hopen, hopens⟩ :=
    openListener_calm P hs.outside.calm hs.outside.logs hs.outside.names
  cases hopens with
  | unmade f hcreation =>
    refine .inr ⟨f, [], hopen, hs.outside.refuses _ _ _ f hcreation, hs.outside, ?_⟩
    rw [account_unmade hcreation]
    exact hs.sound.skip
  | left f hcreation hunfit hf =>
    rw [isSystem_of_unfit? hs.outside hunfit] at hf
    cases hf
  | closed f hcreation hunfit hf =>
    refine .inr ⟨_, s.tried ++ [s.discard], hopen, ?_, hs.outside, ?_⟩
    · cases hclose : s.outside.fails (s.history.append (s.creation :: s.tried)) s.discard with
      | none => exact hf
      | some g => exact hs.outside.refuses _ _ _ g hclose
    · have hmade := account_made hcreation (neutral_tried s) s.server
      have hclosed : (s.opening (s.creation :: s.tried) s.server).history.closed =
          s.history.closed := congrArg Account.closed hmade
      rw [← List.cons_append, ← push_opening, discard, account_close, hmade, hclosed]
      exact hs.sound.discard
  | bound hcreation hunfit => exact .inl ⟨hcreation, hopen⟩

/-- A server that does not run is started, or it is left as it is. -/
theorem launch (hs : s.Tended) (P : Interrupts) (hrun : s.server.running = false) :
    (Run.after (Site.launch P) s).Tended ∧
      ∃ es, (Run.after (Site.launch P) s).history = s.history.append (s.creation :: es) := by
  rcases hs.openListener P with ⟨hcreation, hopen⟩ | ⟨f, es, hopen, hf, ht⟩
  · let es := setUp s.listeners s.server.config ++ s.announcement
    let u := s.opening (s.creation :: es) s.bound
    have hes : ∀ e ∈ es, e.Neutral :=
      List.forall_mem_append.2 ⟨neutral_setUp, neutral_announcement s⟩
    have haccount := account_made hcreation hes s.bound
    have hlaunch := launch_of_ok hrun hopen
    have hhistory : u.history.push u.acceptStart =
        s.history.append (s.creation :: (es ++ [u.acceptStart])) :=
      congrArg Site.history (push_opening s (s.creation :: es) s.bound u.acceptStart)
    cases hstart : u.outside.fails u.history u.acceptStart with
    | none =>
      have hstarted := Run.bind_of_ok (startAccepting_calm P (s := u) hs.outside.calm hstart)
        fun _ => pure true
      rw [Run.after_of_ok (hlaunch.trans hstarted)]
      refine ⟨⟨hs.outside, ?_⟩, _, hhistory⟩
      rw [account_accepting hstart, haccount]
      exact hs.sound.start hrun _
    | some f =>
      have hrefused := Run.bind_of_error
        (startAccepting_calm_refused P (s := u) hs.outside.calm hstart)
        fun _ => (pure true : Run Site Bool)
      rw [Run.after_of_error (hlaunch.trans hrefused)]
      refine ⟨⟨hs.outside, ?_⟩, _, hhistory⟩
      rw [account_unstarted hstart, haccount]
      exact hs.sound.strand hrun _
  · rw [Run.after_of_ok (launch_of_refused hrun hopen hf)]
    refine ⟨ht.push (Event.neutral_of_isOwn rfl), es ++ [startReport s.server.config f], ?_⟩
    rw [push_opening]
    rfl

end Tended

/-! ## Sequences of operations -/

namespace Tended

theorem stop (hs : s.Tended) (P : Interrupts) :
    ∃ fault t, Site.stop P s = Run.ended fault t ∧ t.Tended ∧ t.server.running = false ∧
      t.history.forsaken t.outside.fails = s.history.forsaken s.outside.fails ∧
      (s.Abandoned → fault = some .unjoinable) ∧ (¬ s.Abandoned → fault = none) := by
  by_cases habandoned : s.Abandoned
  · obtain ⟨t, hstop, ht, hrun, hforsaken⟩ := hs.stop_of_abandoned P habandoned
    exact ⟨some .unjoinable, t, hstop, ht, hrun, hforsaken, fun _ => rfl,
      fun h => absurd habandoned h⟩
  · cases hrun : s.server.running with
    | false =>
      exact ⟨none, s, stop_of_not_running P hrun, hs, hrun, rfl, fun h => absurd h habandoned,
        fun _ => rfl⟩
    | true =>
      obtain ⟨t, hstop, ht, hrun', hforsaken⟩ := hs.stop_of_running P hrun habandoned
      exact ⟨none, t, hstop, ht, hrun', hforsaken, fun h => absurd h habandoned, fun _ => rfl⟩

theorem after_stop (hs : s.Tended) (P : Interrupts) : (Run.after (Site.stop P) s).Tended := by
  obtain ⟨fault, t, hstop, ht, _⟩ := hs.stop P
  rw [Run.after_of_ended hstop]
  exact ht

theorem upheld : Upheld Tended where
  settled hs := hs.settled
  push hs he _ := hs.push (Event.neutral_of_isOwn he.own)
  offers hs _ := ⟨⟨hs.outside.calm, hs.outside.logs, hs.outside.names, hs.outside.refuses,
    hs.outside.closes, hs.outside.joins⟩, hs.sound⟩
  turn hs _ := ⟨hs.outside, hs.sound.turn fun _ h => List.mem_cons_of_mem _ h⟩
  stop hs depth := hs.after_stop (perform depth)
  signal hs depth _ := (hs.push (Event.neutral_of_isOwn rfl)).after_stop (perform depth)

theorem apply (hs : s.Tended) {operation : Operation} (h : operation ≠ .serveForever) :
    (operation.apply s).Tended :=
  upheld.apply hs h fun hrun => (hs.launch (perform s.depth) hrun).1

end Tended

/-- The sites that a sequence of starts and shutdowns leads to, with the turns of the threads that
accept connections in between. -/
inductive Cycled (s₀ : Site) : Site → Prop
  | first : Cycled s₀ s₀
  | next {s : Site} (operation : Operation) (h : Cycled s₀ s)
      (hserve : operation ≠ .serveForever) : Cycled s₀ (operation.apply s)

theorem Cycled.tended {s₀ : Site} (h₀ : s₀.Tended) (h : Cycled s₀ s) : s.Tended := by
  induction h with
  | first => exact h₀
  | next operation h hserve ih => exact ih.apply hserve

/-- A server that has just been made. -/
theorem tended_ofServer {config : Config} {load : Loader} {o : Outside} {h : History}
    (ho : o.Breakable) (hh : ∀ e ∈ h.toList, e.isOwn = false) :
    (ofServer (Server.ofConfig config load) o h).Tended where
  outside := ho
  sound := by
    have hhistory : h = History.empty.append h.toList := by
      apply History.eq_append
      rfl
    obtain ⟨hopened, hclosed, hstranded⟩ := History.append_neutral o.fails
      (fun e he => Event.neutral_of_isOwn (hh e he)) History.empty
    rw [← hhistory] at hopened hclosed hstranded
    show Account.Sound ⟨_, _, 0, h.opened o.fails, h.closed, h.stranded o.fails⟩
    rw [hopened, hclosed, hstranded]
    exact Account.sound_new rfl rfl rfl

/-! ## The contract -/

/-- What a shutdown comes to that ends at the site `t`. -/
structure Releases (s : Site) (fault : Option Failure) (t : Site) : Prop where
  running : t.server.running = false
  /-- The server keeps its listener only if that is forsaken. -/
  listener : ∀ l, t.server.listener = some l → l.number ∈ t.history.forsaken t.outside.fails
  /-- Every listener that was made has been closed once, but for the forsaken ones, which have
  not. -/
  closed : ∀ number ∈ t.history.opened t.outside.fails,
    t.history.closed.count number =
      if number ∈ t.history.forsaken t.outside.fails then 0 else 1
  forsaken : t.history.forsaken t.outside.fails = s.history.forsaken s.outside.fails
  /-- A shutdown fails when the server's listener is forsaken, and only then. -/
  fails : s.Abandoned → fault = some .unjoinable
  succeeds : ¬ s.Abandoned → fault = none
  /-- A start after it makes a new listener. -/
  restart : ∃ es, (Run.after Server.start t).history = t.history.append (t.creation :: es)

end Site

namespace Server

open Site

/-- **A shutdown releases every listener that is not forsaken.** -/
theorem shutDown_releases {config : Config} {load : Loader} {o : Outside} {h : History} {s : Site}
    (ho : o.Breakable) (hh : ∀ e ∈ h.toList, e.isOwn = false)
    (hs : Cycled (ofServer (ofConfig config load) o h) s) :
    ∃ fault t, shutDown s = Run.ended fault t ∧ s.Releases fault t := by
  obtain ⟨fault, t, hstop, ht, hrun, hforsaken, hfails, hsucceeds⟩ :=
    (hs.tended (tended_ofServer ho hh)).stop (perform s.depth)
  refine ⟨fault, t, hstop, hrun, ht.sound.left hrun, ?_, hforsaken, hfails, hsucceeds,
    ?_⟩
  swap
  · have heq : Server.start t = Site.launch (perform t.depth) t := rfl
    rw [Run.after_congr heq]
    exact (ht.launch (perform t.depth) hrun).2
  intro number hnumber
  have hcount := ht.sound.tally.count number hnumber
  rw [Account.unclosed_of_not_running hrun] at hcount
  exact hcount

/-- There is no thread to be had. -/
def noThread : Failure := .other "RuntimeError" false "can't start new thread"

/-- The first thread for accepting connections cannot be started. -/
def shortOfThreads : Outside :=
  { Outside.quiet with
    fails := fun past e => match e with
      | .startThread (.accepting 0) _ => some noThread
      | .joinThread 0 _ =>
        if 0 ∈ past.newestFirst.filterMap Event.accepting? then some .unjoinable else none
      | _ => none }

theorem mem_unstarted_shortOfThreads (past : History) (number : Nat) :
    number ∈ past.unstarted shortOfThreads.fails ↔
      number = 0 ∧ 0 ∈ past.newestFirst.filterMap Event.accepting? := by
  obtain ⟨events⟩ := past
  induction events with
  | nil => simp [History.unstarted, History.stranded, History.strandedIn]
  | cons e events ih =>
    cases e with
    | startThread purpose name =>
      cases purpose with
      | serving connection => exact ih
      | accepting n =>
        cases n with
        | zero =>
          show number ∈ 0 :: History.unstarted shortOfThreads.fails ⟨events⟩ ↔ _ ∧ 0 ∈ 0 :: _
          rw [List.mem_cons, ih]
          constructor
          · rintro (rfl | ⟨rfl, _⟩)
            all_goals exact ⟨rfl, List.mem_cons_self⟩
          · rintro ⟨rfl, _⟩
            exact .inl rfl
        | succ n =>
          show number ∈ History.unstarted shortOfThreads.fails ⟨events⟩ ↔ _ ∧ 0 ∈ (n + 1) :: _
          rw [ih, List.mem_cons]
          simp
    | _ => exact ih

theorem shortOfThreads_breakable : shortOfThreads.Breakable where
  calm _ _ _ := rfl
  logs _ _ := rfl
  names := by simp [Outside.Names, shortOfThreads, Outside.quiet, Outside.standardName]
  refuses _ _ _ _ h := by cases h
  closes _ _ _ _ := rfl
  joins past number name := by
    simp only [mem_unstarted_shortOfThreads]
    cases number with
    | zero => simp [shortOfThreads]
    | succ n => simp [shortOfThreads]

/-- A server that is started and shut down, twice: for the first start there is no thread. -/
theorem shutDown_releases_shortOfThreads :
    shortOfThreads.Breakable ∧
      ∃ fault t, shutDown (Operation.start.apply (Operation.shutDown.apply
          (Operation.start.apply (fresh shortOfThreads)))) = Run.ended fault t ∧
        (Operation.start.apply (Operation.shutDown.apply
          (Operation.start.apply (fresh shortOfThreads)))).Releases fault t :=
  ⟨shortOfThreads_breakable, shutDown_releases shortOfThreads_breakable (by simp)
    (.next .start (.next .shutDown (.next .start .first (by simp)) (by simp)) (by simp))⟩

/-- When the thread that accepts connections cannot be started, a shutdown fails and leaves the
listener open, and the next one does nothing. -/
theorem shutDown_leaks : ∃ s t, start (fresh shortOfThreads) = .error noThread s ∧
    s.server.running = true ∧ shutDown s = .error .unjoinable t ∧ t.server.running = false ∧
    t.server.listener.isSome = true ∧ t.history.opened t.outside.fails = [0] ∧
    t.history.closed = [] ∧ shutDown t = .ok () t :=
  ⟨_, _, rfl, rfl, rfl, rfl, rfl, rfl, rfl, rfl⟩

end Server

end StaticHttp
