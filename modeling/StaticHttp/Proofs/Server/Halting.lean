import StaticHttp.Proofs.Server.Passage

/-!
# Shutting a server down

Around a server that does not run nothing more comes of an interruption than a few entries in the
log, and so a shutdown that has begun is carried out whatever comes in between: it waits for the
thread that accepts connections and closes the listener, each once.

    s.server.running = true → ∃ es t, stop (perform depth) s = .ok () t ∧ Passage s true es t
                                                                               (stop_passage)
-/

namespace StaticHttp

/-- Nothing refuses to wait for a thread or to close a listener. -/
structure Outside.LetsStop (o : Outside) : Prop where
  join : ∀ past number name, o.fails past (.joinThread number name) = none
  close : ∀ past number, o.fails past (.listener number .close) = none

namespace Site

/-! ## Calls -/

@[simp] theorem happen_apply (e : Event) (s : Site) : happen e s = .ok () (s.push e) := rfl

section

variable {P : Interrupts} {e : Event} {s t : Site}

theorem call_of_ok
    (h : interrupted P (s.outside.interrupts s.history e) (s.push e) = .ok () t) :
    call P e s = Run.ended (t.outside.fails s.history e) t := by
  unfold call
  rw [Run.get_bind]
  refine (Run.bind_of_ok (happen_apply e s) _).trans ?_
  rw [Run.get_bind]
  refine (Run.bind_of_ok h _).trans ?_
  rw [Run.get_bind]
  cases t.outside.fails s.history e <;> rfl

theorem call_of_error {f : Failure}
    (h : interrupted P (s.outside.interrupts s.history e) (s.push e) = .error f t) :
    call P e s = .error f t := by
  unfold call
  rw [Run.get_bind]
  refine (Run.bind_of_ok (happen_apply e s) _).trans ?_
  rw [Run.get_bind]
  exact Run.bind_of_error h _

/-- What a call comes to, from what comes of the interruption. -/
theorem call_eq (h : interrupted P (s.outside.interrupts s.history e) (s.push e) = .ok () t)
    (ht : t.outside = s.outside) :
    call P e s = Run.ended (s.outside.fails s.history e) t := by
  rw [call_of_ok h, ht]

end

/-! ## Signals -/

/-- The entry that is logged when a signal has come that is watched for. -/
def received (number : Int) : Event :=
  .log ⟨programSource, Log.info, "Received signal " ++ Text.ofInt number ++ ", shutting down..."⟩

/-- The event tells that a signal has come. -/
def Tells (e : Event) : Prop := ∃ number, e = received number

theorem not_tells_log {source : Text} (h : source ≠ programSource) (level : Int) (message : Text) :
    ¬ Tells (.log ⟨source, level, message⟩) := by
  rintro ⟨number, hlog⟩
  injection hlog with hentry
  injection hentry with hsource
  exact h hsource

theorem not_tells_of_isDeed {e : Event} (he : e.isDeed = true) : ¬ Tells e := by
  rintro ⟨number, rfl⟩
  have hno : (received number).isDeed = false := rfl
  cases hno.symm.trans he

/-! ## A server that does not run -/

/-- The entry that is logged when the accept loop has come to its end. -/
def loopEnd : Event := .log ⟨Server.source, Log.debug, "Accept loop stopped"⟩

/-- The loop of a server that is bound. -/
theorem serve_of_listener (P : Interrupts) {s : Site}
    (hlistener : s.server.listener.isSome = true) :
    serve P s = (rounds P (s.outside.offers.length + 1) >>= fun _ => happen loopEnd) s := by
  have hnone : s.server.listener.isNone = false := by
    rw [← Option.not_isSome, hlistener]
    rfl
  unfold serve
  rw [Run.get_bind, hnone]
  rfl

theorem serve_of_not_running (P : Interrupts) {s : Site} (hrun : s.server.running = false)
    (hlistener : s.server.listener.isSome = true) : serve P s = .ok () (s.push loopEnd) := by
  rw [serve_of_listener P hlistener, Run.bind_of_ok (rounds_of_not_running P hrun _)]
  rfl

/-- The turn of a thread for a server that does not run any more. -/
theorem runAcceptThread_of_stopped (P : Interrupts) {number : Nat} {s : Site}
    (hrun : s.server.running = false) (hlistener : s.server.listener.isSome = true)
    (hbegun : number ∉ s.threads.begun) :
    runAcceptThread P number s = .ok ()
      { s.push loopEnd with
        threads := { s.threads with begun := number :: s.threads.begun } } := by
  let s₁ : Site := { s with threads := { s.threads with begun := number :: s.threads.begun } }
  have hserve : serve P s₁ = .ok () (s₁.push loopEnd) := serve_of_not_running P hrun hlistener
  unfold runAcceptThread
  rw [Run.get_bind, if_neg hbegun, Run.modify_bind, asThread,
    Run.bind_of_ok (Run.attempt_ok hserve)]
  rfl

/-- The turn of a thread that accepts connections for a server that does not run. -/
theorem runAcceptThread_of_not_running (P : Interrupts) (number : Nat) {s : Site}
    (hrun : s.server.running = false)
    (hnumber : number ∈ s.threads.begun ∨ s.server.listener.isSome = true) :
    ∃ es t, runAcceptThread P number s = .ok () t ∧ Passage s false es t ∧ deeds es = [] ∧
      (∀ e ∈ es, ¬ Tells e) ∧ number ∈ t.threads.begun := by
  by_cases hbegun : number ∈ s.threads.begun
  · exact ⟨[], s, runAcceptThread_of_begun P hbegun, .refl s, rfl, by simp, hbegun⟩
  have hturn := runAcceptThread_of_stopped P hrun (hnumber.resolve_left hbegun) hbegun
  refine ⟨[loopEnd], _, hturn, ?_, deeds_log_of_lt (by decide) _ _, ?_, List.mem_cons_self⟩
  · exact ⟨⟨rfl, rfl, rfl, rfl, rfl, fun _ h => List.mem_cons_of_mem _ h⟩, rfl, by simp, by simp,
      rfl⟩
  · intro e he
    rw [List.mem_singleton.1 he]
    exact not_tells_log (by decide) _ _

/-- Nothing comes of an interruption when the server does not run. -/
theorem perform_of_not_running (depth : Nat) (i : Interruption) {s : Site}
    (hrun : s.server.running = false) (hsettled : i = .acceptThread → s.Settled) :
    ∃ es t, perform depth i s = .ok () t ∧ Passage s false es t ∧ deeds es = [] ∧
      ((∀ number, i ≠ .signal number) → ∀ e ∈ es, ¬ Tells e) := by
  cases depth with
  | zero => exact ⟨[], s, rfl, .refl s, rfl, by simp⟩
  | succ depth =>
    cases i with
    | shutDown => exact ⟨[], s, stop_of_not_running _ hrun, .refl s, rfl, by simp⟩
    | acceptThread =>
      unfold perform
      rw [Run.get_bind]
      cases hstarted : s.threads.started with
      | none => exact ⟨[], s, rfl, .refl s, rfl, by simp⟩
      | some number =>
        obtain ⟨es, t, hturn, hp, hes, htells, _⟩ :=
          runAcceptThread_of_not_running (perform depth) number hrun (hsettled rfl number hstarted)
        exact ⟨es, t, hturn, hp, hes, fun _ => htells⟩
    | signal number =>
      unfold perform
      rw [Run.get_bind]
      by_cases hw : s.history.watches number = true
      · rw [if_pos hw]
        refine ⟨[received number], s.push (received number), ?_, .push s rfl,
          deeds_log_of_lt (by decide) _ _, fun h => absurd rfl (h number)⟩
        exact stop_of_not_running (perform depth) (s := s.push (received number)) hrun
      · rw [if_neg hw]
        exact ⟨[], s, rfl, .refl s, rfl, by simp⟩

theorem interrupted_of_not_running (depth : Nat) (i : Option Interruption) {s : Site}
    (hrun : s.server.running = false) (hsettled : i = some .acceptThread → s.Settled) :
    ∃ es t, interrupted (perform depth) i s = .ok () t ∧ Passage s false es t ∧ deeds es = [] ∧
      ((∀ number, i ≠ some (.signal number)) → ∀ e ∈ es, ¬ Tells e) := by
  cases i with
  | none => exact ⟨[], s, rfl, .refl s, rfl, by simp⟩
  | some i =>
    obtain ⟨es, t, hperform, hp, hes, htells⟩ := perform_of_not_running depth i hrun
      fun hi => hsettled (by rw [hi])
    refine ⟨es, t, hperform, hp, hes, fun h => htells ?_⟩
    intro number hi
    exact h number (by rw [hi])

/-! ## The shutdown -/

/-- The entries that are logged at the beginning and at the end of a shutdown. -/
def haltBegin : Event := .log ⟨Server.source, Log.info, "Shutting down server..."⟩

def haltEnd : Event := .log ⟨Server.source, Log.info, "Server shutdown complete"⟩

/-- What is left of a shutdown when the thread that accepts connections has been waited for. -/
def release (P : Interrupts) : Run Site Unit := do
  update fun s => { s with acceptThread := none }
  match (← get).server.listener with
  | none => pure ()
  | some l => do
    call P (.listener l.number .close)
    update fun s => { s with listener := none }
  note Log.info "Server shutdown complete"

theorem stop_of_running (P : Interrupts) {s : Site} (hrun : s.server.running = true) :
    stop P s =
      (match s.server.acceptThread with
        | none => release P
        | some number => join P number >>= fun _ => release P)
      { s.push haltBegin with server := { s.server with running := false } } := by
  unfold stop
  rw [Run.get_bind, if_pos hrun]
  obtain ⟨⟨config, handler, running, listener, acceptThread⟩, outside, history, listeners,
    threads⟩ := s
  cases acceptThread with
  | none => rfl
  | some number => rfl

section

variable {s : Site} {l : Listener}

theorem release_of_listener (P : Interrupts) (hlistener : s.server.listener = some l) :
    release P s =
      (call P (.listener l.number .close) >>= fun _ =>
        update (fun s => { s with listener := none }) >>= fun _ =>
        note Log.info "Server shutdown complete")
      { s with server := { s.server with acceptThread := none } } := by
  obtain ⟨⟨config, handler, running, listener, acceptThread⟩, outside, history, listeners,
    threads⟩ := s
  cases hlistener
  rfl

/-- The listener is closed, and nothing comes of what comes in between. -/
theorem release_eq (depth : Nat) (hrun : s.server.running = false)
    (hlistener : s.server.listener = some l) (ho : s.outside.LetsStop) :
    ∃ es t, release (perform depth) s = .ok () t ∧ Moves s es t ∧
      t.server = { s.server with acceptThread := none, listener := none } ∧ deeds es = [] ∧
      es.filter Event.ofListener = [.listener l.number .close] := by
  let s₁ : Site := { s with server := { s.server with acceptThread := none } }
  let closing : Event := .listener l.number .close
  have hsettled : (s₁.push closing).Settled := by
    intro number _
    right
    show s.server.listener.isSome = true
    rw [hlistener]
    rfl
  obtain ⟨es, t, hi, hp, hes, _⟩ := interrupted_of_not_running depth
    (s₁.outside.interrupts s₁.history closing) (s := s₁.push closing) hrun fun _ => hsettled
  have hcall : call (perform depth) closing s₁ = .ok () t := by
    rw [call_eq hi hp.outside, ho.close, Run.ended_none]
  let u : Site := { t with server := { t.server with listener := none } }.push haltEnd
  refine ⟨[closing] ++ es ++ [haltEnd], u, ?_, ?_, ?_, ?_, ?_⟩
  · rw [release_of_listener _ hlistener, Run.bind_of_ok hcall]
    rfl
  · have hfirst : Moves s [closing] (s₁.push closing) := .append s [closing] _
    exact (hfirst.trans hp.toMoves).trans (.append t [haltEnd] _)
  · show { t.server with listener := none } = _
    rw [hp.server_eq]
    rfl
  · rw [deeds_append, deeds_append, hes, haltEnd, deeds_log_of_lt (by decide)]
    rfl
  · rw [List.filter_append, List.filter_append, hp.closing]
    rfl

/-- The thread that accepts connections is waited for, and the listener is closed. -/
theorem join_release_eq (depth number : Nat) (hrun : s.server.running = false)
    (hlistener : s.server.listener = some l) (ho : s.outside.LetsStop) :
    ∃ es t, (join (perform depth) number >>= fun _ => release (perform depth)) s = .ok () t ∧
      Moves s es t ∧ t.server = { s.server with acceptThread := none, listener := none } ∧
      number ∈ t.threads.begun ∧ deeds es = [] ∧
      es.filter Event.ofListener = [.listener l.number .close] := by
  let joining : Event := .joinThread number acceptThreadName
  have hsome : s.server.listener.isSome = true := by rw [hlistener]; rfl
  obtain ⟨es₁, t₁, hi, hp₁, hes₁, _⟩ := interrupted_of_not_running depth
    (s.outside.interrupts s.history joining) (s := s.push joining) hrun
    fun _ number _ => .inr hsome
  have hcall : call (perform depth) joining s = .ok () t₁ := by
    rw [call_eq hi hp₁.outside, ho.join, Run.ended_none]
  have hserver₁ : t₁.server = s.server := hp₁.server_eq
  obtain ⟨es₂, t₂, hturn, hp₂, hes₂, _, hbegun⟩ :=
    runAcceptThread_of_not_running (perform depth) number (s := t₁)
      (by rw [hserver₁, hrun]) (.inr (by rw [hserver₁, hsome]))
  have hserver₂ : t₂.server = s.server := hp₂.server_eq.trans hserver₁
  have houtside₂ : t₂.outside = s.outside := hp₂.outside.trans hp₁.outside
  obtain ⟨es₃, t, hrelease, hm, hserver, hes₃, hclosing⟩ := release_eq depth (s := t₂) (l := l)
    (by rw [hserver₂, hrun]) (by rw [hserver₂, hlistener]) (by rw [houtside₂]; exact ho)
  refine ⟨[joining] ++ es₁ ++ es₂ ++ es₃, t, ?_, ?_, ?_, hm.begun hbegun, ?_, ?_⟩
  · have hjoin : join (perform depth) number s = .ok () t₂ := by
      rw [join, Run.bind_of_ok hcall, hturn]
    rw [Run.bind_of_ok hjoin, hrelease]
  · have hfirst : Moves s [joining] (s.push joining) := .append s [joining] _
    exact ((hfirst.trans hp₁.toMoves).trans hp₂.toMoves).trans hm
  · rw [hserver, hserver₂]
  · rw [deeds_append, deeds_append, deeds_append, hes₁, hes₂, hes₃]
    rfl
  · rw [List.filter_append, List.filter_append, List.filter_append, hp₁.closing, hp₂.closing,
      hclosing]
    rfl

/-- **A shutdown that has begun is carried out.** -/
theorem stop_passage (depth : Nat) (hrun : s.server.running = true)
    (hlistener : s.server.listener.isSome = true) (ho : s.outside.LetsStop) :
    ∃ es t, stop (perform depth) s = .ok () t ∧ Passage s true es t ∧ deeds es = [] := by
  obtain ⟨l, hl⟩ := Option.isSome_iff_exists.1 hlistener
  have hclosing : s.server.closing = [.listener l.number .close] := by rw [Server.closing, hl]; rfl
  have hbegin : deeds [haltBegin] = [] := deeds_log_of_lt (by decide) _ _
  let s₁ : Site := { s.push haltBegin with server := { s.server with running := false } }
  have hfirst : Moves s [haltBegin] s₁ := .append s [haltBegin] _
  rw [stop_of_running _ hrun]
  cases hthread : s.server.acceptThread with
  | none =>
    obtain ⟨es, t, hrelease, hm, hserver, hes, hlisteners⟩ :=
      release_eq depth (s := s₁) rfl hl ho
    refine ⟨[haltBegin] ++ es, t, hrelease, ⟨hfirst.trans hm, hserver, fun _ => hrun, ?_, ?_⟩, ?_⟩
    · intro _ number hnumber
      cases hnumber.symm.trans hthread
    · rw [List.filter_append, hlisteners, if_pos rfl, hclosing]
      rfl
    · rw [deeds_append, hes, hbegin]
      rfl
  | some number =>
    obtain ⟨es, t, hrelease, hm, hserver, hbegun, hes, hlisteners⟩ :=
      join_release_eq depth number (s := s₁) rfl hl ho
    refine ⟨[haltBegin] ++ es, t, hrelease, ⟨hfirst.trans hm, hserver, fun _ => hrun, ?_, ?_⟩, ?_⟩
    · intro _ number' hnumber'
      obtain rfl := Option.some.inj (hnumber'.symm.trans hthread)
      exact hbegun
    · rw [List.filter_append, hlisteners, if_pos rfl, hclosing]
      rfl
    · rw [deeds_append, hes, hbegin]
      rfl

end

end Site

end StaticHttp
