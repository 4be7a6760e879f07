import StaticHttp.Proofs.Server.LifeCycle

/-!
# With nothing in between

When nothing comes in between of the calls by which a server is bound, started and shut down, what
these operations come to can be written down from what the outside answers to one call after the
other.  Whatever comes in between of anything else does not matter to them.

    calls.forM (call P) s = Run.ended (refusal? calls) ...                                (calls_calm)
    openListener P s = Run.ended fault (s.opening events server)                   (openListener_calm)
    stop P s = Run.ended (s.settled.unclosed? l) (s.settled.released l)                    (stop_calm)
-/

namespace StaticHttp

namespace Outside

/-- Nothing comes in between of the calls by which a server is bound, started or shut down. -/
def Calm (o : Outside) : Prop := ∀ past e, e.isOwn = true → o.interrupts past e = none

/-- The first refusal of some calls that are made one after the other. -/
def refusal? (o : Outside) : History → List Event → Option Failure
  | _, [] => none
  | past, e :: calls =>
    match o.fails past e with
    | some f => some f
    | none => o.refusal? (past.push e) calls

/-- The calls up to the first that is refused. -/
def tried (o : Outside) : History → List Event → List Event
  | _, [] => []
  | past, e :: calls =>
    match o.fails past e with
    | some _ => [e]
    | none => e :: o.tried (past.push e) calls

section

variable {o : Outside} {past : History} {e : Event} {f : Failure} {calls : List Event}

theorem refusal?_of_refused (h : o.fails past e = some f) :
    o.refusal? past (e :: calls) = some f := by
  rw [refusal?, h]

theorem refusal?_of_made (h : o.fails past e = none) :
    o.refusal? past (e :: calls) = o.refusal? (past.push e) calls := by
  rw [refusal?, h]

theorem tried_of_refused (h : o.fails past e = some f) : o.tried past (e :: calls) = [e] := by
  rw [tried, h]

theorem tried_of_made (h : o.fails past e = none) :
    o.tried past (e :: calls) = e :: o.tried (past.push e) calls := by
  rw [tried, h]

/-- Calls are tried in their order. -/
theorem tried_prefix (o : Outside) (past : History) (calls : List Event) :
    o.tried past calls <+: calls := by
  induction calls generalizing past with
  | nil => exact List.prefix_rfl
  | cons e calls ih =>
    cases h : o.fails past e with
    | some f =>
      rw [tried_of_refused h]
      exact ⟨calls, rfl⟩
    | none =>
      rw [tried_of_made h]
      exact List.cons_prefix_cons.2 ⟨rfl, ih _⟩

/-- All calls are tried when none is refused. -/
theorem tried_of_not_refused (h : o.refusal? past calls = none) : o.tried past calls = calls := by
  induction calls generalizing past with
  | nil => rfl
  | cons e calls ih =>
    cases hf : o.fails past e with
    | some f => cases (refusal?_of_refused hf).symm.trans h
    | none =>
      rw [tried_of_made hf]
      rw [refusal?_of_made hf] at h
      rw [ih h]

/-- The first refusal is the refusal of one of the calls. -/
theorem refusal?_eq_some (h : o.refusal? past calls = some f) :
    ∃ e ∈ calls, ∃ past', o.fails past' e = some f := by
  induction calls generalizing past with
  | nil => cases h
  | cons e calls ih =>
    cases hf : o.fails past e with
    | some g =>
      rw [refusal?_of_refused hf] at h
      cases h
      exact ⟨e, List.mem_cons_self, past, hf⟩
    | none =>
      rw [refusal?_of_made hf] at h
      obtain ⟨e', he', hrefused⟩ := ih h
      exact ⟨e', List.mem_cons_of_mem e he', hrefused⟩

end

end Outside

namespace Site

variable {P : Interrupts} {s t u v : Site} {e : Event} {f : Failure}

/-! ## Calls -/

theorem call_calm (ho : s.outside.Calm) (he : e.isOwn = true) :
    call P e s = Run.ended (s.outside.fails s.history e) (s.push e) := by
  apply call_eq
  · rw [ho _ _ he]
    rfl
  · rfl

/-- Calls are made one after the other until one of them is refused. -/
theorem calls_calm (calls : List Event) (hcalls : ∀ e ∈ calls, e.isOwn = true)
    (ho : s.outside.Calm) :
    calls.forM (call P) s = Run.ended (s.outside.refusal? s.history calls)
      { s with history := s.history.append (s.outside.tried s.history calls) } := by
  induction calls generalizing s with
  | nil => rfl
  | cons e calls ih =>
    have hforM : (e :: calls).forM (call P) s =
        (call P e >>= fun _ => calls.forM (call P)) s := rfl
    have hcall := call_calm (P := P) ho (hcalls e List.mem_cons_self)
    cases hf : s.outside.fails s.history e with
    | some f =>
      rw [hf] at hcall
      rw [hforM, Run.bind_of_error hcall, Outside.refusal?_of_refused hf,
        Outside.tried_of_refused hf]
      rfl
    | none =>
      rw [hf] at hcall
      have hrest : calls.forM (call P) (s.push e) = _ :=
        ih (fun e' he' => hcalls e' (List.mem_cons_of_mem e he')) ho
      rw [hforM, Run.bind_of_ok hcall, hrest, Outside.refusal?_of_made hf,
        Outside.tried_of_made hf, History.append_cons]
      rfl

/-! ## Binding -/

theorem mem_setUp_isOwn {number : Nat} {c : Config} (he : e ∈ setUp number c) :
    e.isOwn = true := by
  obtain ⟨call, _, rfl⟩ := List.mem_map.1 he
  rfl

/-- The failure to set up the next listener, if there is one. -/
def unfit? (s : Site) : Option Failure :=
  s.outside.refusal? (s.history.push s.creation) (setUp s.listeners s.server.config)

/-- The calls that are made on the next listener to set it up. -/
def tried (s : Site) : List Event :=
  s.outside.tried (s.history.push s.creation) (setUp s.listeners s.server.config)

/-- The closing of the next listener when it cannot be set up. -/
def discard (s : Site) : Event := .listener s.listeners .close

/-- What is logged when the server is bound. -/
def announcement (s : Site) : List Event :=
  announcing (s.outside.boundName s.server.config.host s.server.config.port)
    s.server.config.documentRoot

/-- The site after the events by which its server is bound. -/
def opening (s : Site) (es : List Event) (server : Server) : Site :=
  { s.numbered with history := s.history.append es, server := server }

theorem push_opening (s : Site) (es : List Event) (server : Server) (e : Event) :
    (s.opening es server).push e = s.opening (es ++ [e]) server := by
  unfold opening
  rw [← History.append_append]
  rfl

/-- What comes of binding a server with nothing in between: the failure, the events, and the server
after it. -/
inductive OpensCalmly (s : Site) : Option Failure → List Event → Server → Prop
  /-- The listener cannot be made. -/
  | unmade (f : Failure) (creation : s.outside.fails s.history s.creation = some f) :
      OpensCalmly s (some f) [s.creation] s.server
  /-- The listener cannot be set up, and it is left as the operating system has no part in it. -/
  | left (f : Failure) (creation : s.outside.fails s.history s.creation = none)
      (unfit : s.unfit? = some f) (notSystem : f.isSystem = false) :
      OpensCalmly s (some f) (s.creation :: s.tried) s.server
  /-- The operating system refuses to set up the listener; it is closed, which can fail in turn. -/
  | closed (f : Failure) (creation : s.outside.fails s.history s.creation = none)
      (unfit : s.unfit? = some f) (system : f.isSystem = true) :
      OpensCalmly s
        (some ((s.outside.fails (s.history.append (s.creation :: s.tried)) s.discard).getD f))
        (s.creation :: s.tried ++ [s.discard]) s.server
  /-- The server is bound. -/
  | bound (creation : s.outside.fails s.history s.creation = none) (unfit : s.unfit? = none) :
      OpensCalmly s none
        (s.creation :: setUp s.listeners s.server.config ++ s.announcement) s.bound

theorem create_calm (ho : s.outside.Calm) (h : s.outside.fails s.history s.creation = none) :
    call P s.creation s.numbered = .ok () (s.opening [s.creation] s.server) := by
  have hcall := call_calm (P := P) (s := s.numbered) (e := s.creation) ho rfl
  rw [show s.numbered.outside.fails s.numbered.history s.creation = none from h] at hcall
  exact hcall

theorem listen_calm (ho : s.outside.Calm) :
    listen P s.listeners (s.opening [s.creation] s.server) =
      Run.ended s.unfit? (s.opening (s.creation :: s.tried) s.server) := by
  have hcalls := calls_calm (P := P) (s := s.opening [s.creation] s.server)
    (setUp s.listeners s.server.config) (fun e he => mem_setUp_isOwn he) ho
  rw [listen_eq]
  refine hcalls.trans ?_
  show Run.ended s.unfit? { s.numbered with
    history := (s.history.append [s.creation]).append s.tried, server := s.server } = _
  rw [History.append_append]
  rfl

/-- A listener that the operating system refuses to set up is closed. -/
theorem openListener_of_unfit (P : Interrupts) {fault : Option Failure}
    (hcreate : call P s.creation s.numbered = .ok () t)
    (hlisten : listen P s.listeners t = .error f u) (hf : f.isSystem = true)
    (hclose : call P s.discard u = Run.ended fault v) :
    openListener P s = .error (fault.getD f) v := by
  cases fault with
  | none => exact openListener_of_closed P hcreate hlisten hf hclose
  | some g =>
    unfold openListener
    rw [Run.get_bind, Run.get_bind, Run.modify_bind]
    refine (Run.bind_of_ok hcreate _).trans ?_
    rw [Run.bind_of_ok (Run.attempt_error hlisten)]
    simp only [hf, if_true]
    exact Run.bind_of_error hclose _

/-- The listener is left when it cannot be set up for another reason than the system's. -/
theorem openListener_calm_left (P : Interrupts) (ho : s.outside.Calm)
    (hcreate : s.outside.fails s.history s.creation = none) (hunfit : s.unfit? = some f)
    (hf : f.isSystem = false) :
    openListener P s = .error f (s.opening (s.creation :: s.tried) s.server) := by
  have hlisten := listen_calm (P := P) ho
  rw [hunfit] at hlisten
  exact openListener_of_left P (create_calm ho hcreate) hlisten hf

/-- The listener is closed when the operating system refuses to set it up. -/
theorem openListener_calm_closed (P : Interrupts) (ho : s.outside.Calm)
    (hcreate : s.outside.fails s.history s.creation = none) (hunfit : s.unfit? = some f)
    (hf : f.isSystem = true) :
    openListener P s =
      .error ((s.outside.fails (s.history.append (s.creation :: s.tried)) s.discard).getD f)
        (s.opening (s.creation :: s.tried ++ [s.discard]) s.server) := by
  have hlisten := listen_calm (P := P) ho
  rw [hunfit] at hlisten
  have hclose := call_calm (P := P) (s := s.opening (s.creation :: s.tried) s.server)
    (e := s.discard) ho rfl
  rw [push_opening] at hclose
  exact openListener_of_unfit P (create_calm ho hcreate) hlisten hf hclose

/-- **Binding a server with nothing in between.** -/
theorem openListener_calm (P : Interrupts) (ho : s.outside.Calm) (hlogs : s.outside.LetsLog)
    (hnames : s.outside.Names) :
    ∃ fault es server, openListener P s = Run.ended fault (s.opening es server) ∧
      OpensCalmly s fault es server := by
  cases hcreate : s.outside.fails s.history s.creation with
  | some f =>
    have hcall := call_calm (P := P) (s := s.numbered) (e := s.creation) ho rfl
    rw [show s.numbered.outside.fails s.numbered.history s.creation = some f from hcreate] at hcall
    exact ⟨some f, [s.creation], s.server, openListener_of_refused P hcall, .unmade f hcreate⟩
  | none =>
    cases hunfit : s.unfit? with
    | some f =>
      cases hf : f.isSystem with
      | false =>
        exact ⟨some f, s.creation :: s.tried, s.server,
          openListener_calm_left P ho hcreate hunfit hf, .left f hcreate hunfit hf⟩
      | true =>
        exact ⟨some _, s.creation :: s.tried ++ [s.discard], s.server,
          openListener_calm_closed P ho hcreate hunfit hf, .closed f hcreate hunfit hf⟩
    | none =>
      have hlisten := listen_calm (P := P) ho
      have htried : s.tried = setUp s.listeners s.server.config :=
        Outside.tried_of_not_refused hunfit
      rw [hunfit, htried] at hlisten
      let u : Site := s.opening (s.creation :: setUp s.listeners s.server.config) s.bound
      have hannounce := announce_of_letsLog (P := P) (s := u)
        (hnames s.server.config.host s.server.config.port) s.server.config.documentRoot hlogs
      have hopen := (openListener_of_ok P (create_calm ho hcreate) hlisten rfl rfl).trans hannounce
      refine ⟨none, _, _, hopen.trans ?_, .bound hcreate hunfit⟩
      show Run.ended none { s.numbered with
        history := (s.history.append (s.creation :: setUp s.listeners s.server.config)).append
          s.announcement
        server := s.bound } = _
      rw [History.append_append]
      rfl

/-! ## Starting the thread that accepts connections -/

/-- The site after the next thread for accepting connections has been started. -/
def accepting (s : Site) : Site :=
  { s.prepared.push s.acceptStart with
    threads := { s.threads with made := s.threads.made + 1, started := some s.threads.made } }

theorem startAccepting_calm_refused (P : Interrupts) (ho : s.outside.Calm)
    (h : s.outside.fails s.history s.acceptStart = some f) :
    startAccepting P s = .error f (s.prepared.push s.acceptStart) := by
  have hcall := call_calm (P := P) (s := s.prepared) (e := s.acceptStart) ho rfl
  rw [show s.prepared.outside.fails s.prepared.history s.acceptStart = some f from h] at hcall
  rw [startAccepting_eq]
  exact Run.bind_of_error hcall _

theorem startAccepting_calm (P : Interrupts) (ho : s.outside.Calm)
    (h : s.outside.fails s.history s.acceptStart = none) :
    startAccepting P s = .ok () s.accepting := by
  have hcall := call_calm (P := P) (s := s.prepared) (e := s.acceptStart) ho rfl
  rw [show s.prepared.outside.fails s.prepared.history s.acceptStart = none from h] at hcall
  rw [startAccepting_eq]
  exact Run.bind_of_ok hcall _

/-! ## Shutting down -/

/-- The wait for a thread that accepts connections. -/
def joining (number : Nat) : Event := .joinThread number acceptThreadName

/-- What happens while a shutdown waits for the thread that accepts connections. -/
def waiting (s : Site) : List Event :=
  match s.server.acceptThread with
  | none => []
  | some number => if number ∈ s.threads.begun then [joining number] else [joining number, loopEnd]

/-- The site when the thread that accepts connections has been waited for, which has had its turn by
then. -/
def settled (s : Site) : Site :=
  { s with
    server := { s.server with running := false }
    history := s.history.append (haltBegin :: s.waiting)
    threads :=
      match s.server.acceptThread with
      | none => s.threads
      | some number =>
        if number ∈ s.threads.begun then s.threads
        else { s.threads with begun := number :: s.threads.begun } }

/-- The failure to close the server's listener, which is the last call of a shutdown. -/
def unclosed? (s : Site) (l : Listener) : Option Failure :=
  s.outside.fails s.history (.listener l.number .close)

/-- The site after the last call of a shutdown. -/
def released (s : Site) (l : Listener) : Site :=
  match s.unclosed? l with
  | some _ =>
    { s.push (.listener l.number .close) with
      server := { s.server with acceptThread := none } }
  | none =>
    { (s.push (.listener l.number .close)).push haltEnd with
      server := { s.server with acceptThread := none, listener := none } }

/-- The wait for the thread that accepts connections is refused. -/
theorem stop_calm_unjoined (P : Interrupts) {number : Nat} (ho : s.outside.Calm)
    (hrun : s.server.running = true) (hthread : s.server.acceptThread = some number)
    (h : s.outside.fails (s.history.push haltBegin) (joining number) = some f) :
    stop P s = .error f { s with
      server := { s.server with running := false }
      history := s.history.append [haltBegin, joining number] } := by
  let s₁ : Site := { s.push haltBegin with server := { s.server with running := false } }
  have hcall : call P (joining number) s₁ = .error f (s₁.push (joining number)) := by
    rw [call_calm (s := s₁) ho rfl, show s₁.outside.fails s₁.history _ = some f from h]
    rfl
  rw [stop_of_running P hrun, hthread]
  exact Run.bind_of_error (Run.bind_of_error hcall _) _

/-- The turn of a thread that accepts connections for a server that does not run. -/
theorem runAcceptThread_calm (P : Interrupts) (number : Nat) (hrun : s.server.running = false)
    (hlistener : s.server.listener.isSome = true) :
    runAcceptThread P number s = .ok () (if number ∈ s.threads.begun then s else
      { s.push loopEnd with
        threads := { s.threads with begun := number :: s.threads.begun } }) := by
  by_cases hbegun : number ∈ s.threads.begun
  · rw [if_pos hbegun, runAcceptThread_of_begun P hbegun]
  · rw [if_neg hbegun, runAcceptThread_of_stopped P hrun hlistener hbegun]

theorem release_calm (P : Interrupts) {l : Listener} (ho : s.outside.Calm)
    (hlistener : s.server.listener = some l) :
    release P s = Run.ended (s.unclosed? l) (s.released l) := by
  let s₁ : Site := { s with server := { s.server with acceptThread := none } }
  have hcall : call P (.listener l.number .close) s₁ =
      Run.ended (s.unclosed? l) (s₁.push (.listener l.number .close)) := call_calm ho rfl
  rw [release_of_listener P hlistener, released]
  cases hf : s.unclosed? l with
  | some f =>
    rw [hf] at hcall
    rw [Run.bind_of_error hcall]
    rfl
  | none =>
    rw [hf] at hcall
    rw [Run.bind_of_ok hcall]
    rfl

/-- A shutdown waits for the thread that accepts connections. -/
theorem stop_eq_release (P : Interrupts) (ho : s.outside.Calm) (hrun : s.server.running = true)
    (hlistener : s.server.listener.isSome = true)
    (hjoin : ∀ number, s.server.acceptThread = some number →
      s.outside.fails (s.history.push haltBegin) (joining number) = none) :
    stop P s = release P s.settled := by
  let s₁ : Site := { s.push haltBegin with server := { s.server with running := false } }
  rw [stop_of_running P hrun, settled, waiting]
  cases hthread : s.server.acceptThread with
  | none => rfl
  | some number =>
    have hcall : call P (joining number) s₁ = .ok () (s₁.push (joining number)) := by
      rw [call_calm (s := s₁) ho rfl,
        show s₁.outside.fails s₁.history _ = none from hjoin number hthread]
      rfl
    have hturn := runAcceptThread_calm P number (s := s₁.push (joining number)) rfl hlistener
    have hwait := (Run.bind_of_ok hcall fun _ => runAcceptThread P number).trans hturn
    refine (Run.bind_of_ok hwait _).trans ?_
    by_cases hbegun : number ∈ s.threads.begun
    · have hbegun' : number ∈ (s₁.push (joining number)).threads.begun := hbegun
      simp only [hbegun, hbegun', if_true]
      rfl
    · have hbegun' : number ∉ (s₁.push (joining number)).threads.begun := hbegun
      simp only [hbegun, hbegun', if_false]
      rfl

theorem mem_waiting (he : e ∈ s.waiting) : (∃ number, e = joining number) ∨ e = loopEnd := by
  unfold waiting at he
  cases hthread : s.server.acceptThread with
  | none =>
    simp only [hthread] at he
    cases he
  | some number =>
    by_cases hbegun : number ∈ s.threads.begun
    · simp only [hthread, if_pos hbegun] at he
      exact .inl ⟨number, List.mem_singleton.1 he⟩
    · simp only [hthread, if_neg hbegun] at he
      rcases List.mem_cons.1 he with rfl | he
      · exact .inl ⟨number, rfl⟩
      · exact .inr (List.mem_singleton.1 he)

theorem settled_threads (s : Site) :
    ∃ begun, s.threads.begun ⊆ begun ∧
      (∀ number, s.server.acceptThread = some number → number ∈ begun) ∧
      s.settled.threads = { s.threads with begun := begun } := by
  unfold settled
  cases hthread : s.server.acceptThread with
  | none => exact ⟨s.threads.begun, fun _ h => h, by simp, rfl⟩
  | some number =>
    by_cases hbegun : number ∈ s.threads.begun
    · refine ⟨s.threads.begun, fun _ h => h, ?_, if_pos hbegun⟩
      rintro _ ⟨⟩
      exact hbegun
    · refine ⟨number :: s.threads.begun, fun _ h => List.mem_cons_of_mem _ h, ?_, if_neg hbegun⟩
      rintro _ ⟨⟩
      exact List.mem_cons_self

/-- **Shutting a server down with nothing in between.** -/
theorem stop_calm (P : Interrupts) {l : Listener} (ho : s.outside.Calm)
    (hrun : s.server.running = true) (hlistener : s.server.listener = some l)
    (hjoin : ∀ number, s.server.acceptThread = some number →
      s.outside.fails (s.history.push haltBegin) (joining number) = none) :
    stop P s = Run.ended (s.settled.unclosed? l) (s.settled.released l) := by
  rw [stop_eq_release P ho hrun (by rw [hlistener]; rfl) hjoin]
  exact release_calm P ho hlistener

/-- A server that has just been made, with the standard settings and documents that are empty. -/
def fresh (o : Outside) : Site := ofServer (Server.ofConfig .standard fun _ _ => .ok []) o .empty

end Site

end StaticHttp
