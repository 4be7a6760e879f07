import StaticHttp.Proofs.Server.Halting

/-!
# Announcing a server

A server runs by the time that its address is logged, so it can be shut down in between.  The
threads that have accepted connections for it before have had their turn, so that is all that can
come of an interruption: either nothing happens but the two entries in the log, or the server is
shut down, once, and goes on to log what is left to log.

    perform depth i s = .ok () s ∨ perform depth i s = .ok () t ∧ Drops s es t  (perform_of_running)
    announce P name root s = .ok () t ∧ (t.history = _ ∨ Drops s es t)         (announce_of_running)
-/

namespace StaticHttp

/-- Nothing comes in between while something is logged. -/
def Outside.LetsLog (o : Outside) : Prop := ∀ past entry, o.interrupts past (.log entry) = none

namespace Site

/-- The entries that tell of the address of a server, if it has a host and a port. -/
def announcing (name : List Value) (root : Value) : List Event :=
  match name.take 2 with
  | [host, port] =>
    [.log ⟨Server.source, Log.info,
        "Server started and bound to http://" ++ host.display ++ ":" ++ port.display⟩,
      .log ⟨Server.source, Log.info, "Serving files from " ++ root.display⟩]
  | _ => []

theorem mem_announcing {name : List Value} {root : Value} {e : Event}
    (he : e ∈ announcing name root) : ∃ message, e = .log ⟨Server.source, Log.info, message⟩ := by
  unfold announcing at he
  split at he
  · simp only [List.mem_cons, List.not_mem_nil, or_false] at he
    rcases he with rfl | rfl
    all_goals exact ⟨_, rfl⟩
  · cases he

theorem deeds_announcing (name : List Value) (root : Value) :
    deeds (announcing name root) = [] := by
  apply List.filter_eq_nil_iff.2
  intro e he
  obtain ⟨message, rfl⟩ := mem_announcing he
  exact of_decide_eq_false rfl

theorem filter_announcing (name : List Value) (root : Value) :
    (announcing name root).filter Event.ofListener = [] := by
  apply List.filter_eq_nil_iff.2
  intro e he
  obtain ⟨message, rfl⟩ := mem_announcing he
  exact Bool.false_ne_true

theorem not_tells_announcing (name : List Value) (root : Value) :
    ∀ e ∈ announcing name root, ¬ Tells e := by
  intro e he
  obtain ⟨message, rfl⟩ := mem_announcing he
  exact not_tells_log (by decide) _ _

/-- Every thread for accepting connections that was started has had its turn. -/
def Spent (s : Site) : Prop := ∀ number, s.threads.started = some number → number ∈ s.threads.begun

/-- The server is shut down on the way, and nothing else is done. -/
structure Drops (s : Site) (es : List Event) (t : Site) : Prop extends Passage s true es t where
  deeds_eq : deeds es = []

variable {s t u : Site} {P : Interrupts} {es fs : List Event}

theorem Spent.settled (hs : s.Spent) : s.Settled := fun number hnumber => .inl (hs number hnumber)

theorem Spent.moves (hs : s.Spent) (h : Moves s es t) : t.Spent := by
  intro number hnumber
  rw [h.started] at hnumber
  exact h.begun (hs number hnumber)

/-- What happens before and behind a shutdown may be reckoned among it. -/
theorem Drops.before (h : Passage s false es t) (hes : deeds es = []) (h' : Drops t fs u) :
    Drops s (es ++ fs) u where
  toPassage := h.trans h'.toPassage
  deeds_eq := by
    rw [deeds_append, hes, h'.deeds_eq]
    rfl

theorem Drops.behind (h : Drops s es t) (h' : Passage t false fs u) (hfs : deeds fs = []) :
    Drops s (es ++ fs) u where
  toPassage := h.toPassage.trans h'
  deeds_eq := by
    rw [deeds_append, h.deeds_eq, hfs]
    rfl

/-! ## What comes in between -/

/-- An interruption shuts a server down that runs, or nothing comes of it. -/
theorem perform_of_running (depth : Nat) (i : Interruption) (hrun : s.server.running = true)
    (hlistener : s.server.listener.isSome = true) (ho : s.outside.LetsStop) (hs : s.Spent) :
    perform depth i s = .ok () s ∨ ∃ es t, perform depth i s = .ok () t ∧ Drops s es t := by
  cases depth with
  | zero => exact .inl rfl
  | succ depth =>
    cases i with
    | shutDown =>
      obtain ⟨es, t, hstop, hp, hes⟩ := stop_passage depth hrun hlistener ho
      exact .inr ⟨es, t, hstop, hp, hes⟩
    | acceptThread =>
      left
      unfold perform
      rw [Run.get_bind]
      cases hstarted : s.threads.started with
      | none => rfl
      | some number => exact runAcceptThread_of_begun _ (hs number hstarted)
    | signal number =>
      cases hwatched : s.history.watches number with
      | false =>
        left
        unfold perform
        rw [Run.get_bind, hwatched]
        rfl
      | true =>
        right
        obtain ⟨es, t, hstop, hp, hes⟩ := stop_passage depth (s := s.push (received number)) hrun
          hlistener ho
        refine ⟨[received number] ++ es, t, ?_, Drops.before (.push s rfl) ?_ ⟨hp, hes⟩⟩
        · unfold perform
          rw [Run.get_bind, hwatched]
          exact hstop
        · exact deeds_log_of_lt (by decide) _ _

/-! ## The entries -/

theorem tell_eq (level : Int) (message : Text) (s : Site) :
    tell P level message s =
      interrupted P (s.outside.interrupts s.history (.log ⟨Server.source, level, message⟩))
        (s.push (.log ⟨Server.source, level, message⟩)) := rfl

/-- An entry of a server that runs. -/
theorem tell_of_running (depth : Nat) {level : Int} (hlevel : level < Log.warning) (message : Text)
    (hrun : s.server.running = true) (hlistener : s.server.listener.isSome = true)
    (ho : s.outside.LetsStop) (hs : s.Spent) :
    tell (perform depth) level message s =
        .ok () (s.push (.log ⟨Server.source, level, message⟩)) ∨
      ¬ s.outside.LetsLog ∧ ∃ es t, tell (perform depth) level message s = .ok () t ∧
        Drops s es t := by
  let e : Event := .log ⟨Server.source, level, message⟩
  rw [tell_eq]
  cases hi : s.outside.interrupts s.history e with
  | none => exact .inl rfl
  | some i =>
    have hloud : ¬ s.outside.LetsLog := by
      intro hlogs
      cases hi.symm.trans (hlogs s.history _)
    rcases perform_of_running depth i (s := s.push e) hrun hlistener ho hs with
      hnothing | ⟨es, t, hperform, hdrops⟩
    · exact .inl hnothing
    · refine .inr ⟨hloud, [e] ++ es, t, hperform, .before (.push s rfl) ?_ hdrops⟩
      exact deeds_log_of_lt hlevel _ _

/-- An entry of a server that does not run. -/
theorem tell_of_not_running (depth : Nat) {level : Int} (hlevel : level < Log.warning)
    (message : Text) (hrun : s.server.running = false) (hs : s.Settled) :
    ∃ es t, tell (perform depth) level message s = .ok () t ∧ Passage s false es t ∧
      deeds es = [] := by
  let e : Event := .log ⟨Server.source, level, message⟩
  obtain ⟨es, t, hi, hp, hes, _⟩ := interrupted_of_not_running depth
    (s.outside.interrupts s.history e) (s := s.push e) hrun fun _ => hs
  refine ⟨[e] ++ es, t, hi, (Passage.push s rfl).trans hp, ?_⟩
  rw [deeds_append, deeds_log_of_lt hlevel, hes]
  rfl

/-- Both entries are logged, with nothing in between. -/
theorem announce_of_letsLog {name : List Value} (hname : 2 ≤ name.length) (root : Value)
    (ho : s.outside.LetsLog) :
    announce P name root s =
      .ok () { s with history := s.history.append (announcing name root) } := by
  rcases name with _ | ⟨host, _ | ⟨port, rest⟩⟩
  · cases hname
  · cases Nat.not_succ_le_self 1 hname
  · have htell : ∀ level message (t : Site), t.outside = s.outside →
        tell P level message t = .ok () (t.push (.log ⟨Server.source, level, message⟩)) := by
      intro level message t ht
      rw [tell_eq, ht, ho]
      rfl
    unfold announce
    exact (Run.bind_of_ok (htell _ _ s rfl) _).trans (htell _ _ _ rfl)

/-- The entries are logged, and a server that runs is perhaps shut down on the way. -/
theorem announce_of_running (depth : Nat) {name : List Value} (hname : 2 ≤ name.length)
    (root : Value) (hrun : s.server.running = true) (hlistener : s.server.listener.isSome = true)
    (ho : s.outside.LetsStop) (hs : s.Spent) :
    announce (perform depth) name root s =
        .ok () { s with history := s.history.append (announcing name root) } ∨
      ¬ s.outside.LetsLog ∧ ∃ es t, announce (perform depth) name root s = .ok () t ∧
        Drops s es t := by
  rcases name with _ | ⟨host, _ | ⟨port, rest⟩⟩
  · cases hname
  · cases Nat.not_succ_le_self 1 hname
  have hinfo : Log.info < Log.warning := by decide
  let address : Text :=
    "Server started and bound to http://" ++ host.display ++ ":" ++ port.display
  let files : Text := "Serving files from " ++ root.display
  have heq : announce (perform depth) (host :: port :: rest) root =
      (tell (perform depth) Log.info address >>= fun _ =>
        tell (perform depth) Log.info files) := rfl
  rw [heq]
  rcases tell_of_running depth hinfo address hrun hlistener ho hs with
    hfirst | ⟨hloud, es, t, hfirst, hdrops⟩
  · let e : Event := .log ⟨Server.source, Log.info, address⟩
    rw [Run.bind_of_ok hfirst]
    rcases tell_of_running depth hinfo files (s := s.push e) hrun hlistener ho hs with
      hsecond | ⟨hloud, fs, u, hsecond, hdrops⟩
    · exact .inl hsecond
    · refine .inr ⟨hloud, [e] ++ fs, u, hsecond, .before (.push s rfl) ?_ hdrops⟩
      exact deeds_log_of_lt hinfo _ _
  · obtain ⟨fs, u, hsecond, hp, hfs⟩ := tell_of_not_running depth hinfo files (s := t)
      hdrops.not_running (hs.moves hdrops.toMoves).settled
    rw [Run.bind_of_ok hfirst]
    exact .inr ⟨hloud, es ++ fs, u, hsecond, hdrops.behind hp hfs⟩

end Site

end StaticHttp
