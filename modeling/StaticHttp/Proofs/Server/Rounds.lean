import StaticHttp.Proofs.Server.Orderly

/-!
# One round of the accept loop

A round of the loop is one of seven.  A `Round` keeps what the loop itself does apart from what the
thread does that it starts; `Round.Fits` says what there is in each case.  A round is a passage, and
the server is shut down on it exactly when a shutdown comes.

    ∃ r t, round P s = Run.ended r.fault t ∧ r.Fits ... ∧ Passage ... r.events t      (round_fits)
-/

namespace StaticHttp

/-! ## The thread of a connection -/

/-- What a thread does that serves a connection; a failure that leaves it is its own. -/
def Handler.work (h : Handler) (address : Address) (c : Connection) (past : History) :
    List Event :=
  Exchange.events (h.serve address) ⟨past, c⟩ ++
    match Run.outcome (h.serve address) ⟨past, c⟩ with
    | .ok _ => []
    | .error f => [.threadFailure f]

theorem Handler.work_ofListener (h : Handler) (address : Address) (c : Connection)
    (past : History) : (h.work address c past).filter Event.ofListener = [] := by
  have hservice : (Exchange.events (h.serve address) ⟨past, c⟩).filter Event.ofListener = [] := by
    apply List.filter_eq_nil_iff.2
    intro e he
    rw [Event.ofListener_of_ofService (h.ofService_serve address _ e he)]
    exact Bool.false_ne_true
  rw [work, List.filter_append, hservice]
  cases Run.outcome (h.serve address) ⟨past, c⟩ <;> rfl

namespace Site

theorem asThread_serve (h : Handler) (address : Address) (c : Connection) (s : Site) :
    asThread (onConnection c (h.serve address)) s =
      .ok () { s with history := s.history.append (h.work address c s.history) } := by
  have hhistory := History.eq_append (h.toList_serve address ⟨s.history, c⟩)
  unfold Run.after at hhistory
  unfold Handler.work Run.outcome
  rw [asThread]
  cases hserve : h.serve address ⟨s.history, c⟩ with
  | ok u x =>
    rw [hserve] at hhistory
    have hon : onConnection c (h.serve address) s = .ok u { s with history := x.history } := by
      rw [onConnection, hserve]
    rw [Run.bind_of_ok (Run.attempt_ok hon), List.append_nil, ← hhistory]
    rfl
  | error f x =>
    rw [hserve] at hhistory
    have hon : onConnection c (h.serve address) s = .error f { s with history := x.history } := by
      rw [onConnection, hserve]
    rw [Run.bind_of_ok (Run.attempt_error hon), ← History.append_append, ← hhistory]
    rfl

/-- The entry that is logged when an accept fails. -/
def acceptReport (f : Failure) : Event :=
  .log ⟨Server.source, Log.error, "Error accepting connection: " ++ f.message⟩

/-- The entry that is logged when there is no thread for a connection. -/
def dispatchReport (address : Address) (f : Failure) : Event :=
  .log ⟨Server.source, Log.error,
    "Error dispatching connection from " ++ addressText address ++ ": " ++ f.message⟩

end Site

/-! ## Rounds -/

/-- A round of the loop: what had happened before it, what its accept met, what the loop itself did,
what the thread did that it started, and the failure that left it. -/
structure Round where
  past : History
  offer : Offer
  own : List Event
  work : List Event
  fault : Option Failure

namespace Round

/-- All the events of a round. -/
def events (r : Round) : List Event := r.own ++ r.work

/-- Whether a shutdown comes in a round: during the accept, or during another call. -/
def shut (o : Outside) (r : Round) : Bool :=
  r.offer.interruption.isSome || o.comesIn r.past r.own

/-- The start of the thread for a connection. -/
def start (c : Connection) (name : Text) : Event := .startThread (.serving c.number) name

/-- A connection for which there is no thread is reported and closed. -/
def dropping (c : Connection) (address : Address) (f : Failure) : List Event :=
  [Site.dispatchReport address f, .connection c.number .close]

/-- An accept that fails is reported, and the loop pauses. -/
def pausing (f : Failure) : List Event :=
  [Site.acceptReport f, .sleep Site.retryPause]

/-- What a round comes to.  Besides the deeds that are named there are only those of a shutdown. -/
inductive Fits (fails : History → Event → Option Failure) (h : Handler) (r : Round) : Prop
  /-- The connection is served by a thread of its own. -/
  | served (c : Connection) (address : Address) (name : Text) (before after : List Event)
      (accepted : r.offer.outcome = .ok (c, address))
      (named : Site.workerName address = .ok name)
      (started : fails (r.past.append before) (start c name) = none)
      (own : r.own = before ++ start c name :: after)
      (first : deeds before = [.accept])
      (last : deeds after = [])
      (work : r.work = h.work address c (r.past.append r.own))
      (fault : r.fault = none)
  /-- No thread can be named after the address. -/
  | unnamed (c : Connection) (address : Address) (f : Failure)
      (accepted : r.offer.outcome = .ok (c, address))
      (named : Site.workerName address = .error f)
      (own : deeds r.own = .accept :: dropping c address f)
      (work : r.work = [])
      (fault : r.fault = c.closeFails)
  /-- The thread cannot be started. -/
  | unstarted (c : Connection) (address : Address) (name : Text) (f : Failure)
      (before after : List Event)
      (accepted : r.offer.outcome = .ok (c, address))
      (named : Site.workerName address = .ok name)
      (started : fails (r.past.append before) (start c name) = some f)
      (own : r.own = before ++ start c name :: after)
      (first : deeds before = [.accept])
      (last : deeds after = dropping c address f)
      (work : r.work = [])
      (fault : r.fault = c.closeFails)
  /-- Nothing has come in. -/
  | timedOut (f : Failure)
      (accepted : r.offer.outcome = .error f)
      (timeout : f.isTimeout = true)
      (own : deeds r.own = [.accept])
      (work : r.work = [])
      (fault : r.fault = none)
  /-- The operating system refuses while the server runs. -/
  | failed (f : Failure)
      (accepted : r.offer.outcome = .error f)
      (timeout : f.isTimeout = false)
      (system : f.isSystem = true)
      (running : r.offer.interruption = none)
      (own : deeds r.own = .accept :: pausing f)
      (work : r.work = [])
      (fault : r.fault = none)
  /-- The operating system refuses as the server has been shut down. -/
  | stopped (f : Failure)
      (accepted : r.offer.outcome = .error f)
      (timeout : f.isTimeout = false)
      (system : f.isSystem = true)
      (halted : r.offer.interruption.isSome = true)
      (own : deeds r.own = [.accept])
      (work : r.work = [])
      (fault : r.fault = none)
  /-- The accept fails in any other way. -/
  | broken (f : Failure)
      (accepted : r.offer.outcome = .error f)
      (system : f.isSystem = false)
      (own : deeds r.own = [.accept])
      (work : r.work = [])
      (fault : r.fault = some f)

end Round

/-! ## What a round comes to -/

namespace Site

variable {s t : Site} {c : Connection} {address : Address} {name : Text} {f : Failure}

/-- The site after an accept fits what the accept met. -/
theorem accept_passage (depth : Nat) (hrun : s.server.running = true) (hs : s.Bound)
    (ho : s.outside.Orderly) :
    ∃ es t, accept (perform (depth + 1)) s = Run.lift s.outside.takeOffer.1.outcome t ∧
      Passage (s.later 1)
        s.outside.takeOffer.1.interruption.isSome (.accept :: es) t ∧ deeds es = [] := by
  let s₀ : Site := s.later 1
  obtain ⟨es, t, hi, hp, hes⟩ := interrupted_passage depth (s := s₀.push .accept)
    (ho.later 1).letsStop hs fun _ => ho.offer
  have heq : accept (perform (depth + 1)) s =
      (interrupted (perform (depth + 1)) s.outside.takeOffer.1.interruption >>= fun _ =>
        Run.lift s.outside.takeOffer.1.outcome)
        ({ s with outside := s.outside.takeOffer.2 }.push .accept) := rfl
  rw [Outside.takeOffer_snd] at heq
  have hflag : ((s₀.push .accept).server.running && s.outside.takeOffer.1.interruption.isSome) =
      s.outside.takeOffer.1.interruption.isSome := by
    show (s.server.running && _) = _
    rw [hrun, Bool.true_and]
  rw [hflag] at hp
  exact ⟨es, t, heq.trans (Run.bind_of_ok hi _), (Passage.push s₀ rfl).trans hp, hes⟩

/-! ### An accepted connection -/

/-- What can keep a thread from being named ends no program. -/
theorem isFinal_of_workerName (h : workerName address = .error f) : f.isFinal = false := by
  unfold workerName at h
  split at h
  · cases h
    rfl
  · cases h
  · cases h
    rfl

theorem attend_of_ok (P : Interrupts) (h : dispatch P c address s = .ok () t) :
    attend P c address s = .ok () t := by
  rw [attend, Run.bind_of_ok (Run.attempt_ok h)]
  rfl

theorem close_eq (c : Connection) (s : Site) :
    onConnection c Exchange.close s =
      Run.ended c.closeFails (s.push (.connection c.number .close)) := by
  obtain ⟨number, incoming, setTimeoutFails, receiveFails, sendFails, closeFails⟩ := c
  cases closeFails <;> rfl

/-- The connection is reported and closed. -/
theorem attend_of_error (P : Interrupts) (h : dispatch P c address s = .error f t)
    (hf : f.isFinal = false) :
    attend P c address s = Run.ended c.closeFails
      { t with history := t.history.append (Round.dropping c address f) } := by
  rw [attend, Run.bind_of_ok (Run.attempt_error h)]
  simp only [hf, Bool.false_eq_true, if_false]
  exact close_eq c (t.push _)

theorem attend_of_unnamed (P : Interrupts) (h : workerName address = .error f) :
    attend P c address s = Run.ended c.closeFails
      { s with history := s.history.append (Round.dropping c address f) } := by
  refine attend_of_error P ?_ (isFinal_of_workerName h)
  rw [dispatch, Run.bind_of_error (Run.lift_of_error h s)]

/-- A thread is started for the connection, which it serves at once, unless the start fails. -/
theorem dispatch_passage (depth : Nat) (h : workerName address = .ok name)
    (ho : s.outside.Orderly) (hs : s.Bound) :
    ∃ es t, deeds es = [] ∧
      Passage s (s.server.running && s.outside.comesIn s.history (Round.start c name :: es))
        (Round.start c name :: es) t ∧
      dispatch (perform (depth + 1)) c address s =
        match s.outside.fails s.history (Round.start c name) with
        | none => .ok () { t with
            history := t.history.append (s.server.handler.work address c t.history) }
        | some f => .error f t := by
  obtain ⟨es, t, hcall, hp, hes⟩ := call_passage depth (e := Round.start c name) ho hs rfl
  refine ⟨es, t, hes, by rw [Outside.comesIn_cons rfl hes]; exact hp, ?_⟩
  have hdispatch : dispatch (perform (depth + 1)) c address s =
      (call (perform (depth + 1)) (Round.start c name) >>= fun _ => get >>= fun s =>
        asThread (onConnection c (s.server.handler.serve address))) s := by
    rw [dispatch, Run.bind_of_ok (Run.lift_of_ok h s)]
    rfl
  rw [hdispatch]
  cases hf : s.outside.fails s.history (Round.start c name) with
  | none =>
    rw [hf] at hcall
    rw [Run.bind_of_ok hcall, Run.get_bind, asThread_serve, hp.handler_eq]
  | some f =>
    rw [hf] at hcall
    rw [Run.bind_of_error hcall]

section

variable {past : History} {offer : Offer} {before : List Event}

/-- A connection that was accepted is served or dropped. -/
theorem attend_fits (depth : Nat) (ho : s.outside.Orderly) (hs : s.Bound)
    (hoffer : offer.outcome = .ok (c, address)) (hpast : s.history = past.append before)
    (hbefore : deeds before = [.accept]) :
    ∃ own work fault t, attend (perform (depth + 1)) c address s = Run.ended fault t ∧
      Passage s (s.server.running && s.outside.comesIn s.history own) (own ++ work) t ∧
      Round.Fits s.outside.fails s.server.handler ⟨past, offer, before ++ own, work, fault⟩ := by
  cases hname : workerName address with
  | error f =>
    refine ⟨Round.dropping c address f, [], c.closeFails, _, attend_of_unnamed _ hname, ?_, ?_⟩
    · rw [List.append_nil, show s.outside.comesIn s.history (Round.dropping c address f) = false
        from rfl, Bool.and_false]
      exact .append s rfl
    · refine .unnamed c address f hoffer hname ?_ rfl rfl
      rw [deeds_append, hbefore]
      rfl
  | ok name =>
    obtain ⟨es, t, hes, hp, hdispatch⟩ := dispatch_passage depth (c := c) hname ho hs
    cases hf : s.outside.fails s.history (Round.start c name) with
    | none =>
      rw [hf] at hdispatch
      refine ⟨Round.start c name :: es, s.server.handler.work address c t.history, none, _,
        attend_of_ok _ hdispatch, ?_, ?_⟩
      · rw [← Bool.or_false (s.server.running && _)]
        exact hp.trans (.append t (Handler.work_ofListener _ _ _ _))
      · refine .served c address name before es hoffer hname ?_ rfl hbefore hes ?_ rfl
        · rw [← hpast, hf]
        · rw [hp.history, hpast, History.append_append]
    | some f =>
      rw [hf] at hdispatch
      refine ⟨Round.start c name :: es ++ Round.dropping c address f, [], c.closeFails, _,
        attend_of_error _ hdispatch (ho.fails _ _ _ hf), ?_, ?_⟩
      · rw [List.append_nil, Outside.comesIn_append,
          show s.outside.comesIn _ (Round.dropping c address f) = false from rfl, Bool.or_false,
          ← Bool.or_false (s.server.running && _)]
        exact hp.trans (.append t rfl)
      · refine .unstarted c address name f before (es ++ Round.dropping c address f) hoffer hname ?_
          rfl hbefore ?_ rfl rfl
        · rw [← hpast, hf]
        · rw [deeds_append, hes]
          rfl

end

/-! ### An accept that fails -/

theorem isSystem_of_isTimeout (h : f.isTimeout = true) : f.isSystem = true := by
  cases f with
  | system e => rfl
  | _ => cases h

theorem endure_of_timeout (P : Interrupts) (h : f.isTimeout = true) (s : Site) :
    endure P f s = .ok () s := by
  rw [endure, if_pos h]
  rfl

theorem endure_of_broken (P : Interrupts) (h : f.isSystem = false) (s : Site) :
    endure P f s = .error f s := by
  have htimeout : ¬ f.isTimeout = true := by
    intro ht
    rw [isSystem_of_isTimeout ht] at h
    cases h
  rw [endure, if_neg htimeout, if_neg (by rw [h]; exact Bool.false_ne_true)]
  rfl

theorem endure_of_not_running (P : Interrupts) (hsystem : f.isSystem = true)
    (hrun : s.server.running = false) : endure P f s = .ok () s := by
  by_cases htimeout : f.isTimeout = true
  · exact endure_of_timeout P htimeout s
  · rw [endure, if_neg htimeout, if_pos hsystem, Run.get_bind, hrun]
    rfl

theorem endure_of_running (P : Interrupts) (htimeout : f.isTimeout = false)
    (hsystem : f.isSystem = true) (hrun : s.server.running = true) :
    endure P f s = call P (.sleep retryPause) (s.push (acceptReport f)) := by
  rw [endure, if_neg (by rw [htimeout]; exact Bool.false_ne_true), if_pos hsystem, Run.get_bind,
    if_pos hrun]
  rfl

/-- The failure is reported, and the loop pauses. -/
theorem endure_passage (depth : Nat) (htimeout : f.isTimeout = false) (hsystem : f.isSystem = true)
    (hrun : s.server.running = true) (ho : s.outside.Orderly) (hs : s.Bound) :
    ∃ es t, endure (perform (depth + 1)) f s = .ok () t ∧ deeds es = [] ∧
      Passage s (s.outside.comesIn s.history (Round.pausing f ++ es))
        (Round.pausing f ++ es) t := by
  obtain ⟨es, t, hcall, hp, hes⟩ := call_passage depth (s := s.push (acceptReport f))
    (e := .sleep retryPause) ho hs rfl
  have hfails : (s.push (acceptReport f)).outside.fails (s.push (acceptReport f)).history
      (.sleep retryPause) = none := ho.fails_eq_none (fun _ => id) _
  rw [hfails] at hcall
  refine ⟨es, t, (endure_of_running _ htimeout hsystem hrun).trans hcall, hes, ?_⟩
  have hcomes : s.outside.comesIn s.history (Round.pausing f ++ es) =
      ((s.push (acceptReport f)).server.running &&
        (s.outside.interrupts (s.push (acceptReport f)).history (.sleep retryPause)).isSome) := by
    show (false || s.outside.comesIn _ (.sleep retryPause :: es)) = (s.server.running && _)
    rw [hrun, Bool.false_or, Bool.true_and, Outside.comesIn_cons rfl hes]
    rfl
  rw [hcomes]
  exact (Passage.push s rfl).trans hp

section

variable {offer : Offer} {before : List Event}

/-- A failed accept is put up with, unless the operating system has no part in it. -/
theorem endure_fits (depth : Nat) (past : History) (ho : s.outside.Orderly) (hs : s.Bound)
    (hoffer : offer.outcome = .error f) (hrun : s.server.running = !offer.interruption.isSome)
    (hbefore : deeds before = [.accept]) :
    ∃ own fault t, endure (perform (depth + 1)) f s = Run.ended fault t ∧
      Passage s (s.server.running && s.outside.comesIn s.history own) own t ∧
      Round.Fits s.outside.fails s.server.handler ⟨past, offer, before ++ own, [], fault⟩ := by
  have hnothing : Passage s (s.server.running && s.outside.comesIn s.history []) [] s := by
    rw [Outside.comesIn, Bool.and_false]
    exact .refl s
  have hdeeds : deeds (before ++ []) = [.accept] := by rw [List.append_nil, hbefore]
  cases hsystem : f.isSystem with
  | false =>
    exact ⟨[], some f, s, endure_of_broken _ hsystem s, hnothing,
      .broken f hoffer hsystem hdeeds rfl rfl⟩
  | true =>
    cases htimeout : f.isTimeout with
    | true =>
      exact ⟨[], none, s, endure_of_timeout _ htimeout s, hnothing,
        .timedOut f hoffer htimeout hdeeds rfl rfl⟩
    | false =>
      cases hi : offer.interruption with
      | some i =>
        rw [hi] at hrun
        exact ⟨[], none, s, endure_of_not_running _ hsystem hrun, hnothing,
          .stopped f hoffer htimeout hsystem (by rw [hi]; rfl) hdeeds rfl rfl⟩
      | none =>
        rw [hi] at hrun
        obtain ⟨es, t, hendure, hes, hp⟩ := endure_passage depth htimeout hsystem hrun ho hs
        refine ⟨Round.pausing f ++ es, none, t, hendure, ?_,
          .failed f hoffer htimeout hsystem hi ?_ rfl rfl⟩
        · rw [hrun]
          exact hp
        · rw [deeds_append, deeds_append, hbefore, hes]
          rfl

end

/-! ### The round -/

/-- **A round of the loop** is one of seven, and shuts the server down exactly when a shutdown
comes. -/
theorem round_fits (depth : Nat) (hrun : s.server.running = true) (hs : s.Bound)
    (ho : s.outside.Orderly) :
    ∃ (r : Round) (t : Site), round (perform (depth + 1)) s = Run.ended r.fault t ∧
      r.past = s.history ∧ r.offer = s.outside.takeOffer.1 ∧
      r.Fits s.outside.fails s.server.handler ∧
      Passage (s.later 1) (r.shut s.outside) r.events t := by
  obtain ⟨es, t, haccept, hp, hes⟩ := accept_passage depth hrun hs ho
  let offer := s.outside.takeOffer.1
  have hrun' : t.server.running = !offer.interruption.isSome := by
    rw [hp.running_eq]
    show (s.server.running && _) = _
    rw [hrun, Bool.true_and]
  have ho' : t.outside.Orderly := by rw [hp.outside]; exact ho.later 1
  have hs' : t.Bound := hp.bound hs
  have hbefore : deeds (.accept :: es) = [.accept] := by
    rw [deeds_cons, hes]
    rfl
  -- what is left of the round is a passage from there on
  have hrest : ∃ own work fault u, round (perform (depth + 1)) s = Run.ended fault u ∧
      Passage t (t.server.running && t.outside.comesIn t.history own) (own ++ work) u ∧
      Round.Fits t.outside.fails t.server.handler
        ⟨s.history, offer, .accept :: es ++ own, work, fault⟩ := by
    cases hoffer : offer.outcome with
    | ok accepted =>
      obtain ⟨c, address⟩ := accepted
      rw [Run.lift_of_ok hoffer] at haccept
      obtain ⟨own, work, fault, u, hattend, hrest⟩ :=
        attend_fits depth ho' hs' hoffer hp.history hbefore
      refine ⟨own, work, fault, u, ?_, hrest⟩
      rw [round, Run.bind_of_ok (Run.attempt_ok haccept)]
      exact hattend
    | error f =>
      rw [Run.lift_of_error hoffer] at haccept
      obtain ⟨own, fault, u, hendure, hpassage, hfits⟩ :=
        endure_fits depth s.history ho' hs' hoffer hrun' hbefore
      refine ⟨own, [], fault, u, ?_, by rw [List.append_nil]; exact hpassage, hfits⟩
      rw [round, Run.bind_of_ok (Run.attempt_error haccept)]
      exact hendure
  obtain ⟨own, work, fault, u, hround, hpassage, hfits⟩ := hrest
  rw [hp.handler_eq, hp.outside] at hfits
  refine ⟨_, u, hround, rfl, rfl, hfits, ?_⟩
  have hshut : Round.shut s.outside ⟨s.history, offer, .accept :: es ++ own, work, fault⟩ =
      (offer.interruption.isSome || (t.server.running && t.outside.comesIn t.history own)) := by
    have hcomes : t.outside.comesIn t.history own = s.outside.comesIn t.history own :=
      Outside.comesIn_congr (by rw [hp.outside]; rfl) _ _
    have hfirst : s.outside.comesIn s.history (.accept :: es) = false := by
      rw [Outside.comesIn, Outside.comesIn_of_deeds hes]
      rfl
    rw [Round.shut, Outside.comesIn_append, hfirst, Bool.false_or, hrun', hcomes, hp.history]
    cases offer.interruption <;> rfl
  rw [hshut, Round.events, List.append_assoc]
  exact hp.trans hpassage

end Site

end StaticHttp
