import StaticHttp.Proofs.Server.LifeCycle

/-!
# What the loop upholds

The loop of a server, and whatever comes in between of it, adds events to the history, takes offers,
gives threads their turn and shuts the server down.  A property that each of these upholds is upheld
by the loop as a whole, whatever connections come in and whatever fails.  As interruptions can be
interrupted in turn, this is proved by induction on how deep they go.

    Upheld p → p s → p (Run.after (perform depth i) s)                            (Upheld.perform)
    Upheld p → p s → p (operation.apply s)                                          (Upheld.apply)
-/

namespace StaticHttp

/-- What a server does only as long as nobody has told it to stop. -/
def Event.isRestless : Event → Bool
  | .accept => true
  | .sleep _ => true
  | .listener _ .close => false
  | .listener _ _ => true
  | _ => false

/-- An event of the loop: no call by which a server is bound, started or shut down, and no entry
that tells of a shutdown or of a signal. -/
structure Event.OfLoop (e : Event) : Prop where
  own : e.isOwn = false
  begins : e ≠ Site.haltBegin
  tells : ¬ Site.Tells e

namespace Site

theorem ofLoop_log {source : Text} {level : Int} (hsource : source ≠ programSource)
    (h : source = Server.source → level ≠ Log.info) (message : Text) :
    Event.OfLoop (.log ⟨source, level, message⟩) where
  own := rfl
  begins := by
    intro heq
    injection heq with hentry
    injection hentry with hserver hlevel
    exact h hserver hlevel
  tells := not_tells_log hsource level message

/-- An entry of the server's own that is no information. -/
theorem ofLoop_note {level : Int} (h : level ≠ Log.info) (message : Text) :
    Event.OfLoop (.log ⟨Server.source, level, message⟩) :=
  ofLoop_log (by decide) (fun _ => h) message

theorem ofLoop_of_isDeed {e : Event} (hdeed : e.isDeed = true) (hown : e.isOwn = false) :
    e.OfLoop where
  own := hown
  begins := by
    rintro rfl
    cases hdeed
  tells := not_tells_of_isDeed hdeed

theorem ofLoop_of_ofService {e : Event} (he : e.OfService) : e.OfLoop ∧ e.isRestless = false := by
  cases e with
  | log entry =>
    refine ⟨ofLoop_log ?_ ?_ _, rfl⟩
    · rcases he with hsource | hsource
      all_goals
        rw [hsource]
        decide
    · rcases he with hsource | hsource
      all_goals
        rw [hsource]
        exact fun h => absurd h (by decide)
  | load path => exact ⟨ofLoop_of_isDeed rfl rfl, rfl⟩
  | connection n call => exact ⟨ofLoop_of_isDeed rfl rfl, rfl⟩
  | _ => exact he.elim

theorem ofLoop_work (h : Handler) (address : Address) (c : Connection) (past : History) :
    ∀ e ∈ h.work address c past, e.OfLoop ∧ e.isRestless = false := by
  unfold Handler.work
  refine List.forall_mem_append.2 ⟨?_, ?_⟩
  · exact fun e he => ofLoop_of_ofService (h.ofService_serve address _ e he)
  · cases Run.outcome (h.serve address) ⟨past, c⟩ with
    | ok u => simp
    | error f => exact List.forall_mem_singleton.2 ⟨ofLoop_of_isDeed rfl rfl, rfl⟩

/-! ## Properties of sites -/

/-- A property that is upheld by all that the loop does at a time. -/
structure Upheld (p : Site → Prop) : Prop where
  /-- No thread that accepts connections is left that would bind the server. -/
  settled : ∀ {s}, p s → s.Settled
  push : ∀ {s e}, p s → e.OfLoop → (e.isRestless = true → s.server.running = true) → p (s.push e)
  offers : ∀ {s}, p s → ∀ offers, p { s with outside := { s.outside with offers := offers } }
  turn : ∀ {s}, p s → ∀ number,
    p { s with threads := { s.threads with begun := number :: s.threads.begun } }
  stop : ∀ {s}, p s → ∀ depth, p (Run.after (stop (perform depth)) s)
  signal : ∀ {s}, p s → ∀ depth number, p (Run.after (onSignal (perform depth) number) s)

/-- Interruptions are dealt with in such a way that a property is upheld. -/
def Upholds (p : Site → Prop) (P : Interrupts) : Prop := ∀ i s, p s → p (Run.after (P i) s)

section

variable {p : Site → Prop} {P : Interrupts} {s : Site}

theorem after_interrupted (hP : Upholds p P) (i : Option Interruption) (hs : p s) :
    p (Run.after (interrupted P i) s) := by
  cases i with
  | none => exact hs
  | some i => exact hP i s hs

/-- A call of an event that the property admits. -/
theorem after_call (hP : Upholds p P) {e : Event} (hs : p (s.push e)) :
    p (Run.after (call P e) s) := by
  have hafter := after_interrupted hP (s.outside.interrupts s.history e) hs
  cases hi : interrupted P (s.outside.interrupts s.history e) (s.push e) with
  | ok u t =>
    rw [Run.after_of_ok hi] at hafter
    rw [Run.after_of_ended (call_of_ok hi)]
    exact hafter
  | error f t =>
    rw [Run.after_of_error hi] at hafter
    rw [Run.after_of_error (call_of_error hi)]
    exact hafter

namespace Upheld

variable (hp : Upheld p)

include hp

/-- An event that is not restless may come at any time. -/
theorem push_restful {e : Event} (hs : p s) (he : e.OfLoop) (hrest : e.isRestless = false) :
    p (s.push e) := by
  refine hp.push hs he fun hrestless => ?_
  cases hrest.symm.trans hrestless

theorem append {es : List Event} (hs : p s) (hes : ∀ e ∈ es, e.OfLoop ∧ e.isRestless = false) :
    p { s with history := s.history.append es } := by
  refine History.append_induction (p := fun h => p { s with history := h }) hs ?_
  intro e he h hh
  exact hp.push_restful hh (hes e he).1 (hes e he).2

/-! ## Serving a connection -/

variable (hP : Upholds p P)

include hP

theorem after_dispatch (c : Connection) (address : Address) (hs : p s) :
    p (Run.after (dispatch P c address) s) := by
  unfold dispatch
  apply Run.after_bind
  · cases workerName address <;> exact hs
  intro name t _ ht
  apply Run.after_bind
  · exact after_call hP (hp.push_restful ht (ofLoop_of_isDeed rfl rfl) rfl)
  intro _ u _ hu
  rw [Run.after_of_ok (Run.get_bind _ u |>.trans (asThread_serve _ _ _ u))]
  exact hp.append hu (ofLoop_work _ _ _ _)

theorem after_attend (c : Connection) (address : Address) (hs : p s) :
    p (Run.after (attend P c address) s) := by
  unfold attend
  apply Run.after_bind
  · rw [Run.after_attempt]
    exact hp.after_dispatch hP c address hs
  intro result t _ ht
  cases result with
  | ok u => exact ht
  | error f =>
    cases hf : f.isFinal with
    | true =>
      simp only [hf, if_true]
      exact ht
    | false =>
      simp only [hf, Bool.false_eq_true, if_false]
      apply Run.after_bind (hp.push_restful ht (ofLoop_note (by decide) _) rfl)
      rintro _ u _ hu
      rw [Run.after_of_ended (close_eq c u)]
      exact hp.push_restful hu (ofLoop_of_isDeed rfl rfl) rfl

/-! ## The loop -/

theorem after_endure (f : Failure) (hs : p s) : p (Run.after (endure P f) s) := by
  cases hsystem : f.isSystem with
  | false =>
    rw [Run.after_of_error (endure_of_broken P hsystem s)]
    exact hs
  | true =>
    cases hrun : s.server.running with
    | false =>
      rw [Run.after_of_ok (endure_of_not_running P hsystem hrun)]
      exact hs
    | true =>
      cases htimeout : f.isTimeout with
      | true =>
        rw [Run.after_of_ok (endure_of_timeout P htimeout s)]
        exact hs
      | false =>
        rw [Run.after_congr (endure_of_running P htimeout hsystem hrun)]
        have hreport : p (s.push (acceptReport f)) :=
          hp.push_restful hs (ofLoop_note (by decide) _) rfl
        exact after_call hP (hp.push hreport (ofLoop_of_isDeed rfl rfl) fun _ => hrun)

theorem after_accept (hs : p s) (hrun : s.server.running = true) :
    p (Run.after (accept P) s) := by
  let s₁ : Site := { s with outside := s.outside.takeOffer.2 }
  have heq : accept P s =
      (interrupted P s.outside.takeOffer.1.interruption >>= fun _ =>
        Run.lift s.outside.takeOffer.1.outcome) (s₁.push .accept) := rfl
  rw [Run.after_congr heq]
  have hs₁ : p s₁ := by
    show p { s with outside := s.outside.takeOffer.2 }
    rw [Outside.takeOffer_snd]
    exact hp.offers hs _
  apply Run.after_bind
  · exact after_interrupted hP _ (hp.push hs₁ (ofLoop_of_isDeed rfl rfl) fun _ => hrun)
  intro _ t _ ht
  cases s.outside.takeOffer.1.outcome <;> exact ht

theorem after_round (hs : p s) (hrun : s.server.running = true) :
    p (Run.after (round P) s) := by
  unfold round
  apply Run.after_bind
  · rw [Run.after_attempt]
    exact hp.after_accept hP hs hrun
  intro result t _ ht
  cases result with
  | ok accepted => exact hp.after_attend hP accepted.1 accepted.2 ht
  | error f => exact hp.after_endure hP f ht

theorem after_rounds (n : Nat) (hs : p s) : p (Run.after (rounds P n) s) := by
  induction n generalizing s with
  | zero => exact hs
  | succ n ih =>
    cases hrun : s.server.running with
    | false =>
      rw [Run.after_of_ok (rounds_of_not_running P hrun (n + 1))]
      exact hs
    | true =>
      rw [Run.after_congr (rounds_succ P n hrun)]
      apply Run.after_bind (hp.after_round hP hs hrun)
      intro _ t _ ht
      exact ih ht

theorem after_serve (hs : p s) (hlistener : s.server.listener.isSome = true) :
    p (Run.after (serve P) s) := by
  rw [Run.after_congr (serve_of_listener P hlistener)]
  apply Run.after_bind (hp.after_rounds hP _ hs)
  intro _ t _ ht
  exact hp.push_restful ht (ofLoop_note (by decide) _) rfl

/-- A failure that leaves a thread is its own. -/
theorem after_runAcceptThread (number : Nat) (hs : p s)
    (hnumber : number ∈ s.threads.begun ∨ s.server.listener.isSome = true) :
    p (Run.after (runAcceptThread P number) s) := by
  by_cases hbegun : number ∈ s.threads.begun
  · rw [Run.after_of_ok (runAcceptThread_of_begun P hbegun)]
    exact hs
  · let s₁ : Site := { s with threads := { s.threads with begun := number :: s.threads.begun } }
    have heq : runAcceptThread P number s = asThread (serve P) s₁ := by
      rw [runAcceptThread, Run.get_bind, if_neg hbegun, Run.modify_bind]
    rw [Run.after_congr heq]
    unfold asThread
    apply Run.after_bind
    · rw [Run.after_attempt]
      exact hp.after_serve hP (hp.turn hs number) (hnumber.resolve_left hbegun)
    intro result t _ ht
    cases result with
    | ok u => exact ht
    | error f => exact hp.push_restful ht (ofLoop_of_isDeed rfl rfl) rfl

omit hP

/-! ## Interruptions -/

/-- **Whatever comes in between upholds what the loop upholds.** -/
theorem perform (depth : Nat) : Upholds p (perform depth) := by
  induction depth with
  | zero =>
    intro i s hs
    exact hs
  | succ depth ih =>
    intro i s hs
    cases i with
    | shutDown => exact hp.stop hs depth
    | acceptThread =>
      cases hstarted : s.threads.started with
      | none =>
        have heq : Site.perform (depth + 1) .acceptThread s = .ok () s := by
          rw [Site.perform, Run.get_bind, hstarted]
          rfl
        rw [Run.after_of_ok heq]
        exact hs
      | some number =>
        have heq : Site.perform (depth + 1) .acceptThread s =
            runAcceptThread (Site.perform depth) number s := by
          rw [Site.perform, Run.get_bind, hstarted]
        rw [Run.after_congr heq]
        exact hp.after_runAcceptThread ih number hs (hp.settled hs number hstarted)
    | signal number =>
      by_cases hw : s.history.watches number = true
      · have heq : Site.perform (depth + 1) (.signal number) s =
            onSignal (Site.perform depth) number s := by
          rw [Site.perform, Run.get_bind, if_pos hw]
        rw [Run.after_congr heq]
        exact hp.signal hs depth number
      · have heq : Site.perform (depth + 1) (.signal number) s = .ok () s := by
          rw [Site.perform, Run.get_bind, if_neg hw]
          rfl
        rw [Run.after_of_ok heq]
        exact hs

/-! ## Operations -/

/-- An operation keeps what is upheld if a start of a server that does not run keeps it.  The loop
is left out: a server that has no listener is bound before it. -/
theorem apply {operation : Operation} (hs : p s) (hserve : operation ≠ .serveForever)
    (hlaunch : s.server.running = false → p (Run.after (launch (Site.perform s.depth)) s)) :
    p (operation.apply s) := by
  cases operation with
  | start =>
    have heq : Server.start s = launch (Site.perform s.depth) s := rfl
    show p (Run.after Server.start s)
    rw [Run.after_congr heq]
    cases hrun : s.server.running with
    | true =>
      rw [Run.after_of_ok (launch_of_running _ hrun)]
      exact hp.push_restful hs (ofLoop_note (by decide) _) rfl
    | false => exact hlaunch hrun
  | serveForever => exact absurd rfl hserve
  | shutDown =>
    have heq : Server.shutDown s = Site.stop (Site.perform s.depth) s := rfl
    show p (Run.after Server.shutDown s)
    rw [Run.after_congr heq]
    exact hp.stop hs s.depth
  | turn =>
    have heq : Server.runStarted s = Site.perform s.depth .acceptThread s := rfl
    show p (Run.after Server.runStarted s)
    rw [Run.after_congr heq]
    exact hp.perform s.depth .acceptThread s hs

end Upheld

end

end Site

end StaticHttp
