import StaticHttp.Proofs.Server.Ledger
import StaticHttp.Proofs.Server.Upholding

/-!
# Heeding a signal

Once a signal has come, no connection is accepted any more, no listener is made and nothing pauses.
This is an invariant of all that a server does once it is bound, whatever comes in between: as
interruptions can be interrupted in turn, it is proved by induction on how deep they go.

    s.Heeds fails n → (Run.after (perform depth i) s).Heeds fails n              (perform_keeps)
-/

namespace StaticHttp

namespace History

/-- A signal has come. -/
def Told (h : History) : Prop := ∃ e ∈ h.toList, Site.Tells e

/-- Nothing restless comes after a signal. -/
def Heeded (h : History) : Prop :=
  h.toList.Pairwise fun e e' => Site.Tells e → e'.isRestless = false

variable {h : History} {es : List Event}

theorem told_append : (h.append es).Told ↔ h.Told ∨ ∃ e ∈ es, Site.Tells e := by
  unfold Told
  rw [toList_append]
  constructor
  · rintro ⟨e, he, htells⟩
    rcases List.mem_append.1 he with he | he
    · exact .inl ⟨e, he, htells⟩
    · exact .inr ⟨e, he, htells⟩
  · rintro (⟨e, he, htells⟩ | ⟨e, he, htells⟩)
    · exact ⟨e, List.mem_append_left es he, htells⟩
    · exact ⟨e, List.mem_append_right _ he, htells⟩

theorem Heeded.append (hh : h.Heeded) (hes : ∀ e ∈ es, e.isRestless = false) :
    (h.append es).Heeded := by
  unfold Heeded
  rw [toList_append]
  refine List.pairwise_append.2 ⟨hh, ?_, fun e _ e' he' _ => hes e' he'⟩
  exact List.pairwise_of_forall_mem_list fun e _ e' he' _ => hes e' he'

theorem Heeded.push (hh : h.Heeded) {e : Event} (he : e.isRestless = true → ¬ h.Told) :
    (h.push e).Heeded := by
  cases hr : e.isRestless with
  | false =>
    rw [push_eq_append]
    refine hh.append ?_
    exact List.forall_mem_singleton.2 hr
  | true =>
    unfold Heeded
    rw [toList_push]
    refine List.pairwise_append.2 ⟨hh, List.pairwise_singleton _ _, ?_⟩
    intro e' he' _ _ htells
    exact absurd ⟨e', he', htells⟩ (he hr)

end History

namespace Site

/-! ## The invariant -/

/-- The thread with a number has had its turn, or the server waits for it when it is shut down. -/
def Awaits (s : Site) (number : Nat) : Prop :=
  number ∈ s.threads.begun ∨ s.server.acceptThread = some number ∧ s.server.listener.isSome = true

/-- What holds of a server that heeds signals and waits for a thread. -/
structure Heeds (fails : History → Event → Option Failure) (number : Nat) (s : Site) : Prop where
  kept : s.Kept
  awaits : s.Awaits number
  stops : s.outside.LetsStop
  fails_eq : s.outside.fails = fails
  heeded : s.history.Heeded
  /-- A server that has been told to stop does not run. -/
  told : s.history.Told → s.server.running = false

/-- Interruptions are dealt with by a server that heeds signals. -/
def Keeps (fails : History → Event → Option Failure) (number : Nat) (P : Interrupts) : Prop :=
  ∀ i s, Heeds fails number s → Heeds fails number (Run.after (P i) s)

theorem Awaits.passage {s t : Site} {a : Bool} {es : List Event} {number : Nat}
    (hs : s.Awaits number) (h : Passage s a es t) : t.Awaits number := by
  rcases hs with hbegun | ⟨hthread, hlistener⟩
  · exact .inl (h.begun hbegun)
  · cases a with
    | true => exact .inl (h.joined rfl number hthread)
    | false => exact .inr (by rw [h.server_eq]; exact ⟨hthread, hlistener⟩)

/-- A shutdown does nothing restless. -/
theorem Passage.quiet {s t : Site} {a : Bool} {es : List Event} (h : Passage s a es t)
    (hes : deeds es = []) : ∀ e ∈ es, e.isRestless = false := by
  intro e he
  have hdeed : e.isDeed = false := by
    have hall := List.filter_eq_nil_iff.1 hes e he
    exact Bool.eq_false_iff.2 hall
  cases e with
  | accept => cases hdeed
  | sleep seconds => cases hdeed
  | listener number call =>
    have hmem : Event.listener number call ∈ es.filter Event.ofListener :=
      List.mem_filter.2 ⟨he, rfl⟩
    rw [h.closing] at hmem
    split at hmem
    · obtain ⟨l, _, heq⟩ := List.mem_map.1 hmem
      cases heq
      rfl
    · cases hmem
  | _ => rfl

namespace Heeds

variable {s t : Site} {fails : History → Event → Option Failure} {number : Nat} {a : Bool}
  {es : List Event}

theorem not_told (hs : s.Heeds fails number) (hrun : s.server.running = true) :
    ¬ s.history.Told := by
  intro htold
  rw [hs.told htold] at hrun
  cases hrun

/-- The invariant holds after a passage that is quiet, on which the server is shut down or no signal
comes. -/
theorem passage {n : Nat} (hs : s.Heeds fails number) (h : Passage (s.later n) a es t)
    (hquiet : ∀ e ∈ es, e.isRestless = false)
    (htells : t.server.running = true → ∀ e ∈ es, ¬ Tells e) : t.Heeds fails number where
  kept := (hs.kept.later n).passage h
  awaits := by
    have hlater : (s.later n).Awaits number := hs.awaits
    exact hlater.passage h
  stops := by
    rw [h.outside]
    exact ⟨hs.stops.join, hs.stops.close⟩
  fails_eq := by
    rw [h.outside]
    exact hs.fails_eq
  heeded := by
    rw [h.history]
    exact hs.heeded.append hquiet
  told := by
    intro htold
    rw [h.history] at htold
    rcases History.told_append.1 htold with htold | ⟨e, he, htell⟩
    · have hbefore : (s.later n).server.running = false := hs.told htold
      rw [h.running_eq, hbefore]
      rfl
    · cases hrun : t.server.running with
      | false => rfl
      | true => exact absurd htell (htells hrun e he)

/-- The invariant holds after an event that is no call on a listener and no signal, and that is
restless only if the server runs. -/
theorem push (hs : s.Heeds fails number) {e : Event} (he : e.ofListener = false)
    (htells : ¬ Tells e) (hrestless : e.isRestless = true → s.server.running = true) :
    (s.push e).Heeds fails number where
  kept := hs.kept.passage (.push s he)
  awaits := hs.awaits
  stops := hs.stops
  fails_eq := hs.fails_eq
  heeded := hs.heeded.push fun hr => hs.not_told (hrestless hr)
  told := by
    intro htold
    have htold' : (s.history.append [e]).Told := htold
    rcases History.told_append.1 htold' with htold | ⟨e', he', htell⟩
    · exact hs.told htold
    · rw [List.mem_singleton.1 he'] at htell
      exact absurd htell htells

/-- The outside may offer and pause otherwise. -/
theorem outside (hs : s.Heeds fails number) {o : Outside} (ho : o.fails = s.outside.fails) :
    Heeds fails number { s with outside := o } where
  kept := by
    refine ⟨hs.kept.running, ?_, ?_, ?_, hs.kept.settled⟩
    · show s.history.opened o.fails = _
      rw [ho]
      exact hs.kept.opened
    · show (s.history.opened o.fails).Nodup
      rw [ho]
      exact hs.kept.nodup
    · show ∀ n ∈ s.history.opened o.fails, n < s.listeners
      rw [ho]
      exact hs.kept.below
  awaits := hs.awaits
  stops := by
    refine ⟨?_, ?_⟩
    · show ∀ past number name, o.fails past (.joinThread number name) = none
      rw [ho]
      exact hs.stops.join
    · show ∀ past number, o.fails past (.listener number .close) = none
      rw [ho]
      exact hs.stops.close
  fails_eq := ho.trans hs.fails_eq
  heeded := hs.heeded
  told := hs.told

/-- The invariant holds after a thread has had its turn. -/
theorem turn (hs : s.Heeds fails number) (n : Nat) :
    Heeds fails number { s with threads := { s.threads with begun := n :: s.threads.begun } } where
  kept := hs.kept.turn n
  awaits := by
    rcases hs.awaits with hbegun | hthread
    · exact .inl (List.mem_cons_of_mem n hbegun)
    · exact .inr hthread
  stops := hs.stops
  fails_eq := hs.fails_eq
  heeded := hs.heeded
  told := hs.told

end Heeds

/-! ## What comes in between -/

section

variable {P : Interrupts} {s t : Site} {fails : History → Event → Option Failure} {number : Nat}

/-- A shutdown, and what has happened just before it if that was no deed: a signal perhaps. -/
theorem heeds_stop (depth : Nat) {es : List Event} (hs : s.Heeds fails number)
    (hp : Passage s false es t) (hes : deeds es = []) :
    (Run.after (stop (perform depth)) t).Heeds fails number := by
  cases hrun : t.server.running with
  | false =>
    rw [Run.after_of_ok (stop_of_not_running _ hrun)]
    refine hs.passage (n := 0) hp (hp.quiet hes) ?_
    intro hrunning
    cases hrun.symm.trans hrunning
  | true =>
    have hlistener : t.server.listener.isSome = true := by
      rw [hp.server_eq] at hrun ⊢
      exact hs.kept.listener_isSome hrun
    obtain ⟨fs, u, hstop, hp', hfs⟩ := stop_passage depth hrun hlistener
      (by rw [hp.outside]; exact hs.stops)
    have hboth := hp.trans hp'
    rw [Run.after_of_ok hstop]
    refine hs.passage (n := 0) hboth (hboth.quiet ?_) ?_
    · rw [deeds_append, hes, hfs]
      rfl
    · intro hrunning
      cases hboth.not_running.symm.trans hrunning

theorem Heeds.upheld (fails : History → Event → Option Failure) (number : Nat) :
    Upheld (Heeds fails number) where
  settled hs := hs.kept.toSettled
  push hs he hrestless := hs.push (Event.ofListener_of_isOwn he.own) he.tells hrestless
  offers hs _ := hs.outside rfl
  turn hs := hs.turn
  stop hs depth := heeds_stop depth hs (.refl _) rfl
  signal hs depth _ := heeds_stop depth hs (.push _ rfl) (deeds_log_of_lt (by decide) _ _)

end

end Site

end StaticHttp
