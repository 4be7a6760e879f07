import StaticHttp.Proofs.Server.Ledger

/-!
# The account of a server

A listener is forsaken when the thread that was to accept connections from it cannot be started.  An
account tells which listeners have been made, closed and forsaken; as the server is started and shut
down, every listener but the forsaken ones and the server's own has been closed, each once.

    a.Sound → Sound { a with next := .., made := .., server := .. }        (Sound.start, Sound.strand)
    a.Sound → Sound { a with closed := l.number :: a.closed, .. }                       (Sound.stop)
-/

namespace StaticHttp

/-- An event by which no listener is made or closed and no thread for accepting connections is
started. -/
structure Event.Neutral (e : Event) : Prop where
  created? : e.created? = none
  closed? : e.closed? = none
  accepting? : e.accepting? = none

theorem Event.neutral_of_isOwn {e : Event} (h : e.isOwn = false) : e.Neutral where
  created? := created?_of_ofListener (ofListener_of_isOwn h)
  closed? := closed?_of_ofListener (ofListener_of_isOwn h)
  accepting? := accepting?_of_isOwn h

namespace History

variable {fails : History → Event → Option Failure}

/-- The refused starts of threads for accepting connections, the newest first: the thread, and the
listener from which it was to accept them, which is the newest one. -/
def strandedIn (fails : History → Event → Option Failure) : List Event → List (Nat × Option Nat)
  | [] => []
  | e :: past =>
    match e.accepting? with
    | some number =>
      if (fails ⟨past⟩ e).isSome then (number, (openedIn fails past).head?) :: strandedIn fails past
      else strandedIn fails past
    | none => strandedIn fails past

def stranded (fails : History → Event → Option Failure) (h : History) : List (Nat × Option Nat) :=
  strandedIn fails h.newestFirst

/-- The threads for accepting connections that could not be started. -/
def unstarted (fails : History → Event → Option Failure) (h : History) : List Nat :=
  (h.stranded fails).map Prod.fst

/-- The listeners for which there is no thread to accept connections, as it could not be started. -/
def forsaken (fails : History → Event → Option Failure) (h : History) : List Nat :=
  (h.stranded fails).filterMap Prod.snd

theorem stranded_push {e : Event} (he : e.accepting? = none) (h : History) :
    (h.push e).stranded fails = h.stranded fails := by
  rw [stranded, push, strandedIn, he]
  rfl

theorem closed_push {e : Event} (he : e.closed? = none) (h : History) :
    (h.push e).closed = h.closed := by
  rw [closed, push, List.filterMap_cons_none he]
  rfl

/-- Neutral events leave the accounts as they are. -/
theorem append_neutral (fails : History → Event → Option Failure) {es : List Event}
    (hes : ∀ e ∈ es, e.Neutral) (h : History) :
    (h.append es).opened fails = h.opened fails ∧ (h.append es).closed = h.closed ∧
      (h.append es).stranded fails = h.stranded fails := by
  refine ⟨?_, ?_, ?_⟩
  · exact apply_append (opened fails) (fun e he => opened_push (hes e he).created?) h
  · exact apply_append closed (fun e he => closed_push (hes e he).closed?) h
  · exact apply_append (stranded fails) (fun e he => stranded_push (hes e he).accepting?) h

theorem stranded_push_of_refused {e : Event} {number : Nat} {h : History}
    (he : e.accepting? = some number) (hrefused : (fails h e).isSome = true) :
    (h.push e).stranded fails = (number, (h.opened fails).head?) :: h.stranded fails := by
  rw [stranded, push, strandedIn, he]
  exact if_pos hrefused

theorem stranded_push_of_started {e : Event} {h : History} (hstarted : fails h e = none) :
    (h.push e).stranded fails = h.stranded fails := by
  rw [stranded, push, strandedIn]
  cases e.accepting? with
  | none => rfl
  | some number =>
    refine if_neg ?_
    rw [show fails ⟨h.newestFirst⟩ e = none from hstarted]
    exact Bool.false_ne_true

end History

/-! ## Accounts -/

/-- An account of what has been made, closed and left open, each with a number below the next. -/
structure Tally (made closed left : List Nat) (next : Nat) : Prop where
  made_lt : ∀ n ∈ made, n < next
  closed_lt : ∀ n ∈ closed, n < next
  left_made : ∀ n ∈ left, n ∈ made
  count : ∀ n ∈ made, closed.count n = if n ∈ left then 0 else 1

namespace Tally

variable {made closed left left' : List Nat} {next n : Nat}

theorem notMem_left (h : Tally made closed left next) : next ∉ left :=
  fun hmem => Nat.lt_irrefl _ (h.made_lt _ (h.left_made _ hmem))

/-- A number may be skipped. -/
theorem skip (h : Tally made closed left next) : Tally made closed left (next + 1) where
  made_lt n hn := Nat.lt_succ_of_lt (h.made_lt n hn)
  closed_lt n hn := Nat.lt_succ_of_lt (h.closed_lt n hn)
  left_made := h.left_made
  count := h.count

theorem make (h : Tally made closed left next) :
    Tally (next :: made) closed (next :: left) (next + 1) where
  made_lt := List.forall_mem_cons.2 ⟨Nat.lt_succ_self _, h.skip.made_lt⟩
  closed_lt := h.skip.closed_lt
  left_made n hn := by
    rcases List.mem_cons.1 hn with rfl | hn
    · exact List.mem_cons_self
    · exact List.mem_cons_of_mem _ (h.left_made n hn)
  count := by
    intro n hn
    by_cases heq : n = next
    · subst heq
      rw [if_pos List.mem_cons_self]
      exact List.count_eq_zero_of_not_mem fun hmem => Nat.lt_irrefl _ (h.closed_lt _ hmem)
    · have hmade : n ∈ made := (List.mem_cons.1 hn).resolve_left heq
      have hleft : n ∈ next :: left ↔ n ∈ left := by simp [heq]
      rw [h.count n hmade]
      simp only [hleft]

/-- One that was left open is closed. -/
theorem close (h : Tally made closed left next) (hn : n ∈ left)
    (hleft : ∀ m, m ∈ left' ↔ m ∈ left ∧ m ≠ n) : Tally made (n :: closed) left' next where
  made_lt := h.made_lt
  closed_lt := List.forall_mem_cons.2 ⟨h.made_lt n (h.left_made n hn), h.closed_lt⟩
  left_made m hm := h.left_made m ((hleft m).1 hm).1
  count := by
    intro m hm
    have hcount := h.count m hm
    by_cases heq : m = n
    · subst heq
      rw [if_pos hn] at hcount
      have hnot : m ∉ left' := fun hmem => ((hleft m).1 hmem).2 rfl
      rw [List.count_cons_self, hcount, if_neg hnot]
    · have hiff : m ∈ left' ↔ m ∈ left := by simp [hleft, heq]
      rw [List.count_cons_of_ne (Ne.symm heq), hcount]
      simp only [hiff]

theorem congr (h : Tally made closed left next) (hleft : ∀ m, m ∈ left' ↔ m ∈ left) :
    Tally made closed left' next where
  made_lt := h.made_lt
  closed_lt := h.closed_lt
  left_made m hm := h.left_made m ((hleft m).1 hm)
  count := by
    intro m hm
    rw [h.count m hm]
    simp only [hleft]

end Tally

/-! ## What is kept between starts and shutdowns -/

/-- What the releasing of listeners depends on: the server and its threads, the number of the next
listener, the listeners that have been made and closed, and the refused starts of threads. -/
structure Account where
  server : Server
  threads : Threads
  next : Nat
  made : List Nat
  closed : List Nat
  stranded : List (Nat × Option Nat)

namespace Account

variable {a : Account} {l : Listener} {number : Nat}

/-- The threads for accepting connections that could not be started. -/
def unstarted (a : Account) : List Nat := a.stranded.map Prod.fst

/-- The listeners for which there is no thread to accept connections, as it could not be started. -/
def forsaken (a : Account) : List Nat := a.stranded.filterMap Prod.snd

/-- The listeners that are open: the forsaken ones, and the server's own while it runs. -/
def unclosed (a : Account) : List Nat :=
  a.forsaken ++ if a.server.running then a.server.current else []

structure Sound (a : Account) : Prop where
  tally : Tally a.made a.closed a.unclosed a.next
  unstarted_lt : ∀ number ∈ a.unstarted, number < a.threads.made
  /-- A thread that was started has had its turn, or a shutdown waits for it. -/
  started : ∀ number, a.threads.started = some number →
    number < a.threads.made ∧ number ∉ a.unstarted ∧
      (number ∈ a.threads.begun ∨
        a.server.running = true ∧ a.server.acceptThread = some number)
  /-- A server runs with a listener and a thread, which was not started if the listener is
  forsaken. -/
  running : a.server.running = true → ∃ l number, a.server.listener = some l ∧
    a.server.acceptThread = some number ∧ (number ∈ a.unstarted ↔ l.number ∈ a.forsaken)
  /-- A server that does not run has a listener only if that is forsaken. -/
  left : a.server.running = false → ∀ l, a.server.listener = some l → l.number ∈ a.forsaken

theorem unclosed_of_not_running (hrun : a.server.running = false) : a.unclosed = a.forsaken := by
  simp [unclosed, hrun]

theorem mem_unclosed_of_running (hrun : a.server.running = true)
    (hlistener : a.server.listener = some l) :
    number ∈ a.unclosed ↔ number ∈ a.forsaken ∨ number = l.number := by
  simp [unclosed, hrun, Server.current, hlistener]

/-- A server that has just been made. -/
theorem sound_new {server : Server} {threads : Threads} (hrun : server.running = false)
    (hlistener : server.listener = none) (hstarted : threads.started = none) :
    Sound ⟨server, threads, 0, [], [], []⟩ where
  tally := by
    rw [unclosed_of_not_running hrun]
    exact ⟨by simp, by simp, by simp [forsaken], by simp⟩
  unstarted_lt := by simp [unstarted]
  started number hnumber := by cases hstarted.symm.trans hnumber
  running hrunning := by cases hrun.symm.trans hrunning
  left _ l hl := by cases hlistener.symm.trans hl

namespace Sound

variable (h : a.Sound)

include h

theorem begun_of_not_running (hrun : a.server.running = false)
    (hnumber : a.threads.started = some number) : number ∈ a.threads.begun := by
  obtain ⟨_, _, hbegun | ⟨hrunning, _⟩⟩ := h.started number hnumber
  · exact hbegun
  · cases hrun.symm.trans hrunning

theorem turn {begun : List Nat} (hbegun : a.threads.begun ⊆ begun) :
    Sound { a with threads := { a.threads with begun := begun } } where
  tally := h.tally
  unstarted_lt := h.unstarted_lt
  started number hnumber := by
    obtain ⟨hmade, hnot, hturn⟩ := h.started number hnumber
    exact ⟨hmade, hnot, hturn.imp_left fun hmem => hbegun hmem⟩
  running := h.running
  left := h.left

/-- A listener cannot be made. -/
theorem skip : Sound { a with next := a.next + 1 } where
  tally := h.tally.skip
  unstarted_lt := h.unstarted_lt
  started := h.started
  running := h.running
  left := h.left

/-- A listener is made and closed. -/
theorem discard :
    Sound { a with
      next := a.next + 1, made := a.next :: a.made, closed := a.next :: a.closed } where
  tally := by
    refine h.tally.make.close List.mem_cons_self fun m => ?_
    show m ∈ a.unclosed ↔ _
    constructor
    · intro hm
      refine ⟨List.mem_cons_of_mem _ hm, ?_⟩
      rintro rfl
      exact h.tally.notMem_left hm
    · rintro ⟨hm, hne⟩
      exact (List.mem_cons.1 hm).resolve_left hne
  unstarted_lt := h.unstarted_lt
  started := h.started
  running := h.running
  left := h.left

/-- A server is bound, and the thread that accepts connections for it is started. -/
theorem start (hrun : a.server.running = false) (name : List Value) :
    Sound { a with
      server := { a.server with
        running := true
        listener := some ⟨a.next, name⟩
        acceptThread := some a.threads.made }
      threads := { a.threads with made := a.threads.made + 1, started := some a.threads.made }
      next := a.next + 1
      made := a.next :: a.made } where
  tally := by
    refine h.tally.make.congr fun m => ?_
    rw [mem_unclosed_of_running rfl rfl, List.mem_cons, unclosed_of_not_running hrun, or_comm]
    rfl
  unstarted_lt number hnumber := Nat.lt_succ_of_lt (h.unstarted_lt number hnumber)
  started := by
    intro number hnumber
    obtain rfl := Option.some.inj hnumber
    refine ⟨Nat.lt_succ_self _, ?_, .inr ⟨rfl, rfl⟩⟩
    exact fun hmem => Nat.lt_irrefl _ (h.unstarted_lt _ hmem)
  running := by
    refine fun _ => ⟨_, _, rfl, rfl, ?_⟩
    constructor
    · intro hmem
      exact absurd (h.unstarted_lt _ hmem) (Nat.lt_irrefl _)
    · intro hmem
      have hleft : a.next ∈ a.unclosed := by
        rw [unclosed_of_not_running hrun]
        exact hmem
      exact absurd hleft h.tally.notMem_left
  left hrunning := by cases hrunning

/-- A server is bound, and the thread that accepts connections for it cannot be started. -/
theorem strand (hrun : a.server.running = false) (name : List Value) :
    Sound { a with
      server := { a.server with
        running := true
        listener := some ⟨a.next, name⟩
        acceptThread := some a.threads.made }
      threads := { a.threads with made := a.threads.made + 1 }
      next := a.next + 1
      made := a.next :: a.made
      stranded := (a.threads.made, some a.next) :: a.stranded } where
  tally := by
    refine h.tally.make.congr fun m => ?_
    rw [mem_unclosed_of_running rfl rfl, unclosed_of_not_running hrun]
    show m ∈ a.next :: a.forsaken ∨ m = a.next ↔ m ∈ a.next :: a.forsaken
    constructor
    · rintro (hm | rfl)
      · exact hm
      · exact List.mem_cons_self
    · exact .inl
  unstarted_lt := by
    intro number hnumber
    rcases List.mem_cons.1 hnumber with rfl | hnumber
    · exact Nat.lt_succ_self _
    · exact Nat.lt_succ_of_lt (h.unstarted_lt number hnumber)
  started := by
    intro number hnumber
    obtain ⟨hmade, hnot, _⟩ := h.started number hnumber
    refine ⟨Nat.lt_succ_of_lt hmade, ?_, .inl (h.begun_of_not_running hrun hnumber)⟩
    exact List.not_mem_cons_of_ne_of_not_mem (Nat.ne_of_lt hmade) hnot
  running _ := ⟨_, _, rfl, rfl, fun _ => List.mem_cons_self, fun _ => List.mem_cons_self⟩
  left hrunning := by cases hrunning

variable (hrun : a.server.running = true) (hlistener : a.server.listener = some l)
  (hthread : a.server.acceptThread = some number)

include hrun hlistener hthread

/-- The thread of a server that runs could not be started exactly when the listener is forsaken. -/
theorem unstarted_iff : number ∈ a.unstarted ↔ l.number ∈ a.forsaken := by
  obtain ⟨l', number', hlistener', hthread', hiff⟩ := h.running hrun
  obtain rfl := Option.some.inj (hlistener.symm.trans hlistener')
  obtain rfl := Option.some.inj (hthread.symm.trans hthread')
  exact hiff

/-- A server is shut down. -/
theorem stop (hnumber : number ∉ a.unstarted) {begun : List Nat}
    (hbegun : a.threads.begun ⊆ begun) (hturn : number ∈ begun) :
    Sound { a with
      server := { a.server with running := false, acceptThread := none, listener := none }
      threads := { a.threads with begun := begun }
      closed := l.number :: a.closed } where
  tally := by
    have hforsaken := (h.unstarted_iff hrun hlistener hthread).not.1 hnumber
    refine h.tally.close ((mem_unclosed_of_running hrun hlistener).2 (.inr rfl)) fun m => ?_
    rw [unclosed_of_not_running rfl, mem_unclosed_of_running hrun hlistener]
    show m ∈ a.forsaken ↔ _
    constructor
    · intro hm
      refine ⟨.inl hm, ?_⟩
      rintro rfl
      exact hforsaken hm
    · rintro ⟨hm, hne⟩
      exact hm.resolve_right hne
  unstarted_lt := h.unstarted_lt
  started := by
    intro m hm
    obtain ⟨hmade, hnot, hbegun' | ⟨_, hthread'⟩⟩ := h.started m hm
    · exact ⟨hmade, hnot, .inl (hbegun hbegun')⟩
    · obtain rfl := Option.some.inj (hthread.symm.trans hthread')
      exact ⟨hmade, hnot, .inl hturn⟩
  running hrunning := by cases hrunning
  left _ l hl := by cases hl

/-- A server is told to stop, but the thread that accepts connections for it was not started. -/
theorem abandon (hnumber : number ∈ a.unstarted) :
    Sound { a with server := { a.server with running := false } } where
  tally := by
    have hforsaken := (h.unstarted_iff hrun hlistener hthread).1 hnumber
    refine h.tally.congr fun m => ?_
    rw [unclosed_of_not_running rfl, mem_unclosed_of_running hrun hlistener]
    constructor
    · exact .inl
    · rintro (hm | rfl)
      · exact hm
      · exact hforsaken
  unstarted_lt := h.unstarted_lt
  started := by
    intro m hm
    obtain ⟨hmade, hnot, hbegun | ⟨_, hthread'⟩⟩ := h.started m hm
    · exact ⟨hmade, hnot, .inl hbegun⟩
    · obtain rfl := Option.some.inj (hthread.symm.trans hthread')
      exact absurd hnumber hnot
  running hrunning := by cases hrunning
  left := by
    intro _ l' hl
    obtain rfl := Option.some.inj (hlistener.symm.trans hl)
    exact (h.unstarted_iff hrun hlistener hthread).1 hnumber

end Sound

end Account

end StaticHttp
