import Mathlib.Data.List.Nodup
import StaticHttp.Proofs.Server.Orderly

/-!
# The ledger of listeners

The history tells which listeners have been made and which have been closed.  Between the operations
of a server the listeners that have been made are the server's own and those that have been closed,
each once: nothing is left open and nothing is closed twice.

    h.opened fails = current ++ h.closed                                         (Kept.opened)
-/

namespace StaticHttp

namespace Event

/-- The listener that is to be made by a call. -/
def created? : Event → Option Nat
  | .listener number .create => some number
  | _ => none

/-- The listener that is closed by a call. -/
def closed? : Event → Option Nat
  | .listener number .close => some number
  | _ => none

/-- The thread for accepting connections that is to be started. -/
def accepting? : Event → Option Nat
  | .startThread (.accepting number) _ => some number
  | _ => none

theorem created?_of_ofListener {e : Event} (h : e.ofListener = false) : e.created? = none := by
  cases e with
  | listener number call => cases h
  | _ => rfl

theorem closed?_of_ofListener {e : Event} (h : e.ofListener = false) : e.closed? = none := by
  cases e with
  | listener number call => cases h
  | _ => rfl

theorem accepting?_of_isOwn {e : Event} (h : e.isOwn = false) : e.accepting? = none := by
  cases e with
  | startThread purpose name =>
    cases purpose with
    | accepting number => cases h
    | serving number => rfl
  | _ => rfl

end Event

namespace History

variable {fails : History → Event → Option Failure}

/-- The listeners that have been made by some events, the newest first.  A call that fails makes
none. -/
def openedIn (fails : History → Event → Option Failure) : List Event → List Nat
  | [] => []
  | e :: past =>
    match e.created? with
    | some number =>
      if (fails ⟨past⟩ e).isNone then number :: openedIn fails past else openedIn fails past
    | none => openedIn fails past

/-- The listeners that have been made, the newest first. -/
def opened (fails : History → Event → Option Failure) (h : History) : List Nat :=
  openedIn fails h.newestFirst

/-- The listeners that have been closed, the last one first. -/
def closed (h : History) : List Nat := h.newestFirst.filterMap Event.closed?

theorem opened_push_create (h : History) (number : Nat) :
    (h.push (.listener number .create)).opened fails =
      if (fails h (.listener number .create)).isNone then number :: h.opened fails
      else h.opened fails := rfl

theorem opened_push {e : Event} (he : e.created? = none) (h : History) :
    (h.push e).opened fails = h.opened fails := by
  rw [opened, push, openedIn, he]
  rfl

/-- Only calls on listeners make any. -/
theorem opened_append {es : List Event} (h : History)
    (hes : ∀ e ∈ es.filter Event.ofListener, e.created? = none) :
    (h.append es).opened fails = h.opened fails := by
  refine apply_append (opened fails) (fun e he k => opened_push ?_ k) h
  cases hl : e.ofListener with
  | true => exact hes e (List.mem_filter.2 ⟨he, hl⟩)
  | false => exact Event.created?_of_ofListener hl

/-- Only calls on listeners close any. -/
theorem closed_append (h : History) (es : List Event) :
    (h.append es).closed =
      ((es.filter Event.ofListener).filterMap Event.closed?).reverse ++ h.closed := by
  induction es generalizing h with
  | nil => rfl
  | cons e es ih =>
    rw [append_cons, ih]
    cases hl : e.ofListener with
    | true =>
      rw [List.filter_cons_of_pos hl]
      cases hc : e.closed? with
      | none => simp [closed, push, hc]
      | some number => simp [closed, push, hc]
    | false =>
      rw [List.filter_cons_of_neg (by rw [hl]; exact Bool.false_ne_true)]
      simp [closed, push, Event.closed?_of_ofListener hl]

end History

namespace Server

/-- The number of the server's listener, if it has one. -/
def current (s : Server) : List Nat := s.listener.toList.map Listener.number

theorem filterMap_closing (s : Server) : s.closing.filterMap Event.closed? = s.current := by
  rw [closing, current]
  cases s.listener <;> rfl

theorem created?_closing (s : Server) : ∀ e ∈ s.closing, e.created? = none := by
  intro e he
  obtain ⟨l, _, rfl⟩ := List.mem_map.1 he
  rfl

theorem reverse_current (s : Server) : s.current.reverse = s.current := by
  rw [current]
  cases s.listener <;> rfl

end Server

namespace Site

/-- What holds between the operations of a server. -/
structure Kept (s : Site) : Prop where
  /-- The server runs when it has a listener. -/
  running : s.server.running = s.server.listener.isSome
  /-- All the listeners but the server's own have been closed, each once. -/
  opened : s.history.opened s.outside.fails = s.server.current ++ s.history.closed
  nodup : (s.history.opened s.outside.fails).Nodup
  /-- Numbers are not used twice. -/
  below : ∀ number ∈ s.history.opened s.outside.fails, number < s.listeners
  /-- The thread that accepts connections has had its turn, or it is the one that the server waits
  for when it is shut down. -/
  settled : ∀ number, s.threads.started = some number →
    number ∈ s.threads.begun ∨
      s.server.acceptThread = some number ∧ s.server.listener.isSome = true

namespace Kept

variable {s t : Site} {a : Bool} {es : List Event}

theorem toSettled (hs : s.Kept) : s.Settled := by
  intro number hnumber
  rcases hs.settled number hnumber with hbegun | ⟨_, hlistener⟩
  · exact .inl hbegun
  · exact .inr hlistener

theorem listener_eq_none (hs : s.Kept) (hrun : s.server.running = false) :
    s.server.listener = none := by
  rw [hs.running] at hrun
  exact Option.isNone_iff_eq_none.1 (by rw [← Option.not_isSome, hrun]; rfl)

theorem later (hs : s.Kept) (n : Nat) : (s.later n).Kept where
  running := hs.running
  opened := hs.opened
  nodup := hs.nodup
  below := hs.below
  settled := hs.settled

/-- What is kept is kept when a thread has its turn. -/
theorem turn (hs : s.Kept) (n : Nat) :
    Kept { s with threads := { s.threads with begun := n :: s.threads.begun } } where
  running := hs.running
  opened := hs.opened
  nodup := hs.nodup
  below := hs.below
  settled := by
    intro number hnumber
    rcases hs.settled number hnumber with hbegun | hthread
    · exact .inl (List.mem_cons_of_mem n hbegun)
    · exact .inr hthread

/-- No thread is waited for when the server does not run. -/
theorem begun (hs : s.Kept) (hrun : s.server.running = false) {number : Nat}
    (hnumber : s.threads.started = some number) : number ∈ s.threads.begun := by
  rcases hs.settled number hnumber with hbegun | ⟨_, hlistener⟩
  · exact hbegun
  · rw [← hs.running, hrun] at hlistener
    cases hlistener

theorem listener_isSome (hs : s.Kept) (hrun : s.server.running = true) :
    s.server.listener.isSome = true := by
  rw [← hs.running, hrun]

/-- Every listener that was made is the server's own or has been closed once. -/
theorem count_closed (hs : s.Kept) {number : Nat}
    (hnumber : number ∈ s.history.opened s.outside.fails) :
    s.history.closed.count number = if number ∈ s.server.current then 0 else 1 := by
  have hcount := List.count_eq_one_of_mem hs.nodup hnumber
  rw [hs.opened, List.count_append] at hcount
  have hnodup : s.server.current.Nodup := by
    have hboth := hs.nodup
    rw [hs.opened] at hboth
    exact hboth.of_append_left
  by_cases hcurrent : number ∈ s.server.current
  · rw [List.count_eq_one_of_mem hnodup hcurrent] at hcount
    rw [if_pos hcurrent]
    omega
  · rw [List.count_eq_zero_of_not_mem hcurrent] at hcount
    rw [if_neg hcurrent]
    omega

/-- What is kept is kept on a passage: a server that is shut down closes its listener. -/
theorem passage (hs : s.Kept) (h : Passage s a es t) : t.Kept := by
  have hfails : t.outside.fails = s.outside.fails := by rw [h.outside]
  have hopened : t.history.opened t.outside.fails = s.history.opened s.outside.fails := by
    rw [hfails, h.history]
    apply History.opened_append
    rw [h.closing]
    cases a with
    | true => exact s.server.created?_closing
    | false => simp
  have hclosed : t.server.current ++ t.history.closed = s.server.current ++ s.history.closed := by
    rw [h.server, h.history, History.closed_append, h.closing]
    cases a with
    | true =>
      rw [if_pos rfl, if_pos rfl, s.server.filterMap_closing, s.server.reverse_current]
      rfl
    | false => rfl
  refine ⟨?_, ?_, ?_, ?_, ?_⟩
  · rw [h.server]
    cases a with
    | true => rfl
    | false => exact hs.running
  · rw [hopened, hs.opened, hclosed]
  · rw [hopened]
    exact hs.nodup
  · rw [hopened, h.listeners]
    exact hs.below
  · intro number hnumber
    rw [h.started] at hnumber
    rcases hs.settled number hnumber with hbegun | ⟨hthread, hlistener⟩
    · exact .inl (h.begun hbegun)
    · cases a with
      | true => exact .inl (h.joined rfl number hthread)
      | false =>
        rw [h.server_eq]
        exact .inr ⟨hthread, hlistener⟩

end Kept

end Site

end StaticHttp
