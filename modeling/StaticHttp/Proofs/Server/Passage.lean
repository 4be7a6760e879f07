import StaticHttp.Proofs.Serving.Conduct
import StaticHttp.Server.LifeCycle

/-!
# From one site to another

Most of what happens around a server leaves it as it is or shuts it down, and all else that changes
is the history and which threads have had their turn.  `Passage s halted es t` says this of the way
from `s` to `t` with the events `es`; passages can be put one behind the other.

    Passage s a es t → Passage t b fs u → Passage s (a || b) (es ++ fs) u        (Passage.trans)
-/

namespace StaticHttp

namespace History

/-- The history with more events. -/
def append (h : History) (es : List Event) : History := ⟨es.reverse ++ h.newestFirst⟩

theorem toList_append (h : History) (es : List Event) : (h.append es).toList = h.toList ++ es := by
  simp [toList, append]

theorem append_append (h : History) (es fs : List Event) :
    (h.append es).append fs = h.append (es ++ fs) := by
  simp [append]

theorem push_eq_append (h : History) (e : Event) : h.push e = h.append [e] := rfl

theorem append_cons (h : History) (e : Event) (es : List Event) :
    h.append (e :: es) = (h.push e).append es := by
  rw [push_eq_append, append_append]
  rfl

/-- What holds of a history and is kept by each of some events holds after all of them. -/
theorem append_induction {p : History → Prop} {h : History} {es : List Event} (hh : p h)
    (hpush : ∀ e ∈ es, ∀ k, p k → p (k.push e)) : p (h.append es) := by
  induction es generalizing h with
  | nil => exact hh
  | cons e es ih =>
    obtain ⟨he, hes⟩ := List.forall_mem_cons.1 hpush
    rw [append_cons]
    exact ih (he h hh) hes

/-- What none of some events changes is not changed by all of them. -/
theorem apply_append {α : Type} (f : History → α) {es : List Event}
    (hpush : ∀ e ∈ es, ∀ k, f (k.push e) = f k) (h : History) : f (h.append es) = f h :=
  append_induction (p := fun k => f k = f h) rfl fun e he k hk => (hpush e he k).trans hk

theorem eq_append {h k : History} {es : List Event} (hk : k.toList = h.toList ++ es) :
    k = h.append es := by
  obtain ⟨new⟩ := k
  obtain ⟨old⟩ := h
  have := congrArg List.reverse hk
  simp only [toList, List.reverse_append, List.reverse_reverse] at this
  rw [append, this]

end History

/-! ## Events -/

namespace Event

/-- Whether an event is a call on a listener. -/
def ofListener : Event → Bool
  | .listener _ _ => true
  | _ => false

/-- Whether an event is a call by which a server is bound, started or shut down. -/
def isOwn : Event → Bool
  | .listener _ _ => true
  | .startThread (.accepting _) _ => true
  | .joinThread _ _ => true
  | _ => false

/-- Whether an event is more than an entry below a warning, and no part of a shutdown: a shutdown
waits for a thread and closes a listener. -/
def isDeed : Event → Bool
  | .log entry => Log.warning ≤ entry.level
  | .listener _ _ => false
  | .joinThread _ _ => false
  | _ => true

theorem ofListener_of_isOwn {e : Event} (h : e.isOwn = false) : e.ofListener = false := by
  cases e with
  | listener number call => cases h
  | _ => rfl

end Event

/-- The events that are deeds. -/
def deeds (es : List Event) : List Event := es.filter Event.isDeed

@[simp] theorem deeds_append (es fs : List Event) : deeds (es ++ fs) = deeds es ++ deeds fs :=
  List.filter_append ..

theorem deeds_cons (e : Event) (es : List Event) : deeds (e :: es) = deeds [e] ++ deeds es :=
  deeds_append [e] es

theorem deeds_log_of_lt {level : Int} (h : level < Log.warning) (source message : Text) :
    deeds [.log ⟨source, level, message⟩] = [] := by
  have hlevel : ¬ Log.warning ≤ level := by omega
  simp [deeds, Event.isDeed, hlevel]

theorem Event.ofListener_of_ofService {e : Event} (h : e.OfService) : e.ofListener = false := by
  cases e with
  | listener number call => exact h.elim
  | _ => rfl

/-! ## Sites -/

namespace Server

/-- The server after it has been shut down. -/
def halted (s : Server) : Server :=
  { s with running := false, listener := none, acceptThread := none }

/-- The calls on its listener by which a server is shut down. -/
def closing (s : Server) : List Event :=
  s.listener.toList.map fun l => .listener l.number .close

end Server

namespace Site

/-- No thread that accepts connections is left that would bind the server when it has its turn. -/
def Settled (s : Site) : Prop :=
  ∀ number, s.threads.started = some number →
    number ∈ s.threads.begun ∨ s.server.listener.isSome = true

/-- The events of a computation on a site. -/
def events {α : Type} (m : Run Site α) (s : Site) : List Event :=
  (Run.after m s).history.since s.history.size

/-- All that has changed between `s` and `t` are the history, by the events `es`, the threads that
have had their turn, and the server perhaps. -/
structure Moves (s : Site) (es : List Event) (t : Site) : Prop where
  history : t.history = s.history.append es
  outside : t.outside = s.outside
  listeners : t.listeners = s.listeners
  made : t.threads.made = s.threads.made
  started : t.threads.started = s.threads.started
  begun : s.threads.begun ⊆ t.threads.begun

/-- The server is at most shut down on the way from `s` to `t`. -/
structure Passage (s : Site) (halted : Bool) (es : List Event) (t : Site) : Prop
    extends Moves s es t where
  server : t.server = if halted then s.server.halted else s.server
  /-- Only a server that runs is shut down. -/
  running : halted = true → s.server.running = true
  /-- The thread that accepts connections has had its turn when the server is shut down. -/
  joined : halted = true → ∀ number, s.server.acceptThread = some number →
    number ∈ t.threads.begun
  /-- The only call on a listener is the one that closes the server's. -/
  closing : es.filter Event.ofListener = if halted then s.server.closing else []

namespace Moves

variable {s t u : Site} {es fs : List Event}

/-- More events, and another server perhaps. -/
theorem append (s : Site) (es : List Event) (server : Server) :
    Moves s es { s with history := s.history.append es, server := server } :=
  ⟨rfl, rfl, rfl, rfl, rfl, fun _ h => h⟩

theorem trans (h : Moves s es t) (h' : Moves t fs u) : Moves s (es ++ fs) u := by
  constructor
  · rw [h'.history, h.history, History.append_append]
  · rw [h'.outside, h.outside]
  · rw [h'.listeners, h.listeners]
  · rw [h'.made, h.made]
  · rw [h'.started, h.started]
  · exact fun n hn => h'.begun (h.begun hn)

end Moves

namespace Passage

variable {s t u : Site} {a b : Bool} {es fs : List Event}

/-- More events, none of them on a listener. -/
theorem append (s : Site) (h : es.filter Event.ofListener = []) :
    Passage s false es { s with history := s.history.append es } :=
  ⟨.append s es s.server, rfl, by simp, by simp, h⟩

theorem push (s : Site) {e : Event} (h : e.ofListener = false) : Passage s false [e] (s.push e) :=
  append s (by simp [h])

theorem refl (s : Site) : Passage s false [] s := append s rfl

theorem trans (h : Passage s a es t) (h' : Passage t b fs u) :
    Passage s (a || b) (es ++ fs) u := by
  have hserver := h.server
  have hserver' := h'.server
  have hrunning' := h'.running
  have hclosing' := h'.closing
  cases a with
  | true =>
    -- a server that has been shut down is not shut down again
    have hb : b = false := by
      cases b with
      | false => rfl
      | true =>
        have hrun := hrunning' rfl
        rw [hserver] at hrun
        cases hrun
    subst hb
    refine ⟨h.toMoves.trans h'.toMoves, ?_, fun _ => h.running rfl, ?_, ?_⟩
    · exact hserver'.trans hserver
    · intro _ number hnumber
      exact h'.begun (h.joined rfl number hnumber)
    · rw [List.filter_append, h.closing, hclosing']
      exact List.append_nil _
  | false =>
    have hsame : t.server = s.server := hserver
    rw [hsame] at hserver' hrunning' hclosing'
    refine ⟨h.toMoves.trans h'.toMoves, hserver', hrunning', ?_, ?_⟩
    · intro hb number hnumber
      exact h'.joined hb number (by rw [hsame, hnumber])
    · rw [List.filter_append, h.closing, hclosing']
      rfl

/-- A site to which a server that runs comes, with no shutdown on the way. -/
theorem server_eq (h : Passage s false es t) : t.server = s.server := h.server

theorem not_running (h : Passage s true es t) : t.server.running = false := by
  rw [h.server]
  rfl

end Passage

end Site

end StaticHttp
