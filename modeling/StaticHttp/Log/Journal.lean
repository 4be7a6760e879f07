import StaticHttp.History
import StaticHttp.Log.Logger

/-!
# What a history has written

Logging is told by the history: a logger goes through the events from the oldest on, handles each
entry, and is set up anew where the history says so.  Its console, its level and its files are
therefore known for every history.

    after (h.push e) = (after h).witness e (the second of e)          (after_push)
-/

namespace StaticHttp.Log

/-- When the next event happens, given what has happened before it. -/
abbrev Clock := History → Int

/-- The logger after an event at the given second. -/
def Logger.witness (s : Logger) (e : Event) (second : Int) : Logger :=
  match e with
  | .log entry => s.handle ⟨entry, second⟩
  | .setUpLogging settings => (s.setUp settings second).2
  | _ => s

/-- A journal: the logger before anything has happened, and a clock. -/
structure Journal where
  start : Logger
  clock : Clock

namespace Journal

/-- The logger after events, given the newest first. -/
def afterEvents (j : Journal) : List Event → Logger
  | [] => j.start
  | e :: past => (j.afterEvents past).witness e (j.clock ⟨past⟩)

/-- The logger after a history. -/
def after (j : Journal) (h : History) : Logger := j.afterEvents h.newestFirst

@[simp] theorem after_empty (j : Journal) : j.after .empty = j.start := rfl

@[simp] theorem after_push (j : Journal) (h : History) (e : Event) :
    j.after (h.push e) = (j.after h).witness e (j.clock h) := rfl

end Journal

end StaticHttp.Log
