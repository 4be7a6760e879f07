import StaticHttp.Program
import StaticHttp.Proofs.Server.Heeding
import StaticHttp.Proofs.Server.LifeCycle

/-!
# The program and its signals

When no signal comes before the thread is being started that accepts connections, and nothing
refuses to wait for that thread or to close a listener (`LetsStop`), the program stops as soon as
one comes: it accepts nothing and pauses no more, the server is shut down and every listener is
closed.  Nothing like that can be said of signals that come earlier.  One that comes while the
server is being bound is lost: the server does not run yet, so there is nothing to shut down, and
then it runs.  One that comes while its address is logged shuts it down, and all the same a thread
is started for it after that.

    p.run.2.Heeded ∧ (p.run.2.Told → ...)                                       (run_heedsSignals)
-/

namespace StaticHttp

namespace Site

variable {s t : Site} {fails : History → Event → Option Failure}

/-- A thread has had its turn when the next one is made. -/
theorem Kept.prepared (hs : s.Kept) (hspent : s.Spent) : s.prepared.Kept :=
  { hs with settled := fun number hnumber => .inl (hspent number hnumber) }

end Site

/-! ## The program -/

namespace Event

/-- What happens before the server is started: settings are reported, logging is set up, and signals
are watched for. -/
def Preliminary : Event → Prop
  | .log entry => entry.source = Config.source
  | .setUpLogging _ => True
  | .watchSignal _ => True
  | _ => False

theorem Preliminary.ofListener {e : Event} (h : e.Preliminary) : e.ofListener = false := by
  cases e with
  | listener number call => exact h.elim
  | _ => rfl

end Event

namespace Program

/-- The site at which the program serves with the given choices. -/
def site (p : Program) (c : Options.Choices) : Site :=
  Site.ofServer (Server.ofConfig (p.configure c).config p.load) p.outside
    (History.empty.logAll (p.configure c).report)

/-- The site that the program leaves behind. -/
def left (p : Program) (c : Options.Choices) : Site := Run.after p.serve (p.site c)

/-- What happens at a site before the server is started. -/
def opening (s : Site) : List Event :=
  [.setUpLogging s.server.config.logging, .watchSignal 2, .watchSignal 15]

/-- The site at which the server is started. -/
def opened (s : Site) : Site := { s with history := s.history.append (opening s) }

/-- Whether it comes off or not, setting logging up is recorded and does nothing else to the
site. -/
theorem setUpLogging_ended (p : Program) (s : Site) :
    ∃ fault, p.setUpLogging s =
      Run.ended fault (s.push (.setUpLogging s.server.config.logging)) := by
  let settings := s.server.config.logging
  let result := ((p.journal.after s.history).setUp settings (p.journal.clock s.history)).1
  have heq : p.setUpLogging s = Run.lift result (s.push (.setUpLogging settings)) := rfl
  cases hresult : result with
  | error f => exact ⟨some f, heq.trans (Run.lift_of_error hresult _)⟩
  | ok u => exact ⟨none, heq.trans (Run.lift_of_ok hresult _)⟩

/-- When logging has been set up the server is started. -/
theorem serve_of_logged (p : Program) {s : Site}
    (hlogging : Run.outcome p.setUpLogging s = .ok ()) :
    p.serve s = (Server.start >>= fun started =>
      if started then Server.waitForShutdown >>= fun _ => pure 0 else pure 1) (opened s) := by
  obtain ⟨fault, heq⟩ := setUpLogging_ended p s
  cases fault with
  | none => exact Run.bind_of_ok heq _
  | some f => cases (Run.outcome_of_error heq).symm.trans hlogging

variable {p : Program} {c : Options.Choices}

/-- A program without arguments, in which the given comes in between, and a signal in the second
pause. -/
def plain (interrupts : History → Event → Option Interruption) : Program where
  name := Site.programSource
  arguments := []
  files := Tree.fresh ""
  journal := ⟨.initial false (Tree.fresh ""), fun _ => 0⟩
  outside := { Outside.quiet with interrupts := interrupts, pauses := [none, some (.signal 15)] }

/-- Nothing comes in between. -/
def undisturbed : History → Event → Option Interruption := fun _ _ => none

end Program

end StaticHttp
