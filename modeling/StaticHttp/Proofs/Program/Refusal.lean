import StaticHttp.Proofs.Program.Signals
import StaticHttp.Proofs.Server.Releasing

/-!
# A start that is refused

When a listener has been made and cannot be set up, all depends on whether it is the operating
system that refuses.  If it is, then the listener is closed, the start says that the server does not
run, and the program ends with a status of its own.  Any other failure, such as that of a port that
is out of range or that is no number, leaves the listener open and ends the program.  The server is
left as it is in either case.

    s.Unfit f → Server.start s = if f.isSystem then .ok false t else .error f t       (start_unfit)
-/

namespace StaticHttp

namespace Site

/-- The server does not run, its next listener can be made but not set up, and closing it does not
fail. -/
structure Unfit (s : Site) (f : Failure) : Prop where
  running : s.server.running = false
  calm : s.outside.Calm
  creation : s.outside.fails s.history s.creation = none
  unfit : s.unfit? = some f
  closes : s.outside.fails (s.history.append (s.creation :: s.tried)) s.discard = none

/-- The events of a start that is refused. -/
def refusing (s : Site) (f : Failure) : List Event :=
  s.creation :: s.tried ++
    if f.isSystem then [s.discard, startReport s.server.config f] else []

/-- The listener is closed when the operating system refuses, and only then. -/
theorem closed_refusing (s : Site) (f : Failure) :
    (s.history.append (s.refusing f)).closed =
      if f.isSystem then s.listeners :: s.history.closed else s.history.closed := by
  have htried : (s.history.append (s.creation :: s.tried)).closed = s.history.closed := by
    obtain ⟨_, hclosed, _⟩ :=
      History.append_neutral s.outside.fails (neutral_tried s) (s.history.push s.creation)
    rw [History.append_cons, hclosed, History.closed_push rfl]
  rw [refusing, ← History.append_append]
  cases f.isSystem with
  | false => exact htried
  | true => exact congrArg (List.cons s.listeners) htried

variable {s : Site} {f : Failure}

namespace Unfit

theorem start_of_isSystem (h : s.Unfit f) (hf : f.isSystem = true) :
    Server.start s = .ok false (s.opening (s.refusing f) s.server) := by
  have hopen := openListener_calm_closed (perform s.depth) h.calm h.creation h.unfit hf
  rw [h.closes] at hopen
  have hlaunch := launch_of_refused h.running hopen hf
  rw [push_opening] at hlaunch
  refine hlaunch.trans ?_
  rw [refusing, if_pos hf, List.append_assoc]
  rfl

theorem start_of_not_isSystem (h : s.Unfit f) (hf : f.isSystem = false) :
    Server.start s = .error f (s.opening (s.refusing f) s.server) := by
  have hopen := openListener_calm_left (perform s.depth) h.calm h.creation h.unfit hf
  have hlaunch := launch_of_broken h.running hopen hf
  refine hlaunch.trans ?_
  rw [refusing, if_neg (by rw [hf]; exact Bool.false_ne_true), List.append_nil]

end Unfit

end Site

namespace Program

/-- The program comes to start a server at a site. -/
structure Starts (p : Program) (c : Options.Choices) (s : Site) : Prop where
  chosen : Options.read p.name p.arguments = .chosen c
  configured : ∃ loaded, (p.configure c).outcome = .ok loaded
  logged : Run.outcome p.setUpLogging (p.site c) = .ok ()
  arrives : opened (p.site c) = s

variable {p : Program} {c : Options.Choices} {s : Site} {f : Failure}

/-- How the program ends, from how it serves. -/
theorem Starts.run_eq (h : p.Starts c s) :
    p.run.1 =
      match Run.outcome p.serve (p.site c) with
      | .ok status => .finished status
      | .error f => .failed f := by
  obtain ⟨loaded, hloaded⟩ := h.configured
  have hrun : p.run = p.runWith c := by
    rw [run, h.chosen]
  rw [hrun]
  unfold runWith Run.outcome site
  simp only [hloaded]
  generalize p.serve _ = result
  cases result <;> rfl

theorem Starts.serve_eq (h : p.Starts c s) :
    p.serve (p.site c) = (Server.start >>= fun started =>
      if started then Server.waitForShutdown >>= fun _ => pure 0 else pure 1) s := by
  rw [serve_of_logged p h.logged, h.arrives]

/-- The program ends with a status when the operating system refuses, and with the failure if
not. -/
theorem Starts.run_of_unfit (h : p.Starts c s) (hs : s.Unfit f) :
    p.run.1 = if f.isSystem then .finished 1 else .failed f := by
  rw [h.run_eq]
  cases hf : f.isSystem with
  | true =>
    have hserve := h.serve_eq.trans (Run.bind_of_ok (hs.start_of_isSystem hf) _)
    rw [Run.outcome_of_ok hserve]
    rfl
  | false =>
    have hserve := h.serve_eq.trans (Run.bind_of_error (hs.start_of_not_isSystem hf) _)
    rw [Run.outcome_of_error hserve]
    rfl

end Program

/-! ## The contract -/

namespace Server

open Site

/-- **A start that the operating system refuses comes to nothing**: the listener is closed, and the
program ends with a status.  Any other failure leaves the listener open and ends the program. -/
theorem start_unfit {s : Site} {f : Failure} (hs : s.Unfit f) :
    (∃ t, start s = (if f.isSystem then .ok false t else .error f t) ∧ t.server = s.server ∧
      t.history = s.history.append (s.refusing f) ∧
      t.history.closed = if f.isSystem then s.listeners :: s.history.closed else s.history.closed) ∧
    ∀ (p : Program) (c : Options.Choices), p.Starts c s →
      p.run.1 = if f.isSystem then .finished 1 else .failed f := by
  refine ⟨⟨s.opening (s.refusing f) s.server, ?_, rfl, rfl, closed_refusing s f⟩,
    fun p c h => h.run_of_unfit hs⟩
  cases hf : f.isSystem with
  | true => exact hs.start_of_isSystem hf
  | false => exact hs.start_of_not_isSystem hf

/-- The address is in use. -/
def addressInUse : Failure := .system (.numbered 98 "Address already in use")

/-- The program without arguments when its address is in use. -/
def occupied : Program := { Program.plain Program.undisturbed with outside := inUse }

/-- What is chosen by no arguments. -/
def unchosen : Options.Choices := ⟨.null, []⟩

theorem start_unfit_inUse :
    (Program.opened (occupied.site unchosen)).Unfit addressInUse ∧
      occupied.Starts unchosen (Program.opened (occupied.site unchosen)) ∧
      (∃ t, start (Program.opened (occupied.site unchosen)) = .ok false t ∧
        t.server = (Program.opened (occupied.site unchosen)).server ∧
        t.history.closed = [0]) ∧
      occupied.run.1 = .finished 1 := by
  have hs : (Program.opened (occupied.site unchosen)).Unfit addressInUse :=
    ⟨rfl, fun _ _ _ => rfl, rfl, rfl, rfl⟩
  have hp : occupied.Starts unchosen (Program.opened (occupied.site unchosen)) :=
    ⟨rfl, ⟨_, rfl⟩, rfl, rfl⟩
  obtain ⟨⟨t, hstart, hserver, _, hclosed⟩, hrun⟩ := start_unfit hs
  exact ⟨hs, hp, ⟨t, hstart, hserver, hclosed⟩, hrun occupied unchosen hp⟩

/-- What is said of a port that no address has. -/
def outOfRange : Failure := .tooLarge "bind(): port must be 0-65535."

/-- What is said of a port that is a text. -/
def notNumber : Failure := .badSort "'str' object cannot be interpreted as an integer"

/-- Only ports that addresses have can be bound to. -/
def strict : Outside :=
  { Outside.quiet with
    fails := fun _ e => match e with
      | .listener _ (.bind _ (.int port)) =>
        if 0 ≤ port ∧ port ≤ 65535 then none else some outOfRange
      | .listener _ (.bind _ (.text _)) => some notNumber
      | _ => none }

/-- A server that has just been made for a port. -/
def forPort (port : Value) : Site :=
  ofServer (ofConfig (Config.standard.set "port" port) fun _ _ => .ok []) strict .empty

/-- The program that is asked to listen on a port out of range. -/
def misdirected : Program :=
  { Program.plain Program.undisturbed with arguments := ["-p", "70000"], outside := strict }

/-- For a port that is out of range or no number a start fails and leaves the listener open, and the
program fails. -/
theorem start_breaks :
    (∃ t, start (forPort (.int 70000)) = .error outOfRange t ∧
      t.history.opened t.outside.fails = [0] ∧ t.history.closed = []) ∧
    (∃ t, start (forPort (.text "http")) = .error notNumber t ∧
      t.history.opened t.outside.fails = [0] ∧ t.history.closed = []) ∧
    misdirected.run.1 = .failed outOfRange :=
  ⟨⟨_, rfl, rfl, rfl⟩, ⟨_, rfl, rfl, rfl⟩, rfl⟩

end Server

end StaticHttp
