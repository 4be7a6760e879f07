import StaticHttp.Log.Journal
import StaticHttp.Options.Reading
import StaticHttp.Server.LifeCycle

/-!
# The program

The program reads its command line, makes a server from the configuration, sets up logging,
watches for the signals that ask it to stop, and serves until it is stopped.

    a command line that is refused or asks for help ends the program with nothing done
-/

namespace StaticHttp

/-- A program that is about to run: its name, its arguments, the files, and the journal and the
outside that it runs with. -/
structure Program where
  name : Text
  arguments : List Text
  files : Tree
  journal : Log.Journal
  outside : Outside

/-- How a program ends: with a text on one of its outputs in place of serving, with a status after
serving, or with a failure. -/
inductive Ending
  | shown (text : Text)
  | refused (text : Text)
  | finished (status : Nat)
  | failed (f : Failure)

namespace Program

/-- Documents are the files of the tree, and the log files as they are by then. -/
def load (p : Program) : Loader := fun h path =>
  Loader.document path ((p.journal.after h).tree.read path)

/-- The path of the configuration file, if one is chosen. -/
def configPath? (c : Options.Choices) : Option Text :=
  match c.configFile with
  | .text path => some path
  | _ => none

/-- The configuration that is chosen. -/
def configure (p : Program) (c : Options.Choices) : Loading :=
  Config.build (Config.look p.files) (configPath? c) c.overrides

/-- The signals that ask a program to stop: an interrupt from the keyboard, and termination. -/
def stopSignals : List Int := [2, 15]

/-- Set up logging as the configuration says. -/
def setUpLogging (p : Program) : Run Site Unit := do
  let s ← get
  let settings := s.server.config.logging
  Site.happen (.setUpLogging settings)
  Run.lift ((p.journal.after s.history).setUp settings (p.journal.clock s.history)).1

/-- Serve until the server is stopped; the status is 1 if it could not be started. -/
def serve (p : Program) : Run Site Nat := do
  p.setUpLogging
  stopSignals.forM fun number => Site.happen (.watchSignal number)
  if ← Server.start then
    Server.waitForShutdown
    return 0
  else return 1

/-- What happens when the program runs with the given choices, and how it ends. -/
def runWith (p : Program) (c : Options.Choices) : Ending × History :=
  let loading := p.configure c
  let history := History.empty.logAll loading.report
  match loading.outcome with
  | .error f => (.failed f, history)
  | .ok _ =>
    let server := Server.ofConfig loading.config p.load
    match p.serve (Site.ofServer server p.outside history) with
    | .ok status s => (.finished status, s.history)
    | .error f s => (.failed f, s.history)

/-- What happens when the program runs, and how it ends. -/
def run (p : Program) : Ending × History :=
  match Options.read p.name p.arguments with
  | .shown text => (.shown text, .empty)
  | .refused text => (.refused text, .empty)
  | .chosen c => p.runWith c

/-- The logger after a run. -/
def logger (p : Program) (h : History) : Log.Logger := p.journal.after h

end Program

namespace Ending

/-- What a program prints on its output. -/
def output : Ending → Text
  | shown text => text
  | _ => []

/-- What a program prints on the console about its command line. -/
def complaint : Ending → Text
  | refused text => text
  | _ => []

/-- The status that a program ends with, unless a failure ends it. -/
def status? : Ending → Option Nat
  | shown _ => some 0
  | refused _ => some 2
  | finished status => some status
  | failed _ => none

end Ending

end StaticHttp
