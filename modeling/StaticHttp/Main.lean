import Std.Async.DNS
import Std.Async.Signal
import Std.Async.TCP
import Std.Async.Timer
import Std.Sync.Mutex
import StaticHttp.Program

/-!
# The command line

The outer layer: the sockets, files, signals and console of the machine.  It decides nothing: what
the server will ask of the outside is tried first, and the server is told how it went.
-/

open Std.Async

namespace StaticHttp.CommandLine

/-! ## Files and failures of the machine -/

/-- A text as bytes. -/
def encode (t : Text) : ByteArray := ⟨(t.flatMap Utf8.octets).toArray⟩

/-- A path as the machine spells it. -/
def spelled (t : Text) : String := String.ofList (t.map fun c => Char.ofNat c.val)

/-- The number and the reason of an error that the operating system gave. -/
def reason? : IO.Error → Option (UInt32 × String)
  | .alreadyExists _ n s | .interrupted _ n s | .noFileOrDirectory _ n s | .invalidArgument _ n s
  | .permissionDenied _ n s | .resourceExhausted _ n s | .inappropriateType _ n s
  | .noSuchThing _ n s | .otherError n s | .resourceBusy n s | .resourceVanished n s
  | .unsupportedOperation n s | .hardwareFault n s | .unsatisfiedConstraints n s
  | .illegalOperation n s | .protocolError n s | .timeExpired n s => some (n, s)
  | .unexpectedEof | .userError _ => none

/-- The errors of paths that have a wording of their own. -/
def pathErrors : List PathError := [.missing, .throughFile, .isFolder, .nameTooLong, .tooManyLinks]

/-- An error of the machine as a failure, about a path if one is given.  The machine gives some
numbers with a minus sign. -/
def failureOf (path : Option Text) (e : IO.Error) : Failure :=
  match reason? e with
  | some (n, s) =>
    let number : Int := n.toInt32.toInt.natAbs
    let reason := match pathErrors.find? fun p => p.number = number with
      | some p => p.reason
      | none => Text.ofString s
    .system ⟨.ofNumber number, some number, reason, path⟩
  | none => .system ⟨.general, none, Text.ofString (toString e), none⟩

/-- What comes of an action on the machine. -/
def outcomeOf {α : Type} (path : Option Text) (action : IO α) : IO (Except Failure α) := do
  try return .ok (← action)
  catch e => return .error (failureOf path e)

/-- What comes of an action on the file at a path. -/
def withPath {α : Type} (path : Text) (action : String → IO α) : IO (Except Failure α) :=
  match Tree.pathBytes path with
  | .error f => return .error f
  | .ok _ => outcomeOf (some path) (action (spelled path))

/-- The content of the file at a path. -/
def readFile (path : Text) : IO (Except Failure Bytes) :=
  withPath path fun p => do return (← IO.FS.readBinFile p).toList

/-- What there is at the path of a configuration file. -/
def find (path : Text) : IO Source := do
  match ← readFile path with
  | .ok bytes => return .content bytes
  | .error (.system e) => return if e.sort = .notFound then .absent else .refused (.system e)
  | .error f => return .refused f

/-! ## Logging -/

/-- The place that a path of the machine names. -/
def placeOf (path : String) : Place :=
  (Path.split ((Text.ofString path).flatMap Utf8.octets)).filter (· ≠ [])

/-- The path of a place. -/
def pathOf (p : Place) : Text := p.flatMap fun name => "/" ++ Utf8.decodeEscaping name

/-- What a path leads to, if it leads to anything. -/
def status? (path : Text) : IO (Option IO.FS.Metadata) := do
  match ← withPath path fun p => do (← IO.FS.realPath p).metadata with
  | .ok found => return some found
  | .error _ => return none

/-- The disk of the machine. -/
def disk : Log.Disk IO where
  exists? path := return (← status? path).isSome
  isFile path := return (← status? path).any (·.type == .file)
  unlink path := IO.FS.removeFile (spelled path)
  rename source target := IO.FS.rename (spelled source) (spelled target)
  openAppend path := withPath path fun p => do
    discard (IO.FS.Handle.mk p .append)
    return placeOf (toString (← IO.FS.realPath p))
  sizeAt place := return (← status? (pathOf place)).elim 0 (·.byteSize.toNat)
  append place bytes := do
    (← IO.FS.Handle.mk (spelled (pathOf place)) .append).write ⟨bytes.toArray⟩
  giveUp := throw (.userError "the log file cannot be renewed")

/-- Where events are logged: the console, and a file perhaps. -/
structure Desk where
  logger : Log.Logger
  file : Option Log.File

/-- The Unix second. -/
def now : IO Int := return (← Std.Time.Timestamp.now).toSecondsSinceUnixEpoch.val

/-- The desk before logging is set up. -/
def Desk.initial : IO Desk := do
  return ⟨.initial (← (← IO.getStderr).isTty) (Tree.fresh ""), none⟩

/-- Write to the console what the logger has shown. -/
def Desk.flush (d : Desk) : IO Desk := do
  let console ← IO.getStderr
  console.write (encode d.logger.shown)
  console.flush
  return { d with logger := { d.logger with shown := [] } }

/-- Open the log file that the settings ask for. -/
def openLogFile (settings : Log.Settings) : IO (Except Failure Log.File) := do
  let here := Text.ofString (toString (← IO.currentDir))
  match Log.File.pathFrom here settings.file settings.maxSize with
  | .error f => return .error f
  | .ok path =>
    match ← disk.openAppend path with
    | .error f => return .error f
    | .ok place => return .ok ⟨path, place, settings.maxSize, settings.backups⟩

/-- Set logging up. -/
def Desk.setUp (d : Desk) (settings : Log.Settings) : IO (Except Failure Unit × Desk) := do
  let second ← now
  match d.logger.setUp { settings with file := .null } second with
  | (.error f, logger) => return (.error f, ⟨logger, none⟩)
  | (.ok _, logger) =>
    if !settings.file.isTruthy then return (.ok (), ⟨logger, none⟩)
    match ← openLogFile settings with
    | .ok file => return (.ok (), ⟨logger, some file⟩)
    | .error f =>
      let (result, logger) := logger.withoutFile settings.file f second
      return (result, ← Desk.flush ⟨logger, none⟩)

/-- Log what is to be logged of some events. -/
def Desk.tell (d : Desk) (events : List Event) : IO Desk := do
  let mut d := d
  for e in events do
    if let .log entry := e then
      let r : Log.Record := ⟨entry, ← now⟩
      d := { d with logger := d.logger.handle r }
      if d.logger.isEnabled entry.level then
        if let (some file, .ok line) := (d.file, r.line) then
          if let .ok file ← outcomeOf none (disk.write file line) then
            d := { d with file := some file }
  d.flush

/-! ## The listener -/

/-- The address that names of hosts and ports mean. -/
def resolve (host port : Value) : IO (Except Failure Std.Net.SocketAddress) := do
  match host, port with
  | .text host, .int port =>
    if port < 0 ∨ 65535 < port then return .error (.tooLarge "bind(): port must be 0-65535.")
    let name := if host.isEmpty then "0.0.0.0" else spelled host
    let unknown : Failure := .system (.numbered (-2) "Name or service not known")
    match ← outcomeOf none (DNS.getAddrInfo name "" (some .ipv4)).block with
    | .error _ => return .error unknown
    | .ok found =>
      match found.toList with
      | .v4 a :: _ => return .ok (.v4 ⟨a, port.toNat.toUInt16⟩)
      | _ => return .error unknown
  | .text _, v => return .error (.badSort ("'" ++ v.sort ++ "' is not the sort of a port"))
  | v, _ => return .error (.badSort ("'" ++ v.sort ++ "' is not the sort of a host"))

/-- A listener at the address of a configuration, with the name that it is bound to; or else the
failure, and whether it was listening that failed. -/
def listen (c : Config) :
    IO (Except (Bool × Failure) (TCP.Socket.Server × List Value)) := do
  match ← resolve c.host c.port with
  | .error f => return .error (false, f)
  | .ok address =>
    match ← outcomeOf none do
      let listener ← TCP.Socket.Server.mk
      listener.bind address
      return listener with
    | .error f => return .error (false, f)
    | .ok listener =>
      let queue : Nat := match c.connectionQueue with
        | .int n => n.toNat
        | _ => 0
      match ← outcomeOf none do
        listener.listen queue.toUInt32
        listener.getSockName with
      | .error f => return .error (true, f)
      | .ok name =>
        return .ok (listener, [.text (Text.ofString (toString name.ipAddr)), .int name.port.toNat])

/-- The outside of a server whose listener has been tried. -/
def outsideOf {α : Type} : Except (Bool × Failure) (α × List Value) → Outside
  | .ok (_, name) => { Outside.quiet with boundName := fun _ _ => name }
  | .error (late, f) =>
    { Outside.quiet with
      fails := fun _ e => match e with
        | .listener _ (.bind _ _) => if late then none else some f
        | .listener _ (.listen _) => if late then some f else none
        | _ => none }

/-! ## Connections -/

/-- How many milliseconds pass before a task looks whether the program still runs. -/
def tick : Nat := 500

/-- The milliseconds that a receive may take. -/
def limitOf : Value → Option Nat
  | .int n => some (n * 1000).toNat
  | .real x => some (Float.toUInt64 (Float.ofBits x.bits * 1000)).toNat
  | _ => none

/-- The failure of an action that took too long. -/
def timedOut : Failure := .system ⟨.timedOut, none, "timed out", none⟩

/-- What comes first: the event, or the end of a time. -/
def within {α : Type} (milliseconds : Nat) (event : Selector α) :
    IO (Except Failure (Option α)) :=
  outcomeOf none <| Async.block do
    Selectable.one #[
      .case event fun a => return some a,
      .case (← Selector.sleep (.ofNat milliseconds)) fun _ => return none]

/-- Whether a server runs. -/
def runs (site : IO.Ref Site) : IO Bool := return (← site.get).server.running

/-- The next bytes from a client, none at the end; a failure if they take too long.  When the
server stops, the client is given up. -/
partial def receive (site : IO.Ref Site) (client : TCP.Socket.Client) (left : Option Nat)
    (size : UInt64) : IO (Except Failure Bytes) := do
  let wait := min tick (left.getD tick)
  match ← within wait (client.recvSelector size) with
  | .error f => return .error f
  | .ok (some chunk) => return .ok (chunk.elim [] ByteArray.toList)
  | .ok none =>
    if !(← runs site) then throw (.userError "stopped")
    if left = some wait then return .error timedOut
    receive site client (left.map (· - wait)) size

/-- What comes from a client until the head of its request is there, or nothing more comes. -/
partial def deliveries (site : IO.Ref Site) (client : TCP.Socket.Client) (h : Handler)
    (received : Bytes) : IO (List Delivery) := do
  let size : Nat := match h.receiveSize with
    | .int n => n.toNat
    | _ => 0
  match ← receive site client (limitOf h.requestTimeout) size.toUInt64 with
  | .error f => return [.failure f]
  | .ok [] => return []
  | .ok chunk =>
    let received := received ++ chunk
    if (Request.indexOf? Request.blankLine received).isSome then return [.bytes chunk]
    return .bytes chunk :: (← deliveries site client h received)

/-- The events of a round in which a server meets an offer. -/
def meeting (s : Site) (offer : Offer) : List Event :=
  let outside := { Outside.quiet with offers := [offer] }
  match Site.round (Site.perform 0) { s with outside, history := .empty } with
  | .ok _ s | .error _ s => s.history.toList

/-- The events in which a server attends to a connection, when documents are what `answer` says. -/
def attend (s : Site) (c : Connection) (address : Address) (answer : Except Failure Bytes) :
    List Event :=
  let load : Loader := fun _ path => Loader.document path answer
  let router := { s.server.handler.router with load }
  let server := { s.server with handler := { s.server.handler with router } }
  meeting { s with server } ⟨none, .ok (c, address)⟩

/-- The path of the document that is loaded in some events. -/
def loaded? (events : List Event) : Option Text :=
  events.findSome? fun
    | .load path => some path
    | _ => none

/-- The bytes that are sent in some events. -/
def sent (events : List Event) : Bytes :=
  events.flatMap fun
    | .connection _ (.send bytes) => bytes
    | _ => []

/-- The address of the other end. -/
def peer (client : TCP.Socket.Client) : IO Address := do
  match ← outcomeOf none client.getPeerName with
  | .ok name => return some [.text (Text.ofString (toString name.ipAddr)), .int name.port.toNat]
  | .error _ => return none

/-- Serve a client, and log how it went. -/
def serveClient (site : IO.Ref Site) (desk : Std.Mutex Desk) (number : Nat)
    (client : TCP.Socket.Client) : IO Unit := do
  let s ← site.get
  let address ← peer client
  let incoming ← deliveries site client s.server.handler []
  let c : Connection := ⟨number, incoming, none, none, none, none⟩
  let answer ← match loaded? (attend s c address (.ok [])) with
    | some path => readFile path
    | none => pure (.ok [])
  let events := attend s c address answer
  let payload : ByteArray := ⟨(sent events).toArray⟩
  let outcome ←
    if payload.isEmpty then pure (.ok ()) else outcomeOf none (client.send payload).block
  let events := match outcome with
    | .ok _ => events
    | .error f => attend s { c with sendFails := some f } address answer
  discard (outcomeOf none client.shutdown.block)
  desk.atomically do set (← (← get).tell events)

/-- Accept clients as long as the server runs, each being served by a task of its own. -/
partial def acceptAll (site : IO.Ref Site) (desk : Std.Mutex Desk) (listener : TCP.Socket.Server)
    (number : Nat) : IO Unit := do
  unless ← runs site do return
  match ← within tick listener.acceptSelector with
  | .ok (some client) => discard (IO.asTask (serveClient site desk number client) .dedicated)
  | .ok none => pure ()
  | .error f =>
    let events := meeting (← site.get) ⟨none, .error f⟩
    desk.atomically do set (← (← get).tell events)
    for e in events do
      if let .sleep length := e then IO.sleep ((limitOf length).getD 0).toUInt32
  acceptAll site desk listener (number + 1)

/-! ## The program -/

/-- Wait for one of the signals that ask the program to stop. -/
def awaitSignal (interrupt terminate : Signal.Waiter) : IO Int :=
  Async.block (Selectable.one #[
    .case interrupt.selector fun _ => return 2,
    .case terminate.selector fun _ => return 15])

/-- Serve with a configuration until a signal comes. -/
def serve (desk : Desk) (config : Config) : IO UInt32 := do
  let interrupt ← Signal.Waiter.mk .sigint true
  let terminate ← Signal.Waiter.mk .sigterm true
  let listening ← listen config
  let server := Server.ofConfig config fun _ _ => .ok []
  let site := Site.ofServer server (outsideOf listening) .empty
  let watched := Program.stopSignals.foldl (fun s n => s.push (.watchSignal n)) site
  match Server.start watched, listening with
  | .ok true s, .ok (listener, _) =>
    let desk ← Std.Mutex.new (← desk.tell s.history.toList)
    let site ← IO.mkRef s
    let accepting ← IO.asTask (acceptAll site desk listener 0) .dedicated
    let signal ← awaitSignal interrupt terminate
    let outside := { Outside.quiet with pauses := [some (.signal signal)] }
    match Server.waitForShutdown { s with outside } with
    | .ok _ t | .error _ t =>
      site.set t
      desk.atomically do set (← (← get).tell (t.history.since s.history.size))
    discard (IO.wait accepting)
    return 0
  | .ok _ s, _ =>
    discard (desk.tell s.history.toList)
    return 1
  | .error f s, _ =>
    discard (desk.tell s.history.toList)
    (← IO.getStderr).write (encode (f.message ++ "\n"))
    return 1

/-- Run the program with the choices of its command line. -/
def run (c : Options.Choices) : IO UInt32 := do
  let path := Program.configPath? c
  let source ← match path with
    | some p => find p
    | none => pure .absent
  let loading := Config.build (fun _ => source) path c.overrides
  let desk ← (← Desk.initial).tell (loading.report.map .log)
  let fail (f : Failure) : IO UInt32 := do
    (← IO.getStderr).write (encode (f.message ++ "\n"))
    return 1
  match loading.outcome with
  | .error f => fail f
  | .ok _ =>
    match ← desk.setUp loading.config.logging with
    | (.error f, _) => fail f
    | (.ok _, desk) => serve desk loading.config

end StaticHttp.CommandLine

open StaticHttp StaticHttp.CommandLine in
def main (arguments : List String) : IO UInt32 := do
  match Options.read Site.programSource (arguments.map Text.ofString) with
  | .shown text =>
    (← IO.getStdout).write (encode text)
    return 0
  | .refused text =>
    (← IO.getStderr).write (encode text)
    return 2
  | .chosen c => StaticHttp.CommandLine.run c
