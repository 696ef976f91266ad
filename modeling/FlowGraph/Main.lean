import FlowGraph.Command.Run
import FlowGraph.Cycle
import FlowGraph.Session.Feed
import Std.Async.Signal
import Std.Async.TCP
import Std.Async.Timer
import Std.Sync.Mutex

/-!
# The program

The outer layer: arguments, files, sockets, signals and the clock. It reads bytes and times, hands
them to the sessions and the engine, and writes the events that these tell.
-/

namespace FlowGraph.Program

open Std.Async Journal Command Session

/-- What all parts of the running program share. A cycle that is under way holds the lock. -/
structure Shared where
  engine : IO.Ref Engine
  directory : IO.Ref Entity.Directory
  cycling : Std.Mutex Unit
  verbose : Nat

/-- The time by the clock of the machine. -/
def now : IO Micros := do
  let t ← Std.Time.Timestamp.now
  return .clamp (t.toNanosecondsSinceUnixEpoch.val / 1000)

/-- Writes the lines of the wanted events, each behind the time. -/
def tell (verbose : Nat) (events : List Event) : IO Unit := do
  let t := Std.Time.DateTime.ofTimestampWithZone (← Std.Time.Timestamp.now) .UTC
  let stamp := t.format "uuuu-MM-dd'T'HH:mm:ss"
  for line in logLines verbose events do
    IO.eprintln ("[" ++ stamp ++ "Z " ++ line)

/-- The address of a socket in the form in which it is listened at. -/
def listenAddress : Net.SocketAddress → Std.Net.SocketAddress
  | .v4 ip port => .v4 ⟨⟨#v[ip.a, ip.b, ip.c, ip.d]⟩, port⟩
  | .v6 ip port _ => .v6 ⟨⟨ip.groups⟩, port⟩

/-- The text of the address that a client has. -/
def peerText : Std.Net.SocketAddress → String
  | .v4 a =>
    let o := a.addr.octets
    (Net.SocketAddress.v4 ⟨o[0], o[1], o[2], o[3]⟩ a.port).text
  | .v6 a => (Net.SocketAddress.v6 ⟨a.addr.segments⟩ a.port 0).text

/-- Listens at an address, which may be given as that of this host. -/
def listen (address : String) : IO TCP.Socket.Server := do
  let name := if address.startsWith "localhost:" then "127.0.0.1" ++ address.drop 9 else address
  match Net.SocketAddress.ofText? name with
  | none => throw (IO.userError ((listenProblem address).getD "invalid socket address"))
  | some sock =>
    let server ← TCP.Socket.Server.mk
    server.bind (listenAddress sock)
    server.listen 1024
    return server

/-- Hands the frames of a client to a session as they come, until the session or the stream ends.
The session says what becomes of its state with each frame. -/
partial def converse {σ : Type} (client : TCP.Socket.Client)
    (step : σ → Json.Bytes → IO (Except Failure σ)) (state : σ) (left : Json.Bytes) :
    Async (Option Failure) := do
  match takeFrame left with
  | .tooLong => return some (.stream .tooLong)
  | .frame content rest =>
    match ← step state content with
    | .error problem => return some problem
    | .ok next => converse client step next rest
  | .unfinished =>
    match ← client.recv? 65536 with
    | none => return (endingOf left).failure?
    | some more => converse client step state (left ++ more.toList)

/-- A session with a collector, whose requests go to the engine. -/
def collectorSession (s : Shared) (client : TCP.Socket.Client) : Async (Option Failure) :=
  converse client (fun phase frame => do
    let t ← now
    let (events, result) ← s.engine.modifyGet fun e =>
      match Collector.receive t e phase frame with
      | (events, .ok (next, phase)) => ((events, .ok phase), next)
      | (events, .error problem) => ((events, .error problem), e)
    tell s.verbose events
    return result) Collector.Phase.greeting []

/-- A session of the entity feed. -/
def feedSession (s : Shared) (client : TCP.Socket.Client) : Async (Option Failure) :=
  converse client (fun () frame => do
    match Json.decode Entity.Object.listReader frame with
    | .error reason => return .error (.frame reason)
    | .ok objects =>
      let directory := Entity.Directory.ofObjects objects
      s.directory.set directory
      tell s.verbose [directoryRemark directory]
      return .ok ()) () []

/-- A session up to its end, of which the journal is told. -/
def attend (s : Shared) (kind : Client) (peer : String) (session : Async (Option Failure)) :
    Async Unit := do
  try
    match ← session with
    | none => tell s.verbose [.sessionEnded kind peer]
    | some problem => tell s.verbose [.sessionFailed kind peer problem.message]
  catch e => tell s.verbose [.sessionFailed kind peer (toString e)]

/-- Accepts clients for ever, each in a session of its own. -/
partial def acceptAll (s : Shared) (kind : Client) (server : TCP.Socket.Server)
    (session : TCP.Socket.Client → Async (Option Failure)) : Async Unit := do
  let client ← server.accept
  let peer ← client.getPeerName
  tell s.verbose [.connected kind (peerText peer)]
  let _ : AsyncTask Unit ← async (attend s kind (peerText peer) (session client))
  acceptAll s kind server session

/-- Listens for clients and serves them, or tells why it cannot. -/
def serve (s : Shared) (kind : Client) (address : String) (listening : Event)
    (failed : String → Event) (session : TCP.Socket.Client → Async (Option Failure)) : IO Unit := do
  match ← (listen address).toBaseIO with
  | .error e => tell s.verbose [failed (toString e)]
  | .ok server =>
    tell s.verbose [listening]
    let _ ← (acceptAll s kind server session).toIO

/-- One cycle of enrichment. Sessions may come between its steps. -/
partial def runCycle (s : Shared) (c : Cycle) : IO Unit := do
  match c.result? with
  | some (connections, g) =>
    let events ← s.engine.modifyGet fun e =>
      let (next, events) := e.conclude connections g
      (events, next)
    tell s.verbose events
  | none =>
    let (next, events) := c.step (← s.engine.get) (← s.directory.get).resolver
    tell s.verbose events
    runCycle s next

/-- Cycles of enrichment, one after each period, until the engine is stopped. -/
partial def cycles (s : Shared) (period : Period) : Async Unit := do
  sleep (.ofNat (period.nanos / 1_000_000))
  let again ← (s.cycling.atomically do
    let e ← s.engine.get
    if e.life = .running then runCycle s (.start e)
    return e.life = .running : IO Bool)
  if again then cycles s period

/-- Asks for the state whenever the signal for it comes. -/
partial def obeyShow (s : Shared) (waiter : Signal.Waiter) : Async Unit := do
  let asked ← waiter.wait
  let _ ← await asked
  (s.engine.modify Engine.ask : IO Unit)
  obeyShow s waiter

/-- The program from its start to the signal that ends it. -/
def work (o : Options) (period : Period) (directory : Entity.Directory) : IO Unit := do
  let s : Shared :=
    ⟨← IO.mkRef (.new period (some .new)), ← IO.mkRef directory, ← Std.Mutex.new (), o.verbose⟩
  match (← s.engine.get).start with
  | .error _ => return
  | .ok (e, events) =>
    s.engine.set e
    tell s.verbose events
  let _ ← (cycles s period).toIO
  serve s .collector o.addr (.listeningForCollectors o.addr) .collectorsFailed (collectorSession s)
  serve s .feed o.entities (.listeningForEntities o.entities) .entitiesFailed (feedSession s)
  let _ ← (obeyShow s (← Signal.Waiter.mk .sigusr1 true)).toIO
  let interrupted ← (← Signal.Waiter.mk .sigint false).wait
  let terminated ← (← Signal.Waiter.mk .sigterm false).wait
  let _ ← IO.waitAny [interrupted, terminated]
  tell s.verbose [.stopping]
  s.cycling.atomically (s.engine.modify Engine.stop : IO Unit)
  tell s.verbose [.finished]

/-- The content of a file, if it can be read. -/
def content (path : String) : IO (Option Json.Bytes) := do
  match ← (IO.FS.readBinFile path).toBaseIO with
  | .ok bytes => return some bytes.toList
  | .error _ => return none

/-- The end of a program whose arguments are wrong. -/
def giveUp (e : ArgumentError) : IO UInt32 := do
  IO.eprintln ("Error: " ++ e.message)
  return 1

/-- A run with options that are understood. -/
def start (o : Options) : IO UInt32 := do
  match intervalOfText o.interval with
  | .error e => giveUp e
  | .ok period =>
    tell o.verbose [.starting version]
    match o.preload with
    | none => work o period .empty
    | some path =>
      match fileObjects path (← content path) with
      | .error e => return ← giveUp e
      | .ok objects =>
        let directory := Entity.Directory.ofObjects objects
        tell o.verbose [directoryRemark directory]
        work o period directory
    return 0

end FlowGraph.Program

/-- The program: it starts unless its arguments are wrong or ask for something else. -/
def main (arguments : List String) : IO UInt32 := do
  match FlowGraph.Command.Options.ofArguments arguments with
  | .ok options => FlowGraph.Program.start options
  | .error .help =>
    IO.println FlowGraph.Command.helpText
    return 0
  | .error .version =>
    IO.println ("netgraph " ++ FlowGraph.Command.version)
    return 0
  | .error refusal =>
    IO.eprintln refusal.message
    return 1
