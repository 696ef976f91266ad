import FlowGraph.Command.Arguments
import FlowGraph.Command.Options
import FlowGraph.Engine

/-!
# A run of the program

What the program says from its start to the signal that ends it, for a host that has only loopback
addresses and knows no other names: the log lines that the wanted level lets through, an error that
ends it before, or the help that was asked for.
-/

namespace FlowGraph.Command

open Journal Net

/-- The signals that a running program obeys: an end, or the wish to see the state. -/
inductive Signal where
  | interrupt
  | terminate
  | show
  deriving DecidableEq

/-- How a run ends and what it said. -/
structure Outcome where
  code : Nat
  output : String
  lines : List String
  deriving DecidableEq

/-- Whether a host has the address without being told. -/
def isLocal : SocketAddress → Bool
  | .v4 ip _ => ip.a = 127 || ip = ⟨0, 0, 0, 0⟩
  | .v6 ip _ _ => ip.toList.take 7 = List.replicate 7 0 && ip.toList.drop 7 ∈ [[0], [1]]

/-- Why nothing can listen at an address, if so. -/
def listenProblem (address : String) : Option String :=
  match SocketAddress.ofText? address with
  | some s => if isLocal s then none else some "Cannot assign requested address (os error 99)"
  | none =>
    let backwards := address.toList.reverse
    match backwards.dropWhile (· != ':') with
    | [] => some "invalid socket address"
    | _ :: host =>
      let port := String.ofList (backwards.takeWhile (· != ':')).reverse
      if (number? 0x10000 port).isNone then some "invalid port value"
      else if String.ofList host.reverse = "localhost" then none
      else some "failed to lookup address information: Temporary failure in name resolution"

/-- The greatest rank of events that a number of flags for more output lets through. -/
def loudness : Nat → Nat
  | 0 => Level.info.rank
  | 1 => Level.debug.rank
  | _ => Level.trace.rank

/-- The lines of the events that are wanted. -/
def logLines (verbose : Nat) (events : List Event) : List String :=
  (events.filter fun e => e.level.rank ≤ loudness verbose).map Event.line

/-- An error that ends the program, told in lines. -/
def failure (verbose : Nat) (events : List Event) (e : ArgumentError) : Outcome :=
  ⟨1, "", logLines verbose events ++ ("Error: " ++ e.message).splitOn "\n"⟩

/-- What is told of the two listeners. -/
def listenEvents (o : Options) : List Event :=
  [match listenProblem o.addr with
    | none => .listeningForCollectors o.addr
    | some reason => .collectorsFailed reason,
  match listenProblem o.entities with
    | none => .listeningForEntities o.entities
    | some reason => .entitiesFailed reason]

/-- What is told of the objects that a file gives at the start. -/
def preloadEvents (read : String → Option Json.Bytes) (o : Options) :
    Except ArgumentError (List Event) :=
  match o.preload with
  | none => .ok []
  | some path => do
    let objects ← fileObjects path (read path)
    return [directoryRemark (.ofObjects objects)]

/-- What is told once the work has begun. The signals before the first that ends the run only ask
for the state, which is told with the next publication. -/
def workEvents (o : Options) (period : Period) (signals : List Signal) : List Event :=
  let engine := signals.takeWhile (· = .show) |>.foldl (fun e _ => e.ask)
    (Engine.new period (some .new))
  match engine.start with
  | .ok (_, events) => events ++ listenEvents o ++ [.stopping, .finished]
  | .error _ => []

/-- A run with the given files, arguments and signals. -/
def run (read : String → Option Json.Bytes) (arguments : List String) (signals : List Signal) :
    Outcome :=
  match Options.ofArguments arguments with
  | .error .help => ⟨0, helpText ++ "\n", []⟩
  | .error .version => ⟨0, "netgraph " ++ version ++ "\n", []⟩
  | .error refusal => ⟨1, "", refusal.message.splitOn "\n"⟩
  | .ok o =>
    match intervalOfText o.interval with
    | .error e => failure o.verbose [] e
    | .ok period =>
      match preloadEvents read o with
      | .error e => failure o.verbose [.starting version] e
      | .ok preloaded =>
        let events := .starting version :: preloaded ++ workEvents o period signals
        ⟨0, "", logLines o.verbose events⟩

end FlowGraph.Command
