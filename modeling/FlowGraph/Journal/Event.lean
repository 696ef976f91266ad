import FlowGraph.Flows.Indicator
import FlowGraph.Json.Error
import FlowGraph.Traffic.Observation

/-!
# Events

What the program tells about its work. Every event has a level, the part of the program that tells
it, and a text; all three are said here and nowhere else.
-/

namespace FlowGraph.Journal

open Traffic Flows

/-- How much an event matters. -/
inductive Level where
  | error
  | warn
  | info
  | debug
  | trace
  deriving DecidableEq

/-- The parts of the program that tell events. -/
inductive Part where
  | program
  | tables
  | records
  | engine
  | sink
  | directory
  | collectors
  deriving DecidableEq

/-- The two kinds of sessions that clients have with the program. -/
inductive Client where
  | collector
  | feed
  deriving DecidableEq

/-- A length of time in nanoseconds. -/
structure Period where
  nanos : Nat
  deriving DecidableEq

/-- What can be told. -/
inductive Event where
  | starting (version : String)
  | stopping
  | listeningForCollectors (address : String)
  | listeningForEntities (address : String)
  | collectorsFailed (reason : String)
  | entitiesFailed (reason : String)
  | connected (client : Client) (peer : String)
  | sessionEnded (client : Client) (peer : String)
  | sessionFailed (client : Client) (peer reason : String)
  | registered (name : String)
  | repeatedHello (table name : String)
  | leftOut (reason : Json.ReadError)
  | otherRole (table : String) (role : Role)
  | noRole (table : String)
  | malformed (table : String)
  | merging (table : String) (count : Nat) (ahead : Micros)
  | entities (containers endpoints : Nat)
  | alreadyRunning
  | running (period : Period)
  | finished
  | orphan (c : Connection)
  | unresolved (e : Net.Endpoint)
  | enriched (connections flows : Nat)
  | published (flows stillOpen : Nat)
  | state
  | flow (i : Indicator) (ts : Timestamp)
  deriving DecidableEq

namespace Level

/-- The level as it stands in a line of the journal. -/
def name : Level → String
  | error => "ERROR"
  | warn => "WARN"
  | info => "INFO"
  | debug => "DEBUG"
  | trace => "TRACE"

/-- How much more than errors one has to want to hear of the level. -/
def rank : Level → Nat
  | error => 0
  | warn => 1
  | info => 2
  | debug => 3
  | trace => 4

end Level

namespace Part

/-- How the part is called in a line of the log. -/
def path : Part → String
  | program => "netgraph"
  | tables => "netgraph::host::host"
  | records => "netgraph::conn::record"
  | engine => "netgraph::manager::manager"
  | sink => "netgraph::manager::sink"
  | directory => "netgraph::augment::augment"
  | collectors => "netgraph::collect::collect"

end Part

namespace Client

/-- What the journal calls a client. -/
def name : Client → String
  | collector => "collector"
  | feed => "client"

/-- Which part of the program talks with the client. -/
def part : Client → Part
  | collector => .collectors
  | feed => .directory

end Client

namespace Period

/-- The period of so many seconds. -/
def ofSeconds (n : Nat) : Period := ⟨n * 1_000_000_000⟩

/-- A number of units with the places behind the point that are needed. -/
def inUnits (nanos unit : Nat) : String :=
  let places := (Nat.toDigits 10 unit).length - 1
  let rest := Nat.toDigits 10 (nanos % unit)
  let all := List.replicate (places - rest.length) '0' ++ rest
  let needed := (all.reverse.dropWhile (· == '0')).reverse
  let tail := if nanos % unit = 0 then [] else '.' :: needed
  String.ofList (Nat.toDigits 10 (nanos / unit) ++ tail)

/-- The period in the largest unit of which there is one. -/
def text (p : Period) : String :=
  if 1_000_000_000 ≤ p.nanos then inUnits p.nanos 1_000_000_000 ++ "s"
  else if 1_000_000 ≤ p.nanos then inUnits p.nanos 1_000_000 ++ "ms"
  else if 1_000 ≤ p.nanos then inUnits p.nanos 1_000 ++ "µs"
  else toString p.nanos ++ "ns"

end Period

namespace Event

/-- How much an event matters. -/
def level : Event → Level
  | collectorsFailed _ | entitiesFailed _ | sessionFailed _ _ _ => .error
  | repeatedHello _ _ | alreadyRunning | orphan _ => .warn
  | starting _ | stopping | listeningForCollectors _ | listeningForEntities _ | registered _
  | published _ _ => .info
  | otherRole _ _ | merging _ _ _ => .trace
  | connected _ _ | sessionEnded _ _ | leftOut _ | noRole _ | malformed _ | entities _ _
  | running _ | finished | unresolved _ | enriched _ _ | state | flow _ _ => .debug

/-- Which part of the program tells the event. -/
def part : Event → Part
  | starting _ | stopping | collectorsFailed _ => .program
  | listeningForCollectors _ | repeatedHello _ _ => .collectors
  | listeningForEntities _ | entitiesFailed _ | entities _ _ => .directory
  | connected client _ | sessionEnded client _ | sessionFailed client _ _ => client.part
  | leftOut _ => .records
  | otherRole _ _ | noRole _ | malformed _ | merging _ _ _ => .tables
  | registered _ | alreadyRunning | running _ | finished | orphan _ | unresolved _
  | enriched _ _ => .engine
  | published _ _ | state | flow _ _ => .sink

/-- What the journal says of an event. -/
def text : Event → String
  | starting version => "initializing netgraph " ++ version
  | stopping => "shutting down"
  | listeningForCollectors address => "listening for collectors on " ++ address
  | listeningForEntities address => "listening for entities on " ++ address
  | collectorsFailed reason => "collect failed: " ++ reason
  | entitiesFailed reason => "augment failed: " ++ reason
  | connected _ peer => "connection from " ++ peer
  | sessionEnded client peer => client.name ++ " " ++ peer ++ " finished"
  | sessionFailed client peer reason => client.name ++ " " ++ peer ++ " error: " ++ reason
  | registered name => "registered collector " ++ name
  | repeatedHello table name => table ++ ": ignoring repeated hello as " ++ name
  | leftOut reason => "skipping undecodable record: " ++ reason.message
  | otherRole table role => table ++ ": ignoring " ++ role.name ++ " connection"
  | noRole table => table ++ ": skipping record without role"
  | malformed table => table ++ ": skipping malformed record"
  | merging table count ahead =>
    table ++ ": merging " ++ toString count ++ " connections, offset " ++ ahead.text
  | entities containers endpoints =>
    "entities: " ++ toString containers ++ " containers, " ++ toString endpoints ++ " endpoints"
  | alreadyRunning => "enrichment already running"
  | running period => "enrichment running every " ++ period.text
  | finished => "enrichment finished"
  | orphan c => "orphan container " ++ c.container ++ ": no workload for " ++ c.text
  | unresolved e => "unresolved destination " ++ e.text
  | enriched connections flows =>
    "enriched " ++ toString connections ++ " connections into " ++ toString flows ++ " flows"
  | published flows stillOpen =>
    "published " ++ toString flows ++ " flows (" ++ toString stillOpen ++ " open)"
  | state => "flow state:"
  | flow i ts => i.text ++ ": " ++ ts.text

/-- A line of the journal. -/
def note (e : Event) : String := e.level.name ++ " " ++ e.text

/-- A line of the log: the level in five places, the part and the text. -/
def line (e : Event) : String :=
  let name := e.level.name
  name ++ "".pushn ' ' (6 - name.length) ++ e.part.path ++ "] " ++ e.text

end Event

end FlowGraph.Journal
