import FlowGraph.Flows.Enrichment
import FlowGraph.Journal.Remarks
import FlowGraph.Journal.Sink

/-!
# The engine

The engine keeps every table that was ever made, each under a handle, and a registry that gives
handles to the names of collectors. Registering a known name gives its table back; stopping clears
the registry for good, and tables that are still held through handles then no longer count. A cycle
of enrichment publishes a new graph and hands it to the sink.
-/

namespace FlowGraph

open Traffic Flows Entity Journal

/-- The place of a table among all that were ever made. -/
abbrev Handle := Nat

/-- Whether cycles of enrichment run on their own. -/
inductive Life where
  | idle
  | running
  | stopped
  deriving DecidableEq

/-- Why the cycles cannot be started. -/
inductive StartError where
  | stopped
  | noPeriod
  deriving DecidableEq

/-- Why the engine does not start, in words. -/
def StartError.message : StartError → String
  | stopped => "manager stopped"
  | noPeriod => "invalid enrichment interval " ++ (Period.mk 0).text

/-- The state of the engine. Editions count the graphs that were published. -/
structure Engine where
  period : Period
  sink : Option Sink
  tables : List Table
  registry : Keyed String Handle
  published : Graph
  editions : Nat
  life : Life

namespace Engine

/-- An engine that knows no collector and has published nothing. -/
def new (period : Period) (sink : Option Sink) : Engine :=
  ⟨period, sink, [], .empty, .empty, 0, .idle⟩

/-- The table under a handle. -/
def table? (e : Engine) (h : Handle) : Option Table := e.tables[h]?

/-- The names of the registered collectors. -/
def names (e : Engine) : List String := e.registry.keys

/-- The tables of the registered collectors. -/
def registered (e : Engine) : List Table := e.registry.values.filterMap e.table?

/-- The newest evidence for each connection of the registered collectors. -/
def snapshot (e : Engine) : Keyed Connection Timestamp := combine e.registered

/-- Changes the table under a handle. -/
def update (e : Engine) (h : Handle) (f : Table → Table) : Engine :=
  { e with tables := e.tables.modify h f }

/-- Registers a collector at a time: a table of its own, if the name is new. -/
def register (e : Engine) (name : String) (now : Micros) : Engine × Handle × List Event :=
  match e.registry.get? name with
  | some h => (e.update h (·.touch now), h, [])
  | none =>
    let h := e.tables.length
    let next :=
      { e with tables := e.tables ++ [.new name now], registry := e.registry.insert name h }
    (next, h, [.registered name])

/-- Merges a batch into the table under a handle. -/
def process (e : Engine) (h : Handle) (b : Batch) (now : Micros) (first : Bool) : Engine :=
  e.update h (·.merge b now first)

/-- What is told of a batch that goes into the table under a handle. -/
def processRemarks (e : Engine) (h : Handle) (b : Batch) (now : Micros) : List Event :=
  match e.table? h with
  | some t => batchRemarks t.name b now
  | none => []

/-- A sign of life for the table under a handle. -/
def touch (e : Engine) (h : Handle) (now : Micros) : Engine := e.update h (·.touch now)

/-- A graph takes the place of the one before, and the sink tells of it. -/
def publish (e : Engine) (g : Graph) : Engine × List Event :=
  let next := { e with published := g, editions := e.editions + 1 }
  match e.sink with
  | none => (next, [])
  | some s => ({ next with sink := some (s.publish g).1 }, (s.publish g).2)

/-- The end of a cycle: its graph, which comes from so many connections, is published. -/
def conclude (e : Engine) (connections : Nat) (g : Graph) : Engine × List Event :=
  ((e.publish g).1, .enriched connections g.size :: (e.publish g).2)

/-- One cycle: a snapshot, its graph, and the publication. -/
def enrich (e : Engine) (r : Resolver) : Engine × List Event :=
  let connections := e.snapshot.entries
  let last := e.conclude connections.length (graphOf r connections)
  (last.1, graphRemarks r connections ++ last.2)

/-- Asks the sink for the whole state. -/
def ask (e : Engine) : Engine := { e with sink := e.sink.map Sink.ask }

/-- Lets cycles run on their own. -/
def start (e : Engine) : Except StartError (Engine × List Event) :=
  match e.life with
  | .running => .ok (e, [.alreadyRunning])
  | .stopped => .error .stopped
  | .idle =>
    if e.period.nanos = 0 then .error .noPeriod
    else .ok ({ e with life := .running }, [.running e.period])

/-- Ends the cycles and clears the registry. -/
def stop (e : Engine) : Engine := { e with life := .stopped, registry := .empty }

end Engine

end FlowGraph
