import FlowGraph.Entity.Directory
import FlowGraph.Flows.Indicator
import FlowGraph.Traffic.Table

/-!
# Enrichment

From tables to a graph. The tables are put together into one map of the newest evidence for each
connection. A connection then gives one indicator for every port of every workload that may serve
its destination, if its container has a workload; the newest evidence for each indicator is the
graph.
-/

namespace FlowGraph.Flows

open Traffic Entity

/-- The newest evidence for each connection of some tables. -/
def combine (tables : List Table) : Keyed Connection Timestamp :=
  tables.foldl (fun m t => newestAll m t.connections.entries) .empty

/-- The indicators of a connection from a workload to what may serve it. -/
def indicatorsFrom (c : Connection) (source : String) (lookups : List Lookup) : List Indicator :=
  lookups.flatMap fun l =>
    l.ports.map fun port => ⟨source, l.workload, port, c.destination.protocol⟩

/-- The edges of a connection, if its container belongs to a workload. -/
def indicators (r : Resolver) (c : Connection) : List Indicator :=
  match r.workload c.container with
  | some source => indicatorsFrom c source (r.lookups c.destination)
  | none => []

/-- What a connection with its evidence gives to a graph. -/
def contributions (r : Resolver) (e : Connection × Timestamp) : List (Indicator × Timestamp) :=
  (indicators r e.1).map fun i => (i, e.2)

/-- The edges of all connections, each with the newest evidence for it. -/
def graphOf (r : Resolver) (connections : List (Connection × Timestamp)) : Graph :=
  connections.foldl (fun g e => newestAll g (contributions r e)) .empty

end FlowGraph.Flows
