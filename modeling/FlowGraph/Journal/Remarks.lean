import FlowGraph.Entity.Directory
import FlowGraph.Journal.Event
import FlowGraph.Traffic.Table

/-!
# Remarks

What is told while batches are merged and connections are resolved: every observation that does not
count, and every connection that gives no edge because its container or its destination is not
known.
-/

namespace FlowGraph.Journal

open Traffic Entity

/-- What is told of an observation that does not count. -/
def observationRemark (table : String) (o : Observation) : Option Event :=
  match o.verdict with
  | .counts _ => none
  | .otherRole role => some (.otherRole table role)
  | .noRole => some (.noRole table)
  | .malformed => some (.malformed table)

/-- What is told of a batch that goes into a table. -/
def batchRemarks (table : String) (b : Batch) (now : Micros) : List Event :=
  b.observations.filterMap (observationRemark table) ++
    [.merging table (b.entries now).length (b.ahead now)]

/-- What is told of a connection: that its container has no workload, or that nothing is known to
serve its destination. -/
def connectionRemarks (r : Resolver) (c : Connection) : List Event :=
  match r.workload c.container with
  | none => [.orphan c]
  | some _ => if (r.lookups c.destination).isEmpty then [.unresolved c.destination] else []

/-- What is told of the connections that a graph is made from. -/
def graphRemarks (r : Resolver) (connections : List (Connection × Timestamp)) : List Event :=
  connections.flatMap fun e => connectionRemarks r e.1

/-- What is told of a new directory. -/
def directoryRemark (d : Directory) : Event :=
  .entities d.containers.size d.endpoints.size

end FlowGraph.Journal
