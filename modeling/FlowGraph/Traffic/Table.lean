import FlowGraph.Keyed
import FlowGraph.Traffic.Observation

/-!
# Tables

What is known from one collector: the newest evidence of each of its connections, and when it was
last heard from. A batch overwrites what it mentions. The first batch after a pause first marks
every known connection as closed at the time of the last contact, for a close may have been missed.
-/

namespace FlowGraph.Traffic

/-- What is known from the collector of a name. -/
structure Table where
  name : String
  connections : Keyed Connection Timestamp
  last : Micros

namespace Table

/-- The table of a collector that has reported nothing. -/
def new (name : String) (now : Micros) : Table := ⟨name, .empty, now⟩

/-- The table with every connection closed at the last contact. -/
def closeAll (t : Table) : Table :=
  { t with connections := t.connections.mapValues fun _ => .closed t.last }

/-- A batch is merged at a time, after all connections were closed if it is the first one after a
pause. -/
def merge (t : Table) (b : Batch) (now : Micros) (first : Bool) : Table :=
  let start := if first then t.closeAll else t
  { start with connections := start.connections.insertAll (b.entries now), last := now }

/-- The table after a sign of life without a batch. -/
def touch (t : Table) (now : Micros) : Table := { t with last := now }

end Table

end FlowGraph.Traffic
