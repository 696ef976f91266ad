import FlowGraph.Keyed
import FlowGraph.Net.Endpoint
import FlowGraph.Time

/-!
# Indicators

The edges of the communication graph: which workload talks to which, at what port and protocol.
They are ordered by these four in turn, texts by their characters. A graph is the newest evidence
for each edge.
-/

namespace FlowGraph.Flows

open Net

/-- One edge of the graph. -/
structure Indicator where
  source : String
  destination : String
  port : UInt16
  protocol : Protocol
  deriving DecidableEq

namespace Indicator

/-- The order by source, destination, port and protocol. -/
protected def lt (a b : Indicator) : Prop :=
  a.source < b.source ∨ a.source = b.source ∧
    (a.destination < b.destination ∨ a.destination = b.destination ∧
      (a.port < b.port ∨ a.port = b.port ∧ a.protocol.rank < b.protocol.rank))

instance : LT Indicator := ⟨Indicator.lt⟩
instance (a b : Indicator) : Decidable (a < b) :=
  inferInstanceAs (Decidable (_ ∨ _ ∧ (_ ∨ _ ∧ (_ ∨ _ ∧ _))))
instance : LE Indicator := ⟨fun a b => ¬ b < a⟩
instance (a b : Indicator) : Decidable (a ≤ b) := inferInstanceAs (Decidable (¬ b < a))

/-- An edge as it stands in a line of the journal. -/
def text (i : Indicator) : String :=
  i.source ++ " -> " ++ i.destination ++ ":" ++ decimal i.port.toNat ++ "/" ++ i.protocol.text

end Indicator

/-- The newest evidence for each edge. -/
abbrev Graph := Keyed Indicator Timestamp

/-- Evidence taken into a map, where only newer evidence replaces older. -/
def newest {κ : Type} [DecidableEq κ] (m : Keyed κ Timestamp) (k : κ) (ts : Timestamp) :
    Keyed κ Timestamp :=
  m.put k fun old => old.elim ts fun t => t.newer ts

/-- All entries of a list taken into a map as evidence. -/
def newestAll {κ : Type} [DecidableEq κ] (m : Keyed κ Timestamp) (es : List (κ × Timestamp)) :
    Keyed κ Timestamp :=
  es.foldl (fun m e => newest m e.1 e.2) m

end FlowGraph.Flows
