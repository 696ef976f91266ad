import FlowGraph.Journal.Event

/-!
# The sink

Where published graphs go: the journal tells how many flows there are and how many of them are
open, and, once after it was asked to, all of them in their order.
-/

namespace FlowGraph.Journal

open Flows

/-- Whether the whole state was asked for since the last publication. -/
structure Sink where
  asked : Bool
  deriving DecidableEq

namespace Sink

/-- A sink that was not asked for anything. -/
def new : Sink := ⟨false⟩

/-- Asks for the whole state at the next publication. -/
def ask (_ : Sink) : Sink := ⟨true⟩

/-- The flows of a graph in their order. -/
def sorted (g : Graph) : List (Indicator × Timestamp) :=
  g.entries.mergeSort fun a b => decide (a.1 ≤ b.1)

/-- How many flows of a graph are open. -/
def openCount (g : Graph) : Nat := g.values.countP Timestamp.isOpen

/-- What is told of a graph when its state was asked for. -/
def stateEvents (g : Graph) : List Event :=
  .state :: (sorted g).map fun e => .flow e.1 e.2

/-- What is told of a published graph: how large it is and, if the sink was asked, its whole state.
-/
def publish (s : Sink) (g : Graph) : Sink × List Event :=
  (⟨false⟩, .published g.size (openCount g) :: if s.asked then stateEvents g else [])

end Sink

end FlowGraph.Journal
