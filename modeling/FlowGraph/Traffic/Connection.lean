import FlowGraph.Net.Endpoint
import FlowGraph.Time

/-!
# Connections

A connection as one collector sees it: the local side is a container at an address, the remote
side is an endpoint by its number.
-/

namespace FlowGraph.Traffic

open Net

/-- Who is connected to what. -/
structure Connection where
  source : Address
  container : String
  destination : Endpoint
  deriving DecidableEq

/-- The container, its address in parentheses, and the destination. -/
def Connection.text (c : Connection) : String :=
  c.container ++ " (" ++ c.source.text ++ ") -> " ++ c.destination.text

end FlowGraph.Traffic
