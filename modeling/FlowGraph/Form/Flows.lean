import FlowGraph.Flows.Indicator
import FlowGraph.Form.Net

/-!
# The written form of indicators

How the edges of the graph stand in documents.
-/

namespace FlowGraph.Flows.Indicator

open Json Net

/-- An indicator is written with its parts. -/
def encode (i : Indicator) : Value :=
  .object
    [("src", .string i.source), ("dst", .string i.destination), ("port", .int i.port.toNat),
      ("proto", i.protocol.encode)]

/-- The fields of an edge. -/
def row :=
  Row.field "src" Reader.string none <| .field "dst" Reader.string none <|
    .field "port" Reader.u16 none <| .field "proto" Protocol.reader none .done

/-- An edge. -/
def reader : Reader Indicator :=
  row.readAs "struct Indicator" fun (source, destination, port, protocol, _) =>
    ⟨source, destination, port, protocol⟩

end FlowGraph.Flows.Indicator
