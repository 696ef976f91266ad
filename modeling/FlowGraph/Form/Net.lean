import FlowGraph.Json.Choice
import FlowGraph.Json.Row
import FlowGraph.Net.Endpoint

/-!
# The written form of times and endpoints

How times, protocols and endpoints stand in documents, and how they are read back.
-/

namespace FlowGraph

open Json

/-- A count of microseconds is written as an integer. -/
def Micros.encode (t : Micros) : Value := .int t.us

namespace Timestamp

/-- Evidence is written as its kind, a close with its time. -/
def encode : Timestamp → Value
  | closed t => .object [("Closed", t.encode)]
  | stillOpen => .string "Open"

/-- Evidence is a close at some time, or open. -/
def choice : Choice Timestamp :=
  ⟨[("Closed", .one (Reader.micros.map closed)), ("Open", .empty stillOpen)], none⟩

/-- Evidence. -/
def reader : Reader Timestamp := choice.read

end Timestamp

namespace Net

/-- An address is written as its text. -/
def Address.encode (a : Address) : Value := .string a.text

/-- A socket address is written as its text. -/
def SocketAddress.encode (s : SocketAddress) : Value := .string s.text

namespace Protocol

/-- A protocol is written as its name, one without a name with its number. -/
def encode : Protocol → Value
  | icmp => .string "ICMP"
  | tcp => .string "TCP"
  | udp => .string "UDP"
  | other n => .object [("Other", .int n.toNat)]

/-- A protocol has a name, or else a number. -/
def choice : Choice Protocol :=
  ⟨[("ICMP", .empty icmp), ("TCP", .empty tcp), ("UDP", .empty udp),
    ("Other", .one (Reader.u16.map other))], none⟩

/-- A protocol. -/
def reader : Reader Protocol := choice.read

end Protocol

namespace Endpoint

/-- An endpoint is written with its parts. -/
def encode (e : Endpoint) : Value :=
  .object
    [("addr", e.address.encode), ("port", .int e.port.toNat), ("proto", e.protocol.encode)]

/-- The fields of an endpoint. -/
def row :=
  Row.field "addr" Reader.address none <| .field "port" Reader.u16 none <|
    .field "proto" Protocol.reader none .done

/-- An endpoint. -/
def reader : Reader Endpoint :=
  row.readAs "struct Endpoint" fun (address, port, protocol, _) =>
    ⟨address, port, protocol⟩

end Endpoint

end Net

end FlowGraph
