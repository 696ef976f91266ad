import FlowGraph.Net.Address

/-!
# Endpoints

Transport protocols, the endpoints that connections lead to, and their texts. Protocols are
ordered as listed, the numbered ones last and by their number.
-/

namespace FlowGraph.Net

/-- A transport protocol; one without a name goes by its number. -/
inductive Protocol where
  | icmp
  | tcp
  | udp
  | other (number : UInt16)
  deriving DecidableEq

/-- A place that serves connections. -/
structure Endpoint where
  address : Address
  port : UInt16
  protocol : Protocol
  deriving DecidableEq

namespace Protocol

/-- The place of the protocol among its kinds, and its number there. -/
def rank : Protocol → Nat
  | icmp => 0
  | tcp => 1
  | udp => 2
  | other n => 3 + n.toNat

instance : LE Protocol := ⟨fun p q => p.rank ≤ q.rank⟩
instance (p q : Protocol) : Decidable (p ≤ q) := inferInstanceAs (Decidable (p.rank ≤ q.rank))

/-- A protocol as it stands in a line of the journal. -/
def text : Protocol → String
  | icmp => "icmp"
  | tcp => "tcp"
  | udp => "udp"
  | other n => "proto-" ++ decimal n.toNat

end Protocol

namespace Endpoint

/-- The endpoint at a socket address. -/
def ofSocket (sock : SocketAddress) (protocol : Protocol) : Endpoint :=
  ⟨sock.address, sock.port, protocol⟩

/-- Address, port and protocol; an IPv6 address stands in brackets. -/
def text (e : Endpoint) : String :=
  let host :=
    match e.address with
    | .v4 ip => ip.text
    | .v6 ip => "[" ++ ip.text ++ "]"
  host ++ ":" ++ decimal e.port.toNat ++ "/" ++ e.protocol.text

end Endpoint

end FlowGraph.Net
