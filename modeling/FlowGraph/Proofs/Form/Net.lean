import FlowGraph.Form.Net
import FlowGraph.Proofs.Json.Writing
import FlowGraph.Proofs.Net.Address

/-!
# Written times, addresses and protocols

Times, addresses, socket addresses and protocols are read from the documents that they are written
as. None of these is deep: only a protocol without a name stands in an object.
-/

namespace FlowGraph

open Json

/-- A time is read from the number of microseconds that it is written as. -/
lemma Micros.writes_encode (t : Micros) : t.encode.Writes Reader.micros t :=
  Value.writes_integer t.ofInt?_us

namespace Net

/-- An address is read from the text that it is written as. -/
lemma Address.writes_encode (a : Address) : a.encode.Writes Reader.address a :=
  Value.writes_written a.ofText?_text

/-- A socket address is read from the text that it is written as. -/
lemma SocketAddress.writes_encode (s : SocketAddress) : s.encode.Writes Reader.socket s :=
  Value.writes_written s.ofText?_text

namespace Protocol

/-- A protocol is read from its name, or from the number of a protocol without one. -/
lemma writes_encode (p : Protocol) : p.encode.Writes reader p := by
  cases p with
  | icmp => exact Choice.writes_name rfl
  | tcp => exact Choice.writes_name rfl
  | udp => exact Choice.writes_name rfl
  | other n =>
    have known : choice.select "Other" = .ok (.one (Reader.u16.map other)) := rfl
    exact Choice.writes_content known ((Value.writes_u16 n).map other)

/-- A protocol takes one level, since a number stands in an object. -/
lemma fits_encode (p : Protocol) (n : Nat) : p.encode.Fits (some (n + 1)) := by
  cases p with
  | other number =>
    apply Value.fits_object
    rw [List.forall_mem_singleton]
    exact Value.fits_int _
  | _ => rfl

/-- A protocol is written with no key twice. -/
lemma settled_encode (p : Protocol) : p.encode.settled = p.encode := by
  cases p <;> rfl

end Protocol

end Net

end FlowGraph
