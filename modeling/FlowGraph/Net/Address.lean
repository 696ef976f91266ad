/-!
# Addresses

Network addresses of both families, their texts, and the socket addresses made of them. The text
of an IPv6 address leaves out its longest run of zero groups, the first of them if several are as
long, and shows a mapped IPv4 address in its dotted form.
-/

namespace FlowGraph.Net

/-- Four octets. -/
structure IPv4 where
  a : UInt8
  b : UInt8
  c : UInt8
  d : UInt8
  deriving DecidableEq

/-- Eight groups of sixteen bits. -/
structure IPv6 where
  groups : Vector UInt16 8
  deriving DecidableEq

/-- An address of either family. -/
inductive Address where
  | v4 (ip : IPv4)
  | v6 (ip : IPv6)
  deriving DecidableEq

/-- An address with a port, and for IPv6 the scope in which the address is meant. -/
inductive SocketAddress where
  | v4 (ip : IPv4) (port : UInt16)
  | v6 (ip : IPv6) (port : UInt16) (scope : UInt32)
  deriving DecidableEq

/-- The decimal text of a number. -/
def decimal (n : Nat) : String := String.ofList (Nat.toDigits 10 n)

/-- The hexadecimal text of a number, in lower case. -/
def hexadecimal (n : Nat) : String := String.ofList (Nat.toDigits 16 n)

namespace IPv4

/-- The octets, in decimal, with points between them. -/
def text (ip : IPv4) : String :=
  ".".intercalate ([ip.a, ip.b, ip.c, ip.d].map fun octet => decimal octet.toNat)

end IPv4

namespace IPv6

/-- The address with the given groups, if there are eight. -/
def ofGroups? (gs : List UInt16) : Option IPv6 :=
  if h : gs.length = 8 then some ⟨⟨gs.toArray, by simpa using h⟩⟩ else none

/-- The groups from first to last. -/
def toList (ip : IPv6) : List UInt16 := ip.groups.toList

/-- Two groups from the four octets of an IPv4 address. -/
def groupsOfIPv4 (ip : IPv4) : List UInt16 :=
  [ip.a.toUInt16 * 256 + ip.b.toUInt16, ip.c.toUInt16 * 256 + ip.d.toUInt16]

/-- The IPv4 address that an address of the mapped range stands for. -/
def mapped? (ip : IPv6) : Option IPv4 :=
  match ip.toList with
  | [0, 0, 0, 0, 0, 0xffff, hi, lo] =>
    some ⟨(hi / 256).toUInt8, hi.toUInt8, (lo / 256).toUInt8, lo.toUInt8⟩
  | _ => none

/-- How many zero groups a list starts with. -/
def leadingZeros (gs : List UInt16) : Nat := (gs.takeWhile (· == 0)).length

/-- The first longest run of zero groups, as the place where it starts and its length. -/
def longestZeros : List UInt16 → Nat × Nat
  | [] => (0, 0)
  | g :: rest =>
    let here := leadingZeros (g :: rest)
    let (start, length) := longestZeros rest
    if length ≤ here then (0, here) else (start + 1, length)

/-- Groups in hexadecimal with colons between them. -/
def groupsText (gs : List UInt16) : String :=
  ":".intercalate (gs.map fun g => hexadecimal g.toNat)

/-- The shortest text of the address; a single zero group is written out. -/
def text (ip : IPv6) : String :=
  match ip.mapped? with
  | some inner => "::ffff:" ++ inner.text
  | none =>
    let gs := ip.toList
    let (start, length) := longestZeros gs
    if 1 < length then
      groupsText (gs.take start) ++ "::" ++ groupsText (gs.drop (start + length))
    else groupsText gs

end IPv6

namespace Address

/-- The text of the address in the form of its family. -/
def text : Address → String
  | v4 ip => ip.text
  | v6 ip => ip.text

end Address

namespace SocketAddress

/-- The address without port and scope. -/
def address : SocketAddress → Address
  | v4 ip _ => .v4 ip
  | v6 ip _ _ => .v6 ip

/-- The port of a socket address. -/
def port : SocketAddress → UInt16
  | v4 _ p => p
  | v6 _ p _ => p

/-- The address, a colon and the port; an IPv6 address stands in brackets, with its scope unless
that is zero. -/
def text : SocketAddress → String
  | v4 ip p => ip.text ++ ":" ++ decimal p.toNat
  | v6 ip p scope =>
    let zone := if scope = 0 then "" else "%" ++ decimal scope.toNat
    "[" ++ ip.text ++ zone ++ "]:" ++ decimal p.toNat

end SocketAddress

end FlowGraph.Net
