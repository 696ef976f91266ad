import FlowGraph.Net.Address

/-!
# Reading addresses

The readers take what they can from the front of a text and give back the rest. An octet has at
most three digits and no leading zero; a group has at most four hexadecimal digits; a port and a
scope may have any number of leading zeros. An IPv6 address may end in a dotted IPv4 address that
stands for two groups, and may leave out one run of zero groups with a double colon. An address is
read only if nothing is left over.
-/

namespace FlowGraph.Net

/-- What a reader takes from the front of a text, with the rest. -/
abbrev Reads (α : Type) := List Char → Option (α × List Char)

namespace Reads

/-- The value of a digit in a base of at most sixteen. -/
def digit? (base : Nat) (c : Char) : Option Nat :=
  let value :=
    if '0' ≤ c ∧ c ≤ '9' then c.toNat - '0'.toNat
    else if 'a' ≤ c ∧ c ≤ 'f' then c.toNat - 'a'.toNat + 10
    else if 'A' ≤ c ∧ c ≤ 'F' then c.toNat - 'A'.toNat + 10
    else base
  if value < base then some value else none

/-- The digits at the front of a text. -/
def digits (base : Nat) : List Char → List Nat × List Char
  | [] => ([], [])
  | c :: rest =>
    match digit? base c with
    | some d => let (ds, left) := digits base rest; (d :: ds, left)
    | none => ([], c :: rest)

/-- The number that digits of a base write. -/
def valueOf (base : Nat) (ds : List Nat) : Nat := ds.foldl (fun n d => base * n + d) 0

/-- What a number may look like: its base, the most digits if there is a bound, whether it may
start with a zero that is not its only digit, and the least number that is too large. -/
structure NumberForm where
  base : Nat
  width : Option Nat
  zeros : Bool
  limit : Nat

/-- Whether digits are of a form. -/
def NumberForm.admits (form : NumberForm) (ds : List Nat) : Bool :=
  ds ≠ [] && form.width.all (ds.length ≤ ·) &&
    (form.zeros || ds.head? ≠ some 0 || ds.length = 1) && valueOf form.base ds < form.limit

/-- A number of a form. -/
def number (form : NumberForm) : Reads Nat := fun cs =>
  let (ds, rest) := digits form.base cs
  if form.admits ds then some (valueOf form.base ds, rest) else none

/-- A character that has to be there. -/
def char (c : Char) : Reads Unit
  | d :: rest => if d = c then some ((), rest) else none
  | [] => none

/-- An octet of an IPv4 address. -/
def octet : Reads UInt8 := fun cs =>
  (number ⟨10, some 3, false, 0x100⟩ cs).map fun (n, rest) => (n.toUInt8, rest)

/-- A group of an IPv6 address. -/
def group : Reads UInt16 := fun cs =>
  (number ⟨16, some 4, true, 0x10000⟩ cs).map fun (n, rest) => (n.toUInt16, rest)

/-- Four octets with points between them. -/
def ipv4 : Reads IPv4 := fun cs => do
  let (a, cs) ← octet cs
  let ((), cs) ← char '.' cs
  let (b, cs) ← octet cs
  let ((), cs) ← char '.' cs
  let (c, cs) ← octet cs
  let ((), cs) ← char '.' cs
  let (d, cs) ← octet cs
  return (⟨a, b, c, d⟩, cs)

/-- At most so many groups with colons between them, and whether they end in a dotted address. The
flag says whether a group has come before, so that a colon is due. -/
def groups : Nat → Bool → List Char → List UInt16 × Bool × List Char
  | 0, _, cs => ([], false, cs)
  | room + 1, due, cs =>
    let start := if due then (char ':' cs).map Prod.snd else some cs
    let dotted := if room = 0 then none else start.bind ipv4
    match dotted with
    | some (ip, rest) => (IPv6.groupsOfIPv4 ip, true, rest)
    | none =>
      match start.bind group with
      | some (g, rest) =>
        let (gs, isDotted, left) := groups room true rest
        (g :: gs, isDotted, left)
      | none => ([], false, cs)

/-- Eight groups, or fewer around a double colon that stands for at least one zero group. -/
def ipv6 : Reads IPv6 := fun cs => do
  let (head, dotted, cs) := groups 8 false cs
  if head.length = 8 then
    let ip ← IPv6.ofGroups? head
    return (ip, cs)
  else if dotted then none
  else
    let ((), cs) ← char ':' cs
    let ((), cs) ← char ':' cs
    let (tail, _, cs) := groups (7 - head.length) false cs
    let zeros := List.replicate (8 - head.length - tail.length) 0
    let ip ← IPv6.ofGroups? (head ++ zeros ++ tail)
    return (ip, cs)

/-- An address of either family, the dotted form first. -/
def address : Reads Address := fun cs =>
  match ipv4 cs with
  | some (ip, rest) => some (.v4 ip, rest)
  | none => (ipv6 cs).map fun (ip, rest) => (.v6 ip, rest)

/-- A port behind a colon. -/
def port : Reads UInt16 := fun cs => do
  let ((), cs) ← char ':' cs
  let (n, cs) ← number ⟨10, none, true, 0x10000⟩ cs
  return (n.toUInt16, cs)

/-- A percent sign and a scope, or nothing, which is scope zero. -/
def scope : Reads UInt32 := fun cs =>
  match (char '%' cs).bind fun ((), cs) => number ⟨10, none, true, 0x100000000⟩ cs with
  | some (n, rest) => some (n.toUInt32, rest)
  | none => some (0, cs)

/-- An IPv4 address and a port. -/
def socketV4 : Reads SocketAddress := fun cs => do
  let (ip, cs) ← ipv4 cs
  let (p, cs) ← port cs
  return (.v4 ip p, cs)

/-- An IPv6 address in brackets, with its scope, and a port. -/
def socketV6 : Reads SocketAddress := fun cs => do
  let ((), cs) ← char '[' cs
  let (ip, cs) ← ipv6 cs
  let (s, cs) ← scope cs
  let ((), cs) ← char ']' cs
  let (p, cs) ← port cs
  return (.v6 ip p s, cs)

/-- A socket address of either family. -/
def socket : Reads SocketAddress := fun cs =>
  match socketV4 cs with
  | some read => some read
  | none => socketV6 cs

/-- What is read if the whole text is taken. -/
def whole {α : Type} (r : Reads α) (text : String) : Option α :=
  match r text.toList with
  | some (a, []) => some a
  | _ => none

end Reads

/-- The address that a text writes. -/
def Address.ofText? (text : String) : Option Address := Reads.address.whole text

/-- The socket address that a text writes. -/
def SocketAddress.ofText? (text : String) : Option SocketAddress := Reads.socket.whole text

end FlowGraph.Net
