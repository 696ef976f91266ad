import FlowGraph.Entity.Directory
import FlowGraph.Form.Net
import FlowGraph.Json.Tagged

/-!
# The written form of entities

How the objects of a cluster stand in documents. The kind of an object stands among its fields, the
kind of a pod's address beside the address; both go by the same name.
-/

namespace FlowGraph.Entity

open Json Net

namespace Port

/-- A port is written with its protocol. -/
def encode (p : Port) : Value :=
  .object [("port", .int p.port.toNat), ("protocol", p.protocol.encode)]

/-- The fields of a port of a container. -/
def row :=
  Row.field "port" Reader.u16 none <| .field "protocol" Protocol.reader none .done

/-- A port of a container. -/
def reader : Reader Port :=
  row.readAs "struct Port" fun (port, protocol, _) => ⟨port, protocol⟩

end Port

namespace ServicePort

/-- A port of a service is written with the port behind it. -/
def encode (p : ServicePort) : Value :=
  .object
    [("port", .int p.port.toNat), ("target", .int p.target.toNat),
      ("protocol", p.protocol.encode)]

/-- The fields of a port of a service. -/
def row :=
  Row.field "port" Reader.u16 none <| .field "target" Reader.u16 none <|
    .field "protocol" Protocol.reader none .done

/-- Reads a port of a service. -/
def reader : Reader ServicePort :=
  row.readAs "struct ServicePort" fun (port, target, protocol, _) =>
    ⟨port, target, protocol⟩

end ServicePort

namespace Container

/-- A container is written with its ports. -/
def encode (c : Container) : Value :=
  .object
    [("name", .string c.name), ("id", .string c.id), ("ports", .array (c.ports.map Port.encode))]

/-- The fields of a container, which has no ports if they are absent. -/
def row :=
  Row.field "name" Reader.string none <| .field "id" Reader.string none <|
    .field "ports" Port.reader.list (some []) .done

/-- A container. -/
def reader : Reader Container :=
  row.readAs "struct Container" fun (name, id, ports, _) => ⟨name, id, ports⟩

end Container

namespace PodAddress

/-- The address of a pod is written with its kind beside it. -/
def encode : PodAddress → Value
  | host a => .object [("kind", .string "Host"), ("ip", a.encode)]
  | pod a => .object [("kind", .string "Pod"), ("ip", a.encode)]

/-- The address of a pod is that of its host or its own, and its kind stands beside it. -/
def kinds : Beside PodAddress where
  title := "adjacently tagged enum IP"
  tag := "kind"
  content := "ip"
  variants := [("Host", Reader.address.map host), ("Pod", Reader.address.map pod)]

/-- Reads the address of a pod. -/
def reader : Reader PodAddress := kinds.read

end PodAddress

namespace Pod

/-- The members of a pod as they are written. -/
def members (p : Pod) : List (String × Value) :=
  [("name", .string p.name), ("ns", .string p.ns), ("workload", .string p.workload),
    ("ip", p.address.encode), ("containers", .array (p.containers.map Container.encode))]

/-- A pod is written with its parts. -/
def encode (p : Pod) : Value := .object p.members

/-- The fields of a pod. -/
def row :=
  Row.field "name" Reader.string none <| .field "ns" Reader.string none <|
    .field "workload" Reader.string none <| .field "ip" PodAddress.reader none <|
    .field "containers" Container.reader.list none .done

/-- A pod. -/
def reader : Reader Pod :=
  row.readAs "struct Pod" fun (name, ns, workload, address, containers, _) =>
    ⟨name, ns, workload, address, containers⟩

end Pod

namespace Service

/-- The members of a service as they are written. -/
def members (s : Service) : List (String × Value) :=
  [("name", .string s.name), ("ns", .string s.ns), ("ip", s.address.encode),
    ("ports", .array (s.ports.map ServicePort.encode)),
    ("workloads", .array (s.workloads.map .string))]

/-- A service is written with its parts. -/
def encode (s : Service) : Value := .object s.members

/-- The fields of a service. -/
def row :=
  Row.field "name" Reader.string none <| .field "ns" Reader.string none <|
    .field "ip" Reader.address none <| .field "ports" ServicePort.reader.list none <|
    .field "workloads" Reader.string.list none .done

/-- A service. -/
def reader : Reader Service :=
  row.readAs "struct Service" fun (name, ns, address, ports, workloads, _) =>
    ⟨name, ns, address, ports, workloads⟩

end Service

namespace Object

/-- An object is written with its kind in front of its members. -/
def encode : Object → Value
  | pod p => .object (("kind", .string "Pod") :: p.members)
  | service s => .object (("kind", .string "Service") :: s.members)

/-- An object is a pod or a service, and its kind stands among its members. -/
def kinds : Inside Object where
  title := "internally tagged enum Object"
  tag := "kind"
  variants := [("Pod", Pod.reader.map pod), ("Service", Service.reader.map service)]

/-- An object. -/
def reader : Reader Object := kinds.read

/-- The objects of a frame or a file. -/
def listReader : Reader (List Object) := Object.reader.list

end Object

namespace Lookup

/-- A lookup is written with its ports. -/
def encode (l : Lookup) : Value :=
  .object
    [("workload", .string l.workload),
      ("ports", .array (l.ports.map fun p => .int p.toNat))]

/-- The fields of a match. -/
def row :=
  Row.field "workload" Reader.string none <| .field "ports" Reader.u16.list none .done

/-- A match. -/
def reader : Reader Lookup :=
  row.readAs "struct Lookup" fun (workload, ports, _) => ⟨workload, ports⟩

end Lookup

end FlowGraph.Entity
