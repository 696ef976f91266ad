import FlowGraph.Entity.Object
import FlowGraph.Keyed

/-!
# Directories

Who is who: the workload of each container, and the workloads that may serve each endpoint, each
with the ports that it serves there. A directory is given as it is, or made from the objects of a
cluster, always from scratch, so that its answers come from one list of objects. The address of a
host says nothing about who serves there, as all pods of the host share it.
-/

namespace FlowGraph.Entity

open Net

/-- A workload that may serve an endpoint, and its ports. -/
structure Lookup where
  workload : String
  ports : List UInt16
  deriving DecidableEq

/-- The two questions that are asked of a directory. -/
structure Resolver where
  workload : String → Option String
  lookups : Endpoint → List Lookup

/-- The workloads of containers, and what serves at endpoints. -/
structure Directory where
  containers : Keyed String String
  endpoints : Keyed Endpoint (List Lookup)

/-- The lookups with one more port for a workload. -/
def addLookup (workload : String) (port : UInt16) : List Lookup → List Lookup
  | [] => [⟨workload, [port]⟩]
  | l :: rest =>
    if l.workload = workload then
      (if port ∈ l.ports then l else { l with ports := l.ports ++ [port] }) :: rest
    else l :: addLookup workload port rest

namespace Directory

/-- A directory of no objects. -/
def empty : Directory := ⟨.empty, .empty⟩

instance : Inhabited Directory := ⟨empty⟩

/-- The directory in which a workload serves an endpoint at one more port. -/
def serve (d : Directory) (e : Endpoint) (workload : String) (port : UInt16) : Directory :=
  { d with endpoints := d.endpoints.put e fun ls => addLookup workload port (ls.getD []) }

/-- The directory in which a container belongs to a workload. -/
def own (d : Directory) (container workload : String) : Directory :=
  { d with containers := d.containers.insert container workload }

/-- The directory with a port that a container serves at an address. -/
def addPort (workload : String) (a : Address) (d : Directory) (q : Port) : Directory :=
  d.serve ⟨a, q.port, q.protocol⟩ workload q.port

/-- The directory with a container of a pod. -/
def addContainer (p : Pod) (d : Directory) (c : Container) : Directory :=
  let served :=
    match p.address with
    | .host _ => d
    | .pod a => c.ports.foldl (addPort p.workload a) d
  served.own c.id p.workload

/-- The directory with a port of a service. -/
def addServicePort (s : Service) (d : Directory) (q : ServicePort) : Directory :=
  s.workloads.foldl (fun d w => d.serve ⟨s.address, q.port, q.protocol⟩ w q.target) d

/-- The directory with one more object. -/
def add (d : Directory) : Object → Directory
  | .pod p => p.containers.foldl (addContainer p) d
  | .service s => s.ports.foldl (addServicePort s) d

/-- The directory of a list of objects. -/
def ofObjects (objects : List Object) : Directory := objects.foldl add empty

/-- The workload that a container belongs to. -/
def workload? (d : Directory) (container : String) : Option String := d.containers.get? container

/-- The workloads that may serve an endpoint; none if it is not known. -/
def lookups (d : Directory) (e : Endpoint) : List Lookup := (d.endpoints.get? e).getD []

/-- The directory as what a cycle asks. -/
def resolver (d : Directory) : Resolver := ⟨d.workload?, d.lookups⟩

end Directory

end FlowGraph.Entity
