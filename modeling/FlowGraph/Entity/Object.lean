import FlowGraph.Net.Endpoint

/-!
# Entities

The objects of a cluster that tell which workload a container belongs to and which workloads serve
an endpoint: pods with their containers, and services with the workloads that they select.
-/

namespace FlowGraph.Entity

open Net

/-- A port that a container serves. -/
structure Port where
  port : UInt16
  protocol : Protocol
  deriving DecidableEq

/-- A container of a pod. -/
structure Container where
  name : String
  id : String
  ports : List Port
  deriving DecidableEq

/-- The address of a pod: its own, or that of the host that it shares with others. -/
inductive PodAddress where
  | host (address : Address)
  | pod (address : Address)
  deriving DecidableEq

/-- Containers that run together for one workload. -/
structure Pod where
  name : String
  ns : String
  workload : String
  address : PodAddress
  containers : List Container
  deriving DecidableEq

/-- A port of a service, and the port behind it. -/
structure ServicePort where
  port : UInt16
  target : UInt16
  protocol : Protocol
  deriving DecidableEq

/-- An address behind which workloads serve. -/
structure Service where
  name : String
  ns : String
  address : Address
  ports : List ServicePort
  workloads : List String
  deriving DecidableEq

/-- An object of the cluster. -/
inductive Object where
  | pod (p : Pod)
  | service (s : Service)
  deriving DecidableEq

end FlowGraph.Entity
