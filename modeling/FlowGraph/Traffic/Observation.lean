import FlowGraph.Traffic.Connection

/-!
# Observations

What collectors report. An observation is one event, any part of which may be missing; a batch is
the list of observations that a collector reports at one time of its own clock. Only what a client
side saw counts, and only if container, addresses and protocol are all there.
-/

namespace FlowGraph.Traffic

open Net

/-- The side that an observation was made from. -/
inductive Role where
  | client
  | server
  | unknown
  deriving DecidableEq

/-- One event that a collector saw. -/
structure Observation where
  container : Option String
  localAddress : Option Address
  remote : Option SocketAddress
  protocol : Option Protocol
  role : Option Role
  closeTime : Option Micros
  deriving DecidableEq

/-- What a collector reports at one time of its clock. -/
structure Batch where
  time : Micros
  observations : List Observation
  deriving DecidableEq

/-- What becomes of an observation. -/
inductive Verdict where
  | counts (c : Connection)
  | otherRole (role : Role)
  | noRole
  | malformed
  deriving DecidableEq

namespace Role

/-- The name of a role. -/
def name : Role → String
  | client => "Client"
  | server => "Server"
  | unknown => "Unknown"

end Role

namespace Observation

/-- The connection that was seen, if nothing that names it is missing or empty. -/
def connection? (o : Observation) : Option Connection := do
  let container ← o.container.filter (· ≠ "")
  let source ← o.localAddress
  let remote ← o.remote
  let protocol ← o.protocol
  return ⟨source, container, .ofSocket remote protocol⟩

/-- When the connection closed by the collector's clock; a time of zero means that it did not. -/
def closed? (o : Observation) : Option Micros := o.closeTime.filter (· ≠ .zero)

/-- What the observation shows, on a clock that is ahead by a distance. -/
def evidence (o : Observation) (ahead : Micros) : Timestamp :=
  match o.closed? with
  | some t => .closed (t.shift ahead)
  | none => .stillOpen

/-- What is made of an observation. -/
def verdict (o : Observation) : Verdict :=
  match o.role, o.connection? with
  | some .client, some c => .counts c
  | some .client, none => .malformed
  | some role, _ => .otherRole role
  | none, _ => .noRole

/-- The connection that the observation counts for. -/
def counted? (o : Observation) : Option Connection :=
  match o.verdict with
  | .counts c => some c
  | _ => none

end Observation

namespace Batch

/-- How far a clock is ahead of the collector's. -/
def ahead (b : Batch) (now : Micros) : Micros := now.since b.time

/-- The connections that count, each with its evidence on a clock that shows `now`. -/
def entries (b : Batch) (now : Micros) : List (Connection × Timestamp) :=
  b.observations.filterMap fun o => o.counted?.map fun c => (c, o.evidence (b.ahead now))

end Batch

end FlowGraph.Traffic
