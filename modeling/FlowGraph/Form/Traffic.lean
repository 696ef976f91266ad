import FlowGraph.Form.Net
import FlowGraph.Traffic.Observation

/-!
# The written form of what collectors report

Batches are read strictly, but each observation in one is first read for its own sake: one that is
no structure at all is left out, and a part that is not of its shape counts as missing, so that the
rest of the batch still goes through. The reasons why observations were left out can be asked for,
also when the batch is refused after they were read.
-/

namespace FlowGraph.Traffic

open Json Net

/-- A missing part is written as null. -/
def encodeOption {α : Type} (encode : α → Value) : Option α → Value
  | some a => encode a
  | none => .null

namespace Role

/-- A role is written as its name. -/
def encode (r : Role) : Value := .string r.name

/-- The kinds of roles; every other name stands for an unknown one. -/
def choice : Choice Role := ⟨[("Client", .empty client), ("Server", .empty server)], some unknown⟩

/-- A role. -/
def reader : Reader Role := choice.read

end Role

namespace Observation

/-- An observation is written with all its parts. -/
def encode (o : Observation) : Value :=
  .object
    [("container_id", encodeOption .string o.container),
      ("local_address", encodeOption Address.encode o.localAddress),
      ("remote_address", encodeOption SocketAddress.encode o.remote),
      ("protocol", encodeOption Protocol.encode o.protocol),
      ("role", encodeOption Role.encode o.role),
      ("close_timestamp", encodeOption Micros.encode o.closeTime)]

/-- The parts of an observation, each of which may be absent or of no use. -/
def row :=
  Row.field "container_id" Reader.string.lenient (some none) <|
    .field "local_address" Reader.address.lenient (some none) <|
    .field "remote_address" Reader.socket.lenient (some none) <|
    .field "protocol" Protocol.reader.lenient (some none) <|
    .field "role" Role.reader.lenient (some none) <|
    .field "close_timestamp" Reader.micros.lenient (some none) .done

/-- An observation, of which parts may be missing. -/
def reader : Reader Observation :=
  row.readAs "struct Record" fun (container, localAddress, remote, protocol, role, closeTime, _) =>
      ⟨container, localAddress, remote, protocol, role, closeTime⟩

/-- Reads an observation, or keeps the reason why there is none. -/
def attempt : Reader (Except ReadError Observation) := fun src d => do
  let v ← Reader.value src d
  return reader .document v.settled.draft

end Observation

namespace Batch

/-- A batch is written with its time and its observations. -/
def encode (b : Batch) : Value :=
  .object [("time", b.time.encode), ("updated", .array (b.observations.map Observation.encode))]

/-- The fields of a batch, the elements of which may be absent. -/
def row : Row (Option Micros × Option (List (Except ReadError Observation)) × Unit)
    (Micros × List (Except ReadError Observation) × Unit) :=
  .field "time" Reader.micros none <|
    .field "updated" Observation.attempt.list (some []) .done

/-- A batch of the elements that could be read; the others are left out. -/
def reader : Reader Batch :=
  row.readAs "struct Info" fun (time, attempts, _) =>
    ⟨time, attempts.filterMap Except.toOption⟩

/-- The reason why an attempt failed, if it did. -/
def failure? {α : Type} : Except ReadError α → Option ReadError
  | .error e => some e
  | .ok _ => none

/-- The members up to the first of a key. -/
def upTo (name : String) : List (Key × Draft) → List (Key × Draft)
  | [] => []
  | (key, d) :: rest =>
    if key.toOption = some name then [(key, d)] else (key, d) :: upTo name rest

/-- The reasons why observations are left out of a batch, in their order, once the observations
are read, whether or not the batch is refused for something that comes after them. -/
def leftOut (src : Source) (d : Draft) : List ReadError :=
  let filled :=
    match src.inside, d with
    | .ok inside, .object ms _ => (row.members inside row.blank (upTo "updated" ms)).toOption
    | .ok inside, .array (a :: b :: _) _ => do
      let (time, attempts, _) ← (row.listed inside "" .closed 0 [a, b]).toOption.map Prod.fst
      return (some time, some attempts, ())
    | _, _ => none
  match filled with
  | some (_, some attempts, _) => attempts.filterMap failure?
  | _ => []

end Batch

end FlowGraph.Traffic
