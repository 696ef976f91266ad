import FlowGraph.Form.Traffic
import FlowGraph.Json.Scan.Documents

/-!
# Requests, and whole texts

What a collector sends: its name, then batches. Here also stands how a text is read as a whole:
after the value nothing but blanks may follow.
-/

namespace FlowGraph

open Json

/-- What a collector sends. -/
inductive Request where
  | hello (host : String)
  | update (batch : Traffic.Batch)
  deriving DecidableEq

namespace Request

/-- A request is written as its kind with its content. -/
def encode : Request → Value
  | hello host => .object [("Hello", .object [("host", .string host)])]
  | update b => .object [("Update", b.encode)]

/-- The fields of a greeting. -/
def helloRow :=
  Row.field "host" Reader.string none .done

/-- A request is a greeting or a batch. -/
def choice : Choice Request :=
  ⟨[("Hello", .fields
      (helloRow.readAs "struct variant Request::Hello" fun (host, _) => hello host)),
    ("Update", .one (Traffic.Batch.reader.map update))], none⟩

/-- A request. -/
def reader : Reader Request := choice.read

/-- The reasons why observations are left out of an update. -/
def leftOut (src : Source) : Draft → List Json.ReadError
  | .object ((.ok "Update", d) :: _) _ =>
    match src.inside with
    | .ok inside => Traffic.Batch.leftOut inside d
    | .error _ => []
  | _ => []

end Request

namespace Json

/-- The value that a text writes. -/
def decode {α : Type} (read : Reader α) (text : Bytes) : Except ReadError α := do
  let doc := Document.scan text
  let a ← read .top doc.root
  if doc.more then .error (.fault .trailingCharacters) else return a

/-- A text as the bytes of its UTF-8 encoding. -/
def bytesOfText (s : String) : Bytes := s.toUTF8.toList

end Json

end FlowGraph
