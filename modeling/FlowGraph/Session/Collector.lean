import FlowGraph.Engine
import FlowGraph.Form.Request
import FlowGraph.Session.Frame

/-!
# Collector sessions

One connection of a collector. It greets with its name, for which its table is registered, and then
sends batches, the first of which marks the start of a session. Another greeting is ignored. The
first frame that is no request ends the session; what came before it stays.
-/

namespace FlowGraph.Session

open Json Journal

/-- Why a session fails. -/
inductive Failure where
  | stream (ending : Ending)
  | frame (reason : ReadError)
  | updateBeforeHello
  deriving DecidableEq

/-- Why a session failed, in words. -/
def Failure.message : Failure → String
  | stream .proper => ""
  | stream .cut => "bytes remaining on stream"
  | stream .tooLong => "frame size too big"
  | frame reason => reason.message
  | updateBeforeHello => "update before hello"

/-- What an ending of the stream means for the session. -/
def Ending.failure? : Ending → Option Failure
  | proper => none
  | ending => some (.stream ending)

namespace Collector

/-- How far a session is: it waits for the greeting, or has a table and knows whether the next
batch is its first. -/
inductive Phase where
  | greeting
  | reporting (h : Handle) (first : Bool)
  deriving DecidableEq

/-- One request at a time of the engine's clock. -/
def step (now : Micros) (e : Engine) : Phase → Request → Except Failure (Engine × Phase)
  | .greeting, .hello host =>
    let (e, h, _) := e.register host now
    .ok (e, .reporting h true)
  | .greeting, .update _ => .error .updateBeforeHello
  | .reporting h first, .update b => .ok (e.process h b now first, .reporting h false)
  | .reporting h first, .hello _ => .ok (e, .reporting h first)

/-- What is told of a request. -/
def remarks (now : Micros) (e : Engine) : Phase → Request → List Event
  | .greeting, .hello host => (e.register host now).2.2
  | .greeting, .update _ => []
  | .reporting h _, .update b => e.processRemarks h b now
  | .reporting h _, .hello name =>
    match e.table? h with
    | some t => [.repeatedHello t.name name]
    | none => []

/-- What is told while a frame is read. -/
def frameRemarks (frame : Bytes) : List Event :=
  (Request.leftOut .top (Document.scan frame).root).map .leftOut

/-- One frame at a time of the engine's clock: what is told, and what becomes of the session. -/
def receive (now : Micros) (e : Engine) (phase : Phase) (frame : Bytes) :
    List Event × Except Failure (Engine × Phase) :=
  match decode Request.reader frame with
  | .error reason => (frameRemarks frame, .error (.frame reason))
  | .ok request => (frameRemarks frame ++ remarks now e phase request, step now e phase request)

/-- The frames of a session, each at its time, and the failure that ends it, if one does. -/
def run (ending : Ending) : Engine → Phase → List (Micros × Bytes) →
    Engine × List Event × Option Failure
  | e, _, [] => (e, [], ending.failure?)
  | e, phase, (now, frame) :: rest =>
    match receive now e phase frame with
    | (events, .error failure) => (e, events, some failure)
    | (events, .ok (next, phase)) =>
      let (last, more, failure) := run ending next phase rest
      (last, events ++ more, failure)

/-- A whole session, with the times at which its frames are taken. -/
def session (e : Engine) (clock : Nat → Micros) (stream : Bytes) :
    Engine × List Event × Option Failure :=
  let (fs, ending) := frames stream
  run ending e .greeting (fs.mapIdx fun i f => (clock i, f))

end Collector

end FlowGraph.Session
