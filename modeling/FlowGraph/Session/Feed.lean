import FlowGraph.Form.Entity
import FlowGraph.Journal.Remarks
import FlowGraph.Session.Collector

/-!
# Entity feeds

One connection of the entity feed. Every frame is a list of objects, and its directory replaces the
one before. The first frame that is no such list ends the session and changes nothing.
-/

namespace FlowGraph.Session.Feed

open Json Journal Entity

/-- The frames of a session, and the failure that ends it, if one does. -/
def run (ending : Ending) : Directory → List Bytes → Directory × List Event × Option Failure
  | d, [] => (d, [], ending.failure?)
  | d, frame :: rest =>
    match decode Object.listReader frame with
    | .error reason => (d, [], some (.frame reason))
    | .ok objects =>
      let next := Directory.ofObjects objects
      let (last, events, failure) := run ending next rest
      (last, directoryRemark next :: events, failure)

/-- A whole session: what becomes of the directory, what is told and how it ends. -/
def session (d : Directory) (stream : Bytes) : Directory × List Event × Option Failure :=
  run (frames stream).2 d (frames stream).1

end FlowGraph.Session.Feed
