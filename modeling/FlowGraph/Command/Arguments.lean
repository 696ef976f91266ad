import FlowGraph.Form.Entity
import FlowGraph.Form.Request
import FlowGraph.Journal.Event

/-!
# What arguments stand for

An interval is a positive number of seconds; a file of entities holds a list of objects. What is
wrong with an argument is a cause, and its words are given in one place.
-/

namespace FlowGraph.Command

open Journal

/-- What is wrong with an argument. -/
inductive ArgumentError where
  | noInterval
  | noNumber (text : String)
  | noFile (path : String)
  | entities (path : String) (reason : Json.ReadError)
  deriving DecidableEq

/-- What is wrong with the arguments, in words. -/
def ArgumentError.reason : ArgumentError → String
  | noInterval => "invalid argument 'interval': must be at least 1 second"
  | noNumber text => "Invalid value: The argument '" ++ text ++ "' isn't a valid value"
  | noFile path => "invalid argument '" ++ path ++ "': No such file or directory (os error 2)"
  | entities path reason => "invalid entities in '" ++ path ++ "': " ++ reason.message

/-- The error as a line of its own. -/
def ArgumentError.message (e : ArgumentError) : String := "error: " ++ e.reason ++ "\n"

/-- The number below a limit that a text writes in digits, perhaps with a plus in front. -/
def number? (limit : Nat) (text : String) : Option Nat :=
  let ds :=
    match text.toList with
    | '+' :: rest => rest
    | cs => cs
  if ds.isEmpty || !ds.all Char.isDigit then none
  else
    let n := ds.foldl (fun n c => 10 * n + (c.toNat - '0'.toNat)) 0
    if n < limit then some n else none

/-- The period of a number of seconds. -/
def interval (seconds : Nat) : Except ArgumentError Period :=
  if seconds = 0 then .error .noInterval else .ok (.ofSeconds seconds)

/-- The period that a text gives in seconds. -/
def intervalOfText (text : String) : Except ArgumentError Period :=
  match number? 0x10000000000000000 text with
  | some n => interval n
  | none => .error (.noNumber text)

/-- The bytes of a file, if there is one. -/
def fileBytes (path : String) : Option Json.Bytes → Except ArgumentError Json.Bytes
  | some bytes => .ok bytes
  | none => .error (.noFile path)

/-- The objects of a file, if it is there and its content can be read as a list of them. -/
def fileObjects (path : String) (content : Option Json.Bytes) :
    Except ArgumentError (List Entity.Object) := do
  let bytes ← fileBytes path content
  match Json.decode Entity.Object.listReader bytes with
  | .ok objects => return objects
  | .error reason => throw (.entities path reason)

end FlowGraph.Command
