import FlowGraph.Json.Draft
import FlowGraph.Net.AddressReader
import FlowGraph.Time

/-!
# Readers

A reader makes a value of the domain from a draft, or says why not. What it admits depends a little
on where the draft comes from: from the text itself, from a document that was kept back until its
tag was known, or from a document that was read for its own sake. Only the text bounds depth.
-/

namespace FlowGraph.Json

/-- Where a draft comes from. -/
inductive Source where
  | text (room : Nat)
  | keptBack
  | document
  deriving DecidableEq

/-- The depth that a text may have. -/
def Source.top : Source := .text 127

namespace Source

/-- The room for arrays and objects. -/
def room : Source → Room
  | text n => some n
  | keptBack => none
  | document => none

/-- The source of what lies inside an array or an object. -/
def inside : Source → Except Fault Source
  | text 0 => .error .depth
  | text (n + 1) => .ok (text n)
  | keptBack => .ok keptBack
  | document => .ok document

end Source

/-- How a value is made from a draft. -/
abbrev Reader (α : Type) := Source → Draft → Except ReadError α

/-- A fault of the text as an error. -/
def orFault {α : Type} : Except Fault α → Except ReadError α
  | .ok a => .ok a
  | .error f => .error (.fault f)

/-- The error of a document that is not as it was wanted. -/
def refuse {α : Type} (m : Mismatch) : Except ReadError α := .error (.mismatch m)

/-- The error of a draft that stands where something else was wanted. -/
def Draft.refuse {α : Type} (wanted : String) (d : Draft) : Except ReadError α := do
  let found ← orFault d.found
  Json.refuse (.invalidType found wanted)

namespace Reader

/-- An integer for which there is a value. -/
def integer {α : Type} (wanted : String) (make : Int → Option α) : Reader α
  | _, .number (.integer n) =>
    match make n with
    | some a => .ok a
    | none => refuse (.invalidValue (.integer n) wanted)
  | _, d => d.refuse wanted

/-- A number of sixteen bits without sign. -/
def u16 : Reader UInt16 :=
  integer "u16" fun n => if 0 ≤ n ∧ n < 0x10000 then some n.toNat.toUInt16 else none

/-- A count of microseconds. -/
def micros : Reader Micros := integer "i64" Micros.ofInt?

/-- A string. -/
def string : Reader String
  | _, .string s => .ok s
  | _, d => d.refuse "a string"

/-- What a string is the text of. -/
def written {α : Type} (wanted : String) (make : String → Option α) : Reader α
  | _, .string s =>
    match make s with
    | some a => .ok a
    | none => refuse (.addressText wanted)
  | _, d => d.refuse wanted

/-- The text of an address. -/
def address : Reader Net.Address := written "IP address" Net.Address.ofText?

/-- The text of a socket address. -/
def socket : Reader Net.SocketAddress := written "socket address" Net.SocketAddress.ofText?

/-- Nothing. A document that was kept back may also say so by an object without members. -/
def unit : Reader Unit
  | _, .null => .ok ()
  | .keptBack, .object [] .closed => .ok ()
  | _, d => d.refuse "unit"

/-- The items one after the other, up to the first that cannot be read. -/
def items {α : Type} (read : Draft → Except ReadError α) :
    List Draft → Except ReadError (List α)
  | [] => .ok []
  | d :: rest => do
    let a ← read d
    let more ← items read rest
    return a :: more

/-- A list of items. -/
def list {α : Type} (read : Reader α) : Reader (List α)
  | src, .array ds stop => do
    let inside ← orFault src.inside
    let all ← items (read inside) ds
    orFault stop.strict
    return all
  | _, d => d.refuse "a sequence"

/-- Any document, as it stands. -/
def value : Reader Value := fun src d => orFault (d.strict src.room)

/-- A value, if the document that stands there is of its shape. -/
def lenient {α : Type} (read : Reader α) : Reader (Option α) := fun src d => do
  let v ← value src d
  return (read .document v.settled.draft).toOption

/-- The value made from what is read. -/
def map {α β : Type} (f : α → β) (read : Reader α) : Reader β := fun src d =>
  (read src d).map f

end Reader

/-- The end of an array from which all wanted items are taken. -/
def Source.closeArray (src : Source) (count : Nat) (left : List Draft) (stop : ListStop) :
    Except ReadError Unit :=
  match src, left with
  | _, [] => orFault stop.bounded
  | .text _, _ => .error (.fault .trailingCharacters)
  | .keptBack, _ =>
    let unit := if count = 1 then " element in sequence" else " elements in sequence"
    refuse (.invalidLength (count + left.length) (toString count ++ unit))
  | .document, _ => refuse (.invalidLength (count + left.length) "fewer elements in array")

end FlowGraph.Json
