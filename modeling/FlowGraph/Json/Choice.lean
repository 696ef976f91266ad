import FlowGraph.Json.Reader

/-!
# Choices

A value that is one of several named variants. A variant without content is written as its name,
any variant as an object with one member whose key is the name. From a text, nothing else is even
looked at; a document that does not come from a text has every wrong shape named.
-/

namespace FlowGraph.Json

/-- What a variant holds: nothing, one value, or fields of its own. -/
inductive Payload (α : Type) where
  | empty (a : α)
  | one (read : Reader α)
  | fields (read : Reader α)

/-- The named variants, and the value that stands for every other name, if there is one. -/
structure Choice (α : Type) where
  variants : List (String × Payload α)
  other : Option α

namespace Choice

variable {α : Type}

/-- The variant of a name, or the one that takes all other names, if there is such a one. -/
def select (c : Choice α) (name : String) : Except ReadError (Payload α) :=
  match c.variants.lookup name, c.other with
  | some p, _ => .ok p
  | none, some a => .ok (.empty a)
  | none, none => refuse (.unknownVariant name (c.variants.map Prod.fst))

/-- The value of a variant that is written as its name only. -/
def bare : Payload α → Except ReadError α
  | .empty a => .ok a
  | .one _ => refuse (.invalidType .unitVariant "newtype variant")
  | .fields _ => refuse (.invalidType .unitVariant "struct variant")

/-- The value of a variant with its content. -/
def filled (src : Source) (d : Draft) : Payload α → Except ReadError α
  | .empty a => (Reader.unit src d).map fun _ => a
  | .one read => read src d
  | .fields read => read src d

/-- Why an object in a text has no first key. -/
def noName (c : Choice α) : ObjectStop → ReadError
  | .brokenOff => .fault .endInValue
  | .noKey (.ok found) => .mismatch (.invalidType found "variant identifier")
  | .noKey (.error fault) => .fault fault
  | .badKey strict _ => .fault strict
  | .noColon key fault =>
    match orFault key with
    | .error e => e
    | .ok name =>
      match c.select name with
      | .error e => e
      | .ok _ => .fault fault
  | _ => .fault .valueExpected

/-- Why an object in a text does not end after its first member, if it does not. -/
def single (left : List (Key × Draft)) (stop : ObjectStop) : Except ReadError Unit :=
  match left, stop with
  | [], .closed => .ok ()
  | [], .brokenOff => .error (.fault .endInObject)
  | _, _ => .error (.fault .valueExpected)

/-- The value as a text writes it. -/
def fromText (c : Choice α) (src : Source) : Draft → Except ReadError α
  | .string name => (c.select name).bind bare
  | .bad .nothing _ _ => .error (.fault .endInValue)
  | .bad .quote strict _ => .error (.fault strict)
  | .object ms stop => do
    let inside ← orFault src.inside
    match ms with
    | [] => .error (c.noName stop)
    | (key, d) :: left => do
      let name ← orFault key
      let payload ← c.select name
      let a ← filled inside d payload
      single left stop
      return a
  | _ => .error (.fault .valueExpected)

/-- The value as a document has it. -/
def fromDocument (c : Choice α) (src : Source) : Draft → Except ReadError α
  | .string name => (c.select name).bind bare
  | .object ms _ =>
    match ms with
    | [(key, d)] => do
      let name ← orFault key
      let payload ← c.select name
      filled src d payload
    | _ => refuse (.invalidValue .map "map with a single key")
  | d => d.refuse "string or map"

/-- A choice is read from a text otherwise than from a document. -/
def read (c : Choice α) : Reader α
  | .text room, d => c.fromText (.text room) d
  | src, d => c.fromDocument src d

end Choice

end FlowGraph.Json
