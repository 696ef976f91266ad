import FlowGraph.Json.Choice

/-!
# Tagged values

Two ways to write a variant together with a tag that names it. Beside its content: an object with
one member for the tag and one for the content, in any order. Inside its content: the tag is one
more member of the object that the content is, or one more item in front of the array. Content that
comes before its tag is kept back as a document.
-/

namespace FlowGraph.Json

/-- Variants whose tag stands beside the content: their names, and how each is read. -/
structure Beside (α : Type) where
  title : String
  tag : String
  content : String
  variants : List (String × Reader α)

namespace Beside

variable {α : Type}

/-- What of a tagged value is known so far. -/
inductive Seen (α : Type) where
  | nothing
  | tag (read : Reader α)
  | content (v : Value)
  | both (a : α)

/-- The tag: one of the names, read as a variant without content. -/
def tagReader (b : Beside α) : Reader (Reader α) :=
  Choice.read ⟨b.variants.map fun v => (v.1, .empty v.2), none⟩

/-- The refusal of a tag or a content that comes again. -/
def once (b : Beside α) (name : String) : Seen α → Except ReadError Unit
  | .nothing => .ok ()
  | .tag _ => if name = b.tag then refuse (.duplicateField name) else .ok ()
  | .content _ => if name = b.content then refuse (.duplicateField name) else .ok ()
  | .both _ =>
    if name = b.tag ∨ name = b.content then refuse (.duplicateField name) else .ok ()

/-- One member: the tag, the content, or something to pass over. -/
def member (b : Beside α) (src : Source) (seen : Seen α) (key : Key) (d : Draft) :
    Except ReadError (Seen α) := do
  let name ← orFault key
  b.once name seen
  if name = b.tag then
    let read ← b.tagReader src d
    match seen with
    | .content v => return .both (← read .keptBack v.draft)
    | _ => return .tag read
  else if name = b.content then
    match seen with
    | .tag read => return .both (← read src d)
    | _ => return .content (← Reader.value src d)
  else
    orFault d.pass
    return seen

/-- The members one after the other, up to the first that cannot be taken. -/
def members (b : Beside α) (src : Source) :
    Seen α → List (Key × Draft) → Except ReadError (Seen α)
  | seen, [] => .ok seen
  | seen, (key, d) :: rest => do
    let seen ← b.member src seen key d
    b.members src seen rest

/-- The end of the object. A key without colon may still come again. -/
def close (b : Beside α) (seen : Seen α) : ObjectStop → Except ReadError Unit
  | .noColon key fault => do
    let name ← orFault key
    b.once name seen
    .error (.fault fault)
  | stop => orFault stop.strict

/-- The value, if tag and content were there. -/
def finish (b : Beside α) : Seen α → Except ReadError α
  | .nothing => refuse (.missingField b.tag)
  | .tag _ => refuse (.missingField b.content)
  | .content _ => refuse (.missingField b.tag)
  | .both a => .ok a

/-- A tag and a content as the items of an array. -/
def listed (b : Beside α) (src : Source) (stop : ListStop) :
    List Draft → Except ReadError (α × List Draft)
  | [] => do
    orFault stop.strict
    refuse (.invalidLength 0 b.title)
  | [d] => do
    let _ ← b.tagReader src d
    orFault stop.strict
    refuse (.invalidLength 1 b.title)
  | d :: e :: left => do
    let read ← b.tagReader src d
    let a ← read src e
    return (a, left)

/-- A variant is read from an object with a tag and a content, or from an array of the two. -/
def read (b : Beside α) : Reader α
  | src, .object ms stop => do
    let inside ← orFault src.inside
    let seen ← b.members inside .nothing ms
    b.close seen stop
    b.finish seen
  | src, .array ds stop => do
    let inside ← orFault src.inside
    let (a, left) ← b.listed inside stop ds
    src.closeArray 2 left stop
    return a
  | _, d => d.refuse b.title

end Beside

/-- Variants whose tag stands inside the content: their names, and how each is read. -/
structure Inside (α : Type) where
  title : String
  tag : String
  variants : List (String × Reader α)

namespace Inside

variable {α : Type}

/-- The tag: one of the names. -/
def tagReader (t : Inside α) : Reader (Reader α)
  | _, .string name =>
    match t.variants.lookup name with
    | some read => .ok read
    | none => refuse (.unknownVariant name (t.variants.map Prod.fst))
  | _, d => d.refuse "variant identifier"

/-- The refusal of a tag that comes again. -/
def once (t : Inside α) (name : String) (seen : Option (Reader α)) : Except ReadError Unit :=
  if name = t.tag ∧ seen.isSome then refuse (.duplicateField name) else .ok ()

/-- All members: the tag, and the others as they stand. -/
def members (t : Inside α) (src : Source) :
    Option (Reader α) → List (Key × Draft) →
      Except ReadError (Option (Reader α) × List (String × Value))
  | seen, [] => .ok (seen, [])
  | seen, (key, d) :: rest => do
    let name ← orFault key
    t.once name seen
    if name = t.tag then
      let read ← t.tagReader src d
      t.members src (some read) rest
    else
      let v ← Reader.value src d
      let (seen, ms) ← t.members src seen rest
      return (seen, (name, v) :: ms)

/-- The end of the object. A key without colon may still be a tag that comes again. -/
def close (t : Inside α) (seen : Option (Reader α)) : ObjectStop → Except ReadError Unit
  | .noColon key fault => do
    let name ← orFault key
    t.once name seen
    .error (.fault fault)
  | stop => orFault stop.strict

/-- The tagged value, whose content was kept back. -/
def finish (t : Inside α) (seen : Option (Reader α)) (content : Value) : Except ReadError α :=
  match seen with
  | some read => read .keptBack content.draft
  | none => refuse (.missingField t.tag)

/-- A variant is read from an object with a tag among its members, or from an array that starts with
the tag. -/
def read (t : Inside α) : Reader α
  | src, .object ms stop => do
    let inside ← orFault src.inside
    let (seen, content) ← t.members inside none ms
    t.close seen stop
    t.finish seen (.object content)
  | src, .array ds stop => do
    let inside ← orFault src.inside
    match ds with
    | [] =>
      orFault stop.strict
      refuse (.missingField t.tag)
    | d :: rest =>
      let read ← t.tagReader inside d
      let content ← orFault (Draft.strictItems inside.room rest)
      orFault stop.strict
      read .keptBack (Value.array content).draft
  | _, d => d.refuse t.title

end Inside

end FlowGraph.Json
