import FlowGraph.Json.Reader

/-!
# Rows

A row lists the fields of a structure in the order of their declaration. It reads a structure from
an object, in which members of other names are passed over and no field may come twice, or from an
array of the fields in their order. A field that may be absent has a value for that case.
-/

namespace FlowGraph.Json

/-- The fields of a structure: what is filled in so far, and what the full row gives. -/
inductive Row : Type → Type → Type 1 where
  | done : Row Unit Unit
  | field {α σ τ : Type} (name : String) (read : Reader α) (absent : Option α) (rest : Row σ τ) :
    Row (Option α × σ) (α × τ)

namespace Row

/-- How many fields there are. -/
def size {σ τ : Type} : Row σ τ → Nat
  | done => 0
  | field _ _ _ rest => rest.size + 1

/-- The row before any member, with no field filled in. -/
def blank {σ τ : Type} : Row σ τ → σ
  | done => ()
  | field _ _ _ rest => (none, rest.blank)

/-- Whether a name is that of a field, and whether this field is filled in. -/
def filled? {σ τ : Type} (name : String) : Row σ τ → σ → Option Bool
  | done, _ => none
  | field n _ _ rest, (a, s) => if n = name then some a.isSome else rest.filled? name s

/-- The row with one field filled in. -/
def fill {σ τ : Type} (src : Source) (name : String) (d : Draft) :
    Row σ τ → σ → Except ReadError σ
  | done, s => .ok s
  | field n read _ rest, (a, s) =>
    if n = name then do
      let b ← read src d
      return (some b, s)
    else do
      let s ← rest.fill src name d s
      return (a, s)

/-- The refusal of a field that comes again. -/
def once {σ τ : Type} (row : Row σ τ) (name : String) (s : σ) : Except ReadError Unit :=
  if row.filled? name s = some true then refuse (.duplicateField name) else .ok ()

/-- One member: a field, or something to pass over. -/
def member {σ τ : Type} (row : Row σ τ) (src : Source) (s : σ) (key : Key) (d : Draft) :
    Except ReadError σ := do
  let name ← orFault key
  row.once name s
  if (row.filled? name s).isSome then row.fill src name d s
  else
    orFault d.pass
    return s

/-- The members one after the other, up to the first that cannot be taken. -/
def members {σ τ : Type} (row : Row σ τ) (src : Source) :
    σ → List (Key × Draft) → Except ReadError σ
  | s, [] => .ok s
  | s, (key, d) :: rest => do
    let s ← row.member src s key d
    row.members src s rest

/-- The end of the object. A key without colon may still be a field that comes again. -/
def close {σ τ : Type} (row : Row σ τ) (s : σ) : ObjectStop → Except ReadError Unit
  | .noColon key fault => do
    let name ← orFault key
    row.once name s
    .error (.fault fault)
  | stop => orFault stop.strict

/-- What a row gives once all members are seen: the first field that is missing is named. -/
def finish {σ τ : Type} : Row σ τ → σ → Except ReadError τ
  | done, _ => .ok ()
  | field name _ absent rest, (a, s) =>
    match a, absent with
    | some b, _ => do return (b, ← rest.finish s)
    | none, some b => do return (b, ← rest.finish s)
    | none, none => refuse (.missingField name)

/-- The fields from the items of an array, and the items that are left. The place of the first
field that is missing is its number in the row. -/
def listed {σ τ : Type} (src : Source) (wanted : String) (stop : ListStop) :
    Nat → Row σ τ → List Draft → Except ReadError (τ × List Draft)
  | _, done, ds => .ok ((), ds)
  | i, field _ read _ rest, d :: ds => do
    let a ← read src d
    let (t, left) ← rest.listed src wanted stop (i + 1) ds
    return ((a, t), left)
  | i, field _ _ absent rest, [] => do
    orFault stop.strict
    match absent with
    | some a => do
      let (t, left) ← rest.listed src wanted stop (i + 1) []
      return ((a, t), left)
    | none => refuse (.invalidLength i wanted)

/-- What is wanted of an array in the place of the structure. -/
def lengthText {σ τ : Type} (row : Row σ τ) (title : String) : String :=
  title ++ " with " ++ toString row.size ++ (if row.size = 1 then " element" else " elements")

/-- The structure from an object or an array. -/
def read {σ τ : Type} (row : Row σ τ) (title : String) : Reader τ
  | src, .object ms stop => do
    let inside ← orFault src.inside
    let s ← row.members inside row.blank ms
    row.close s stop
    row.finish s
  | src, .array ds stop => do
    let inside ← orFault src.inside
    let (t, left) ← row.listed inside (row.lengthText title) stop 0 ds
    src.closeArray row.size left stop
    return t
  | _, d => d.refuse title

/-- What is made of the full row. -/
def readAs {σ τ α : Type} (row : Row σ τ) (title : String) (make : τ → α) : Reader α :=
  fun src d => (row.read title src d).map make

end Row

end FlowGraph.Json
