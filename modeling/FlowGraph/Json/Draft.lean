import FlowGraph.Json.Error

/-!
# Drafts

A text as far as it can be taken apart: the tree of a document in which a part may be broken. A
draft has two readings. The strict one gives the document, or the first fault in the order of the
text; it bounds how deep arrays and objects lie in each other. The loose one only passes over a
part that nobody asked for, and lets through what does not hide where the part ends: numbers out
of range, texts that are no Unicode, any depth.
-/

namespace FlowGraph.Json

/-- What the text of a broken part begins with. -/
inductive Start where
  | nothing
  | quote
  | other
  deriving DecidableEq

/-- How a list ends: properly; broken off, at the end of the text or inside the last item; with
something that is neither comma nor end; with the end right after a comma. -/
inductive ListStop where
  | closed
  | brokenOff
  | noComma
  | trailingComma
  deriving DecidableEq

/-- A key, or why it cannot be read although it can be passed over. -/
abbrev Key := Except Fault String

/-- How an object ends: as lists do; with the text ending after a comma; with something else in
the place of a key, which is what was found there or why it cannot be told; with a key that cannot
even be passed over; or with a key and no colon after it. -/
inductive ObjectStop where
  | closed
  | brokenOff
  | noComma
  | trailingComma
  | endAfterComma
  | noKey (found : Except Fault Found)
  | badKey (strict loose : Fault)
  | noColon (key : Key) (fault : Fault)

/-- A document as far as it can be taken apart. A bad part has its fault in the strict reading and,
if it cannot even be passed over, its fault in the loose one. -/
inductive Draft where
  | null
  | bool (b : Bool)
  | number (n : Number)
  | string (s : String)
  | bad (start : Start) (strict : Fault) (loose : Option Fault)
  | array (items : List Draft) (stop : ListStop)
  | object (members : List (Key × Draft)) (stop : ObjectStop)

namespace ListStop

/-- Why the list does not end properly, if it does not. -/
def strict : ListStop → Except Fault Unit
  | closed => .ok ()
  | brokenOff => .error .endInList
  | noComma => .error .listCommaOrEndExpected
  | trailingComma => .error .trailingComma

/-- Why the list cannot be passed over: after a comma an item is due. -/
def loose : ListStop → Except Fault Unit
  | trailingComma => .error .valueExpected
  | stop => stop.strict

/-- Why the list does not end after as many items as were wanted. -/
def bounded : ListStop → Except Fault Unit
  | noComma => .error .trailingCharacters
  | stop => stop.strict

end ListStop

namespace ObjectStop

/-- Why the object does not end properly, if it does not. -/
def strict : ObjectStop → Except Fault Unit
  | closed => .ok ()
  | brokenOff => .error .endInObject
  | noComma => .error .objectCommaOrEndExpected
  | trailingComma => .error .trailingComma
  | endAfterComma => .error .endInValue
  | noKey _ => .error .key
  | badKey strict _ => .error strict
  | noColon key fault => do let _ ← key; throw fault

/-- Why the object cannot be passed over: after a comma a key is due. -/
def loose : ObjectStop → Except Fault Unit
  | trailingComma => .error .key
  | endAfterComma => .error .endInObject
  | badKey _ loose => .error loose
  | noColon _ fault => .error fault
  | stop => stop.strict

end ObjectStop

/-- How many arrays and objects may still lie in each other, if that is bounded. -/
abbrev Room := Option Nat

/-- The room inside an array or an object. -/
def Room.inside : Room → Except Fault Room
  | none => .ok none
  | some 0 => .error .depth
  | some (n + 1) => .ok (some n)

namespace Draft

/-- What stands in the place of something else. An array or an object is known by its first
character. -/
def found : Draft → Except Fault Found
  | null => .ok .null
  | bool b => .ok (.bool b)
  | number n => .ok (.ofNumber n)
  | string s => .ok (.string s)
  | bad _ strict _ => .error strict
  | array _ _ => .ok .sequence
  | object _ _ => .ok .map

mutual

/-- The document that the draft is of, if it has no fault and is not too deep. -/
def strict (room : Room) : Draft → Except Fault Value
  | null => .ok .null
  | bool b => .ok (.bool b)
  | number n => .ok (.number n)
  | string s => .ok (.string s)
  | bad _ fault _ => .error fault
  | array items stop => do
    let inside ← room.inside
    let vs ← strictItems inside items
    stop.strict
    return .array vs
  | object members stop => do
    let inside ← room.inside
    let ms ← strictMembers inside members
    stop.strict
    return .object ms

/-- The items, each read strictly. -/
def strictItems (room : Room) : List Draft → Except Fault (List Value)
  | [] => .ok []
  | d :: rest => do
    let v ← strict room d
    let vs ← strictItems room rest
    return v :: vs

/-- The members, each read strictly. -/
def strictMembers (room : Room) : List (Key × Draft) → Except Fault (List (String × Value))
  | [] => .ok []
  | (key, d) :: rest => do
    let k ← key
    let v ← strict room d
    let ms ← strictMembers room rest
    return (k, v) :: ms

end

mutual

/-- A draft that nobody wants, if it can be passed over. -/
def pass : Draft → Except Fault Unit
  | bad _ _ (some fault) => .error fault
  | array items stop => do
    passItems items
    stop.loose
  | object members stop => do
    passMembers members
    stop.loose
  | null => .ok ()
  | bool _ => .ok ()
  | number _ => .ok ()
  | string _ => .ok ()
  | bad _ _ none => .ok ()

/-- Items that nobody wants. -/
def passItems : List Draft → Except Fault Unit
  | [] => .ok ()
  | d :: rest => do
    pass d
    passItems rest

/-- Members that nobody wants. -/
def passMembers : List (Key × Draft) → Except Fault Unit
  | [] => .ok ()
  | (_, d) :: rest => do
    pass d
    passMembers rest

end

end Draft

namespace Value

mutual

/-- The draft of a whole document. -/
def draft : Value → Draft
  | null => .null
  | bool b => .bool b
  | number n => .number n
  | string s => .string s
  | array items => .array (draftItems items) .closed
  | object members => .object (draftMembers members) .closed

/-- The drafts of the items of an array. -/
def draftItems : List Value → List Draft
  | [] => []
  | v :: rest => draft v :: draftItems rest

/-- The drafts of the members of an object. -/
def draftMembers : List (String × Value) → List (Key × Draft)
  | [] => []
  | (k, v) :: rest => (.ok k, draft v) :: draftMembers rest

end

/-- Items are drafted one by one. -/
theorem draftItems_eq (vs : List Value) : draftItems vs = vs.map draft := by
  induction vs with
  | nil => rfl
  | cons v rest ih => rw [draftItems, ih]; rfl

/-- Members are drafted one by one, under keys that can be read. -/
theorem draftMembers_eq (ms : List (String × Value)) :
    draftMembers ms = ms.map fun m => (.ok m.1, draft m.2) := by
  induction ms with
  | nil => rfl
  | cons m rest ih => rw [draftMembers, ih]; rfl

mutual

/-- A whole document is its own strict reading where depth has no bound. -/
theorem strict_draft (v : Value) : v.draft.strict none = .ok v := by
  match v with
  | null => rfl
  | bool _ => rfl
  | number _ => rfl
  | string _ => rfl
  | array items =>
    rw [draft, Draft.strict, Room.inside]
    simp only [strictItems_draft items, bind, Except.bind, ListStop.strict]
    rfl
  | object members =>
    rw [draft, Draft.strict, Room.inside]
    simp only [strictMembers_draft members, bind, Except.bind, ObjectStop.strict]
    rfl

/-- Whole items are their own strict readings. -/
theorem strictItems_draft (vs : List Value) :
    Draft.strictItems none (draftItems vs) = .ok vs := by
  match vs with
  | [] => rfl
  | v :: rest =>
    rw [draftItems, Draft.strictItems, strict_draft v, strictItems_draft rest]
    rfl

/-- Whole members are their own strict readings. -/
theorem strictMembers_draft (ms : List (String × Value)) :
    Draft.strictMembers none (draftMembers ms) = .ok ms := by
  match ms with
  | [] => rfl
  | (k, v) :: rest =>
    rw [draftMembers, Draft.strictMembers, strict_draft v, strictMembers_draft rest]
    rfl

end

end Value

end FlowGraph.Json
