import FlowGraph.Decimal.Shortest

/-!
# JSON values

Documents as trees. An object is the list of its members as they stand, so a key may occur more
than once; `settled` is the reading in which the last member of a key holds.
-/

namespace FlowGraph.Json

/-- A number: an integer that fits 64 bits, with or without sign, or a binary number. -/
inductive Number where
  | integer (n : Int)
  | real (x : Decimal.Binary64)
  deriving DecidableEq

/-- A document or a part of one. -/
inductive Value where
  | null
  | bool (b : Bool)
  | number (n : Number)
  | string (s : String)
  | array (items : List Value)
  | object (members : List (String × Value))

instance : Inhabited Value := ⟨.null⟩

/-- The members whose key does not come again. -/
def lastOfEach {α : Type} : List (String × α) → List (String × α)
  | [] => []
  | (k, v) :: rest =>
    if rest.any (·.1 == k) then lastOfEach rest else (k, v) :: lastOfEach rest

namespace Value

/-- An integer. -/
def int (n : Int) : Value := .number (.integer n)

mutual

/-- The document in which every object keeps the last member of each key only. -/
def settled : Value → Value
  | .array items => .array (settledItems items)
  | .object members => .object (lastOfEach (settledMembers members))
  | .null => .null
  | .bool b => .bool b
  | .number n => .number n
  | .string s => .string s

/-- Settles the items of an array. -/
def settledItems : List Value → List Value
  | [] => []
  | v :: rest => settled v :: settledItems rest

/-- The members with settled values. -/
def settledMembers : List (String × Value) → List (String × Value)
  | [] => []
  | (k, v) :: rest => (k, settled v) :: settledMembers rest

end

end Value

end FlowGraph.Json
