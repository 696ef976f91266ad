/-!
# Times

Microseconds in a signed 64-bit range, on which differences and shifts stop at the ends of the
range, and the two kinds of evidence about a connection: that it closed at some time, or that it
is still open. Open evidence is newer than every close.
-/

namespace FlowGraph

/-- A signed 64-bit count of microseconds: a moment, or the distance from one moment to another. -/
structure Micros where
  us : Int
  least_le : -0x8000000000000000 ≤ us
  lt_limit : us < 0x8000000000000000
  deriving DecidableEq

namespace Micros

/-- The count nearest to an integer. -/
def clamp (n : Int) : Micros :=
  ⟨max (-0x8000000000000000) (min n 0x7FFFFFFFFFFFFFFF), by omega, by omega⟩

/-- The count that is an integer of the range. -/
def ofInt? (n : Int) : Option Micros :=
  if h : -0x8000000000000000 ≤ n ∧ n < 0x8000000000000000 then some ⟨n, h.1, h.2⟩ else none

/-- The moment that counting starts from. -/
def zero : Micros := ⟨0, by decide, by decide⟩

instance : Inhabited Micros := ⟨zero⟩

instance : LE Micros := ⟨fun a b => a.us ≤ b.us⟩
instance : LT Micros := ⟨fun a b => a.us < b.us⟩
instance (a b : Micros) : Decidable (a ≤ b) := inferInstanceAs (Decidable (a.us ≤ b.us))
instance (a b : Micros) : Decidable (a < b) := inferInstanceAs (Decidable (a.us < b.us))

/-- The distance from an earlier moment, as far as the range holds it. -/
def since (now earlier : Micros) : Micros := clamp (now.us - earlier.us)

/-- The moment that lies a distance away, as far as the range holds it. -/
def shift (t distance : Micros) : Micros := clamp (t.us + distance.us)

/-- A time in a line of the journal. -/
def text (t : Micros) : String := toString t.us ++ "us"

/-- The nearest count is the integer cut off at the ends of the range. -/
@[simp] theorem clamp_us (n : Int) :
    (clamp n).us = max (-0x8000000000000000) (min n 0x7FFFFFFFFFFFFFFF) := rfl

/-- An integer of the range is its own nearest count. -/
theorem clamp_of_mem {n : Int} (least : -0x8000000000000000 ≤ n)
    (limit : n < 0x8000000000000000) : clamp n = ⟨n, least, limit⟩ := by
  simp only [clamp, Micros.mk.injEq]
  omega

/-- A count is the count of its own integer. -/
theorem ofInt?_us (t : Micros) : ofInt? t.us = some t := by
  rw [ofInt?, dif_pos ⟨t.least_le, t.lt_limit⟩]

end Micros

/-- The most recent knowledge of a connection. -/
inductive Timestamp where
  | closed (time : Micros)
  | stillOpen
  deriving DecidableEq

namespace Timestamp

instance : Inhabited Timestamp := ⟨stillOpen⟩

/-- Later evidence is greater, and open evidence is greatest. -/
protected def le : Timestamp → Timestamp → Prop
  | _, stillOpen => True
  | closed s, closed t => s ≤ t
  | stillOpen, closed _ => False

instance : LE Timestamp := ⟨Timestamp.le⟩

instance decidableLE : (a b : Timestamp) → Decidable (a ≤ b)
  | closed _, stillOpen => .isTrue trivial
  | stillOpen, stillOpen => .isTrue trivial
  | closed s, closed t => inferInstanceAs (Decidable (s ≤ t))
  | stillOpen, closed _ => .isFalse id

/-- The newer of two pieces of evidence. -/
def newer (a b : Timestamp) : Timestamp := if a ≤ b then b else a

/-- Whether the connection was last seen open. -/
def isOpen : Timestamp → Bool
  | stillOpen => true
  | closed _ => false

/-- Evidence in a line of the journal. -/
def text : Timestamp → String
  | closed t => "closed at " ++ t.text
  | stillOpen => "open"

end Timestamp

end FlowGraph
