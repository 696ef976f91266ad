import FlowGraph.Json.Error

/-!
# Numerals

The digits of a number as they stand in a text, and the number they write. Without point and
exponent, and within 64 bits, that is an integer; minus zero and all else is a binary number. Its
significand takes digits as long as 64 bits hold them. A digit of the whole part that is left out
then counts as a power of ten, and the rest of a fraction is ignored. The significand is rounded to
a binary number, and so is each step of the multiplication or division by a power of ten.
-/

namespace FlowGraph.Json

open Decimal (Binary64)

/-- A written number: its sign, the digits of the whole part, those behind the point, and the sign
and the digits of the exponent. -/
structure Numeral where
  negative : Bool
  whole : List Nat
  fraction : Option (List Nat)
  exponent : Option (Bool × List Nat)

namespace Numeral

/-- Digits taken into a significand while 64 bits hold it, and how many are left out. -/
def gather (significand : Nat) : List Nat → Nat × Nat
  | [] => (significand, 0)
  | d :: rest =>
    if 10 * significand + d < 0x10000000000000000 then gather (10 * significand + d) rest
    else (significand, rest.length + 1)

/-- What decimal digits are worth. -/
def valueOf (ds : List Nat) : Nat := ds.foldl (fun n d => 10 * n + d) 0

/-- The binary number nearest to a power of ten, for powers that have one. -/
def powerOfTen (n : Nat) : Option Binary64 := Binary64.ofRatio? false (Nat.pow 10 n) 1

/-- A binary number divided by a power of ten, by at most the greatest one that a binary number
can hold at a time. -/
def scaleDown (x : Binary64) (n : Nat) : Option Binary64 :=
  if n ≤ 308 then (powerOfTen n).bind x.div?
  else if x.isZero then some x
  else (((powerOfTen 308).bind x.div?).bind fun y => scaleDown y (n - 308))
  termination_by n

/-- A significand times a power of ten, or why it is out of range. -/
def scaled (negative : Bool) (significand : Nat) (power : Int) : Except Fault Number :=
  let signed (x : Binary64) : Number := .real { x with negative := negative }
  let result :=
    (Binary64.ofRatio? false significand 1).bind fun x =>
      if power < 0 then scaleDown x power.natAbs
      else if power ≤ 308 then (powerOfTen power.toNat).bind x.mul?
      else if x.isZero then some x
      else none
  match result with
  | some x => .ok (signed x)
  | none => .error .numberRange

/-- The number without point and exponent that fits, or the nearest binary number. -/
def ofWhole (negative : Bool) (whole : List Nat) : Except Fault Number :=
  let (significand, left) := gather 0 whole
  if left ≠ 0 then scaled negative significand left
  else if !negative then .ok (.integer significand)
  else if 0 < significand ∧ significand ≤ 0x8000000000000000 then .ok (.integer (-significand))
  else scaled true significand 0

/-- The number that a numeral writes, or why it is out of range. -/
def number (n : Numeral) : Except Fault Number :=
  if n.fraction = none ∧ n.exponent = none then ofWhole n.negative n.whole
  else
    let (whole, left) := gather 0 n.whole
    let places := n.fraction.getD []
    let (significand, ignored) := gather whole places
    let power : Int := left - (places.length - ignored : Nat)
    match n.exponent with
    | none => scaled n.negative significand power
    | some (down, ds) =>
      let e := valueOf ds
      if e < 0x80000000 then
        scaled n.negative significand (if down then power - e else power + e)
      else if down ∨ significand = 0 then .ok (.real (.zero n.negative))
      else .error .numberRange

end Numeral

end FlowGraph.Json
