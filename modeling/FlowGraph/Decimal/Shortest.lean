import FlowGraph.Decimal.Binary

/-!
# Shortest decimals

The decimal with the fewest digits that still rounds to a given binary number, and its text. The
decimals that round to a number fill an interval around it; for one digit, two digits and so on
the two neighbours of the number with so many digits are tried, and the nearer one that lies in
the interval is taken, the even one of two.
-/

namespace FlowGraph.Decimal

/-- A positive decimal: an integer times a power of ten. -/
structure Scaled where
  digits : Nat
  exponent : Int
  deriving DecidableEq

namespace Scaled

/-- The same decimal without zeros at the end of its digits. -/
def strip (digits : Nat) (exponent : Int) : Scaled :=
  if h : digits ≠ 0 ∧ digits % 10 = 0 then strip (digits / 10) (exponent + 1)
  else ⟨digits, exponent⟩
  termination_by digits
  decreasing_by omega

end Scaled

/-- The greatest power of ten that is at most a ratio of positive numbers. -/
def floorLog10 (num den : Nat) : Int :=
  let places (n : Nat) : Nat := (Nat.toDigits 10 n).length - 1
  if den ≤ num then places (num / den)
  else
    let k := places (den / num)
    if den = num * Nat.pow 10 k then -k else -k - 1

/-- The size of a number between the ends of the interval that rounds to it, over one common
denominator, and whether the ends belong to the interval. -/
structure Interval where
  low : Nat
  value : Nat
  high : Nat
  den : Nat
  closed : Bool

/-- The interval around a positive number. It reaches half way to each neighbour, and the lower
neighbour of a power of two is nearer. -/
def Interval.around (x : Binary64) : Interval :=
  let narrow := x.mantissa = 0x10000000000000 ∧ -1074 < x.exponent
  let m := 4 * x.mantissa
  let unit := if 2 ≤ x.exponent then Nat.pow 2 (x.exponent - 2).toNat else 1
  let den := if 2 ≤ x.exponent then 1 else Nat.pow 2 (2 - x.exponent).toNat
  { low := (if narrow then m - 1 else m - 2) * unit
    value := m * unit
    high := (m + 2) * unit
    den := den
    closed := x.mantissa % 2 == 0 }

/-- Whether a ratio lies in the interval. -/
def Interval.contains (i : Interval) (num den : Nat) : Bool :=
  let low := i.low * den
  let high := i.high * den
  let here := num * i.den
  if i.closed then low ≤ here && here ≤ high else low < here && here < high

/-- The best decimal that is a multiple of a power of ten, if one lies in the interval. -/
def Interval.onGrid (i : Interval) (k : Int) : Option Scaled :=
  let up := Nat.pow 10 k.toNat
  let down := Nat.pow 10 (-k).toNat
  let below := i.value * down / (i.den * up)
  let rest := 2 * (i.value * down - below * (i.den * up))
  let fits (n : Nat) := i.contains (n * up) down
  let nearerBelow := rest < i.den * up ∨ (rest = i.den * up ∧ below % 2 = 0)
  let first := if nearerBelow then below else below + 1
  let second := if nearerBelow then below + 1 else below
  if fits first then some (Scaled.strip first k)
  else if fits second then some (Scaled.strip second k)
  else none

/-- The shortest decimal that rounds to a positive number. Seventeen digits always do. -/
def shortest (x : Binary64) : Scaled :=
  let i := Interval.around x
  let top := floorLog10 i.value i.den
  match (List.range 17).findSome? fun (n : Nat) => i.onGrid (top - n) with
  | some s => s
  | none => ⟨0, 0⟩

/-- When a decimal is written out in full: for which powers of ten of its first digit; and how many
digits an exponent has at least. -/
structure Form where
  leastPlain : Int
  mostPlain : Int
  exponentWidth : Nat

/-- A text brought to a length with zeros in front. -/
def padZeros (width : Nat) (text : List Char) : List Char :=
  List.replicate (width - text.length) '0' ++ text

/-- The text of a positive decimal, always with a point or an exponent. -/
def Scaled.text (form : Form) (s : Scaled) : List Char :=
  let ds := Nat.toDigits 10 s.digits
  let lead : Int := ds.length - 1 + s.exponent
  if form.leastPlain ≤ lead ∧ lead ≤ form.mostPlain then
    if 0 ≤ s.exponent then ds ++ List.replicate s.exponent.toNat '0' ++ ['.', '0']
    else if 0 ≤ lead then ds.take (lead + 1).toNat ++ ['.'] ++ ds.drop (lead + 1).toNat
    else ['0', '.'] ++ List.replicate (-lead - 1).toNat '0' ++ ds
  else
    let head := ds.take 1 ++ (if ds.length = 1 then [] else '.' :: ds.drop 1)
    let sign := if lead < 0 then '-' else '+'
    head ++ ['e', sign] ++ padZeros form.exponentWidth (Nat.toDigits 10 lead.natAbs)

/-- The text of a number by its shortest decimal. -/
def Binary64.text (form : Form) (x : Binary64) : String :=
  let size := if x.isZero then ['0', '.', '0'] else (shortest x).text form
  String.ofList (if x.negative then '-' :: size else size)

end FlowGraph.Decimal
