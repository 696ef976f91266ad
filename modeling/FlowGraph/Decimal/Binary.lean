/-!
# Binary numbers of double precision

Finite binary numbers with 53 significant bits, as a sign, a mantissa and a power of two, and the
rounding of a ratio to the nearest of them, ties going to the even mantissa. A ratio beyond the
greatest finite number has none. Products and quotients are exact ratios that are rounded once.
-/

namespace FlowGraph.Decimal

/-- A finite number: its sign, and its size as mantissa times two to the exponent. -/
structure Binary64 where
  negative : Bool
  mantissa : Nat
  exponent : Int
  deriving DecidableEq

/-- The integer nearest to a ratio, the even one of two. -/
def halfEven (num den : Nat) : Nat :=
  let q := num / den
  let twice := 2 * (num % den)
  if twice < den ∨ (twice = den ∧ q % 2 = 0) then q else q + 1

/-- The greatest power of two that is at most a ratio of positive numbers. -/
def floorLog2 (num den : Nat) : Int :=
  let k : Int := (Nat.log2 num : Int) - Nat.log2 den
  let fits := if 0 ≤ k then den * Nat.pow 2 k.toNat ≤ num else den ≤ num * Nat.pow 2 (-k).toNat
  if fits then k else k - 1

namespace Binary64

/-- Zero, which has a sign. -/
def zero (negative : Bool) : Binary64 := ⟨negative, 0, -1074⟩

/-- Whether the number is a zero of either sign. -/
def isZero (x : Binary64) : Bool := x.mantissa == 0

/-- The size of a number as numerator and denominator. -/
def ratio (x : Binary64) : Nat × Nat :=
  if 0 ≤ x.exponent then (x.mantissa * Nat.pow 2 x.exponent.toNat, 1)
  else (x.mantissa, Nat.pow 2 (-x.exponent).toNat)

/-- How often a power of two goes into a ratio, rounded. -/
def mantissaAt (num den : Nat) (e : Int) : Nat :=
  if 0 ≤ e then halfEven num (den * Nat.pow 2 e.toNat)
  else halfEven (num * Nat.pow 2 (-e).toNat) den

/-- The number nearest to a ratio, if the ratio is not beyond the greatest. -/
def ofRatio? (negative : Bool) (num den : Nat) : Option Binary64 :=
  if num = 0 then some (zero negative)
  else
    let e := max (-1074) (floorLog2 num den - 52)
    let m := mantissaAt num den e
    let (m, e) := if m = 0x20000000000000 then (0x10000000000000, e + 1) else (m, e)
    if 971 < e then none else some ⟨negative, m, e⟩

/-- The product, rounded, if it is not too large. -/
def mul? (x y : Binary64) : Option Binary64 :=
  ofRatio? (x.negative != y.negative) (x.ratio.1 * y.ratio.1) (x.ratio.2 * y.ratio.2)

/-- The quotient, rounded, if it is not too large. -/
def div? (x y : Binary64) : Option Binary64 :=
  ofRatio? (x.negative != y.negative) (x.ratio.1 * y.ratio.2) (x.ratio.2 * y.ratio.1)

end Binary64

end FlowGraph.Decimal
