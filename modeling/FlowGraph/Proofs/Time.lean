import FlowGraph.Time
import Mathlib.Order.Bounds.Basic
import Mathlib.Order.Defs.LinearOrder
import Mathlib.Tactic.Lemma

/-!
# The order of evidence

Evidence is linearly ordered: closes by their times, and open evidence above them all. The newer of
two pieces of evidence is their maximum.
-/

namespace FlowGraph.Timestamp

/-- Nothing is newer than open evidence. -/
lemma le_stillOpen (a : Timestamp) : a ≤ stillOpen := by
  cases a <;> trivial

/-- Open evidence is newer than every close. -/
@[simp] lemma not_stillOpen_le_closed (t : Micros) : ¬ stillOpen ≤ closed t := id

/-- What is as new as open evidence is open. -/
lemma eq_stillOpen_of_le {a : Timestamp} (le : stillOpen ≤ a) : a = stillOpen := by
  cases a with
  | closed t => exact absurd le (not_stillOpen_le_closed t)
  | stillOpen => rfl

instance : LinearOrder Timestamp where
  le_refl a := by
    cases a with
    | closed t => exact Int.le_refl t.us
    | stillOpen => trivial
  le_trans a b c ab bc := by
    cases c with
    | stillOpen => exact le_stillOpen a
    | closed t =>
      cases b with
      | stillOpen => exact absurd bc (not_stillOpen_le_closed t)
      | closed s =>
        cases a with
        | stillOpen => exact absurd ab (not_stillOpen_le_closed s)
        | closed r => exact Int.le_trans ab bc
  le_antisymm a b ab ba := by
    cases a with
    | stillOpen => exact (eq_stillOpen_of_le ab).symm
    | closed s =>
      cases b with
      | stillOpen => exact eq_stillOpen_of_le ba
      | closed t =>
        have same : s.us = t.us := Int.le_antisymm ab ba
        cases s
        cases t
        cases same
        rfl
  le_total a b := by
    cases a with
    | stillOpen => exact .inr (le_stillOpen b)
    | closed s =>
      cases b with
      | stillOpen => exact .inl (le_stillOpen _)
      | closed t => exact Int.le_total s.us t.us
  toDecidableLE := decidableLE

/-- The newer of two pieces of evidence is the greater one. -/
lemma newer_eq_max (a b : Timestamp) : a.newer b = max a b := rfl

end FlowGraph.Timestamp
