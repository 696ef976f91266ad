import FlowGraph.Json.Numeral
import FlowGraph.Json.Scan.Strings

/-!
# Numbers and words

The written form of numbers and of the words that are values. A number starts with a zero alone or
with another digit, and a point or an exponent is followed by a digit.
-/

namespace FlowGraph.Json

/-- What a byte is worth as a decimal digit. -/
def digit? (b : UInt8) : Option Nat :=
  if 48 ≤ b ∧ b ≤ 57 then some (b.toNat - 48) else none

/-- The digits at the front of a text. -/
def digits : Bytes → List Nat × Bytes
  | [] => ([], [])
  | b :: rest =>
    match digit? b with
    | some d => let (ds, left) := digits rest; (d :: ds, left)
    | none => ([], b :: rest)

/-- Digits leave no more than there was. -/
theorem length_digits (s : Bytes) : (digits s).2.length ≤ s.length := by
  fun_induction digits s with
  | case1 => exact Nat.le_refl _
  | case2 b rest d digit ds left found ih =>
    rw [found] at ih
    exact Nat.le_succ_of_le ih
  | case3 => exact Nat.le_refl _

/-- Digits that are there make the rest shorter. -/
theorem length_digits_lt {s rest : Bytes} {ds : List Nat} (h : digits s = (ds, rest))
    (some_digit : ds ≠ []) : rest.length < s.length := by
  cases s with
  | nil => cases h; exact absurd rfl some_digit
  | cons b s =>
    rw [digits] at h
    split at h
    · have := length_digits s
      cases h
      exact Nat.lt_succ_of_le this
    · cases h
      exact absurd rfl some_digit

/-- Why a digit is missing, in the strict reading. -/
def digitMissing (s : Bytes) : Fault := if s.isEmpty then .endInValue else .number

/-- The whole part of a number: a zero alone, or digits that start with another. -/
def wholeDigits (s : Bytes) : Except Fault (List Nat × Bytes) :=
  match digits s with
  | ([], rest) => .error (digitMissing rest)
  | (0 :: _ :: _, _) => .error .number
  | (ds, rest) => .ok (ds, rest)

/-- The digits behind a point, if there is a point. -/
def fractionDigits (s : Bytes) : Except Fault (Option (List Nat) × Bytes) :=
  match s with
  | 46 :: rest =>
    match digits rest with
    | ([], left) => .error (digitMissing left)
    | (ds, left) => .ok (some ds, left)
  | _ => .ok (none, s)

/-- The sign of an exponent: whether it is minus, and what is left. -/
def exponentSign (s : Bytes) : Bool × Bytes :=
  match s with
  | 43 :: rest => (false, rest)
  | 45 :: rest => (true, rest)
  | _ => (false, s)

/-- The exponent, if there is one. -/
def exponentDigits (s : Bytes) : Except Fault (Option (Bool × List Nat) × Bytes) :=
  match s with
  | b :: rest =>
    if b = 101 ∨ b = 69 then
      let (down, start) := exponentSign rest
      match digits start with
      | ([], left) => .error (digitMissing left)
      | (ds, left) => .ok (some (down, ds), left)
    else .ok (none, s)
  | [] => .ok (none, s)

/-- A numeral behind its sign, and what follows it. -/
def numeral (negative : Bool) (s : Bytes) : Except Fault (Numeral × Bytes) := do
  let (whole, s) ← wholeDigits s
  let (fraction, s) ← fractionDigits s
  let (exponent, s) ← exponentDigits s
  return (⟨negative, whole, fraction, exponent⟩, s)

/-- What is left after a word, or why the text does not go on with it. -/
def word : Bytes → Bytes → Except Fault Bytes
  | [], s => .ok s
  | _ :: _, [] => .error .endInValue
  | w :: ws, b :: rest => if b = w then word ws rest else .error .identExpected

/-- A whole part is never empty. -/
theorem length_wholeDigits {s : Bytes} {r : List Nat × Bytes} (h : wholeDigits s = .ok r) :
    r.2.length < s.length := by
  unfold wholeDigits at h
  split at h <;> cases h
  next some_digit _ e => exact length_digits_lt e some_digit

/-- A fraction leaves no more than there was. -/
theorem length_fractionDigits {s : Bytes} {r : Option (List Nat) × Bytes}
    (h : fractionDigits s = .ok r) : r.2.length ≤ s.length := by
  unfold fractionDigits at h
  split at h
  · next rest =>
    have := length_digits rest
    split at h <;> cases h
    rename_i e
    rw [e] at this
    exact Nat.le_succ_of_le this
  · cases h
    exact Nat.le_refl _

/-- A sign leaves no more than there was. -/
theorem length_exponentSign (s : Bytes) : (exponentSign s).2.length ≤ s.length := by
  unfold exponentSign
  split <;> simp

/-- An exponent leaves no more than there was. -/
theorem length_exponentDigits {s : Bytes} {r : Option (Bool × List Nat) × Bytes}
    (h : exponentDigits s = .ok r) : r.2.length ≤ s.length := by
  unfold exponentDigits at h
  split at h
  · next b rest =>
    split at h
    · have hs := length_exponentSign rest
      have hd := length_digits (exponentSign rest).2
      simp only at h
      split at h <;> cases h
      rename_i e
      rw [e] at hd
      exact Nat.le_succ_of_le (Nat.le_trans hd hs)
    · cases h
      exact Nat.le_refl _
  · cases h
    exact Nat.le_refl _

/-- A numeral takes at least one byte. -/
theorem length_numeral {negative : Bool} {s : Bytes} {r : Numeral × Bytes}
    (h : numeral negative s = .ok r) : r.2.length < s.length := by
  unfold numeral at h
  cases h₁ : wholeDigits s with
  | error f => simp [h₁, bind, Except.bind] at h
  | ok a =>
    cases h₂ : fractionDigits a.2 with
    | error f => simp [h₁, h₂, bind, Except.bind] at h
    | ok b =>
      cases h₃ : exponentDigits b.2 with
      | error f => simp [h₁, h₂, h₃, bind, Except.bind] at h
      | ok c =>
        simp [h₁, h₂, h₃, bind, Except.bind, pure, Except.pure] at h
        subst h
        exact Nat.lt_of_le_of_lt (Nat.le_trans (length_exponentDigits h₃)
          (length_fractionDigits h₂)) (length_wholeDigits h₁)

/-- A word leaves no more than there was. -/
theorem length_word {w s rest : Bytes} (h : word w s = .ok rest) : rest.length ≤ s.length := by
  induction w generalizing s with
  | nil => cases h; exact Nat.le_refl _
  | cons b ws ih =>
    cases s with
    | nil => cases h
    | cons c s =>
      rw [word] at h
      split at h
      · exact Nat.le_succ_of_le (ih h)
      · cases h

end FlowGraph.Json
