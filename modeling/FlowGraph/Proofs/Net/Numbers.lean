import FlowGraph.Net.AddressReader
import Mathlib.Tactic.Lemma

/-!
# Numbers in addresses

The text of a number is made of the characters of its digits, of which the first is zero for zero
only (`Numeral`). A reader of numbers takes exactly these digits from the front of a text that goes
on with something else, and gives the number back (`number_toDigits`).
-/

namespace FlowGraph.Net.Reads

variable {base n : Nat} {ds : List Nat} {rest : List Char}

/-- The text does not start with a digit. -/
def Blank (base : Nat) (cs : List Char) : Prop := digits base cs = ([], cs)

/-- The number is written with the digits. -/
structure Numeral (base n : Nat) (ds : List Nat) : Prop where
  text : Nat.toDigits base n = ds.map Nat.digitChar
  small : ∀ d ∈ ds, d < base
  value : valueOf base ds = n
  nonempty : ds ≠ []
  leading : ds.head? = some 0 → n = 0

/-- One more digit counts itself, and the base as often as the others are worth. -/
lemma valueOf_concat (ds : List Nat) (d : Nat) :
    valueOf base (ds ++ [d]) = base * valueOf base ds + d := by
  rw [valueOf, valueOf, List.foldl_append]
  rfl

/-- A number below the base is written with one digit. -/
lemma numeral_of_lt (small : n < base) : Numeral base n [n] where
  text := Nat.toDigits_of_lt_base small
  small := by simpa using small
  value := by simp [valueOf]
  nonempty := List.cons_ne_nil n []
  leading := by simp

/-- A larger number is written with the digits of its quotient by the base, and then the rest. -/
lemma Numeral.concat (two : 1 < base) (large : base ≤ n) (writes : Numeral base (n / base) ds) :
    Numeral base n (ds ++ [n % base]) where
  text := by
    rw [Nat.toDigits_of_base_le two large, writes.text, List.map_append, List.map_singleton]
  small := by
    intro d mem
    rcases List.mem_append.mp mem with there | there
    · exact writes.small d there
    · rw [List.mem_singleton.mp there]
      exact Nat.mod_lt n (by omega)
  value := by rw [valueOf_concat, writes.value, Nat.div_add_mod]
  nonempty := by simp
  leading := by
    intro zero
    obtain ⟨d, more, rfl⟩ := List.exists_cons_of_ne_nil writes.nonempty
    have small : n / base = 0 := writes.leading zero
    exact absurd small (Nat.ne_of_gt (Nat.div_pos large (by omega)))

/-- Every number is written with some digits. -/
lemma exists_numeral (two : 1 < base) (n : Nat) : ∃ ds, Numeral base n ds := by
  induction n using Nat.strongRecOn with
  | ind n ih =>
    rcases Nat.lt_or_ge n base with small | large
    · exact ⟨[n], numeral_of_lt small⟩
    · have less : n / base < n := Nat.div_lt_self (by omega) two
      obtain ⟨ds, writes⟩ := ih (n / base) less
      exact ⟨ds ++ [n % base], writes.concat two large⟩

/-- A zero in front is the only digit. -/
lemma Numeral.length_eq_one (two : 1 < base) (writes : Numeral base n ds)
    (zero : ds.head? = some 0) : ds.length = 1 := by
  have text := writes.text
  rw [writes.leading zero, Nat.toDigits_of_lt_base (by omega)] at text
  rw [← List.length_map Nat.digitChar, ← text, List.length_singleton]

/-- The character of a digit stands for the digit. -/
lemma digit?_digitChar {d : Nat} (small : d < base) (bound : base ≤ 16) :
    digit? base d.digitChar = some d := by
  have all : ∀ base < 17, ∀ d < base, digit? base d.digitChar = some d := by decide
  exact all base (Nat.lt_succ_of_le bound) d small

/-- Digits are taken up to the first character that is none. -/
lemma digits_append (small : ∀ d ∈ ds, d < base) (bound : base ≤ 16) (blank : Blank base rest) :
    digits base (ds.map Nat.digitChar ++ rest) = (ds, rest) := by
  induction ds with
  | nil => exact blank
  | cons d more ih =>
    obtain ⟨first, others⟩ := List.forall_mem_cons.mp small
    rw [List.map_cons, List.cons_append, digits, digit?_digitChar first bound, ih others]

/-- The digits that write a number are of every form that has room for them. -/
lemma Numeral.admits {form : NumberForm} (writes : Numeral form.base n ds) (two : 1 < form.base)
    (limit : n < form.limit)
    (width : ∀ w, form.width = some w → (Nat.toDigits form.base n).length ≤ w) :
    form.admits ds = true := by
  have short : form.width.all (ds.length ≤ ·) = true := by
    rw [Option.all_eq_true]
    intro w bounded
    have length := width w bounded
    rw [writes.text, List.length_map] at length
    exact decide_eq_true length
  have leading : form.zeros || ds.head? ≠ some 0 || ds.length = 1 := by
    by_cases zero : ds.head? = some 0
    · simp [writes.length_eq_one two zero]
    · simp [zero]
  rw [NumberForm.admits, short, leading, writes.value]
  simp [writes.nonempty, limit]

/-- A number is read back from its text, if the form has room for it and no other digit follows. -/
lemma number_toDigits {form : NumberForm} (two : 1 < form.base) (bound : form.base ≤ 16)
    (limit : n < form.limit)
    (width : ∀ w, form.width = some w → (Nat.toDigits form.base n).length ≤ w)
    (blank : Blank form.base rest) :
    number form (Nat.toDigits form.base n ++ rest) = some (n, rest) := by
  obtain ⟨ds, writes⟩ := exists_numeral two n
  rw [writes.text, number, digits_append writes.small bound blank]
  simp only [writes.admits two limit width, if_true, writes.value]

end FlowGraph.Net.Reads
