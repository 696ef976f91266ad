import FlowGraph.Form.Request
import Mathlib.Data.List.Forall2
import Mathlib.Tactic.Lemma

/-!
# What it takes to read

Readers are chains of steps each of which may fail, so a value is read exactly if every step gives
one (`bind_eq_ok`). Here are the steps that all readers are made of: endings of lists and objects,
which must be proper, the readers of single values, and the reader of lists, which reads every item.
-/

namespace FlowGraph.Json

/-! ### Steps -/

section

variable {ε α β : Type}

/-- Steps one after the other succeed if each of them does. -/
lemma bind_eq_ok {x : Except ε α} {f : α → Except ε β} {b : β} :
    (x >>= f) = .ok b ↔ ∃ a, x = .ok a ∧ f a = .ok b := by
  cases x with
  | error e => simp [bind, Except.bind]
  | ok a => simp [bind, Except.bind]

/-- A result that was changed comes of one before the change. -/
lemma map_eq_ok {x : Except ε α} {f : α → β} {b : β} :
    x.map f = .ok b ↔ ∃ a, x = .ok a ∧ f a = b := by
  cases x with
  | error e => simp [Except.map]
  | ok a => simp [Except.map]

/-- A step that only gives something succeeds with it. -/
lemma pure_eq_ok {a b : α} : (pure a : Except ε α) = .ok b ↔ a = b := by
  simp [pure, Except.pure]

/-- The option of a result has what the result has. -/
lemma toOption_eq_some_iff {x : Except ε α} {a : α} : x.toOption = some a ↔ x = .ok a := by
  cases x with
  | error e => simp [Except.toOption]
  | ok b => simp [Except.toOption]

/-- A result is the same when the fault of a text counts as an error of reading. -/
lemma orFault_eq_ok {x : Except Fault α} {a : α} : orFault x = .ok a ↔ x = .ok a := by
  cases x with
  | error f => simp [orFault]
  | ok b => simp [orFault]

/-- What stands in the place of something else is never read. -/
lemma Draft.refuse_ne_ok {wanted : String} {d : Draft} {a : α} : d.refuse wanted ≠ .ok a := by
  rw [Draft.refuse, ne_eq, bind_eq_ok]
  rintro ⟨found, -, refused⟩
  cases refused

end

/-! ### Endings -/

/-- An array ends properly with its bracket only. -/
lemma ListStop.strict_eq_ok {stop : ListStop} : stop.strict = .ok () ↔ stop = .closed := by
  cases stop <;> simp [strict]

/-- An array from which its items were taken ends properly with its bracket only. -/
lemma ListStop.bounded_eq_ok {stop : ListStop} : stop.bounded = .ok () ↔ stop = .closed := by
  cases stop <;> simp [bounded, strict]

/-- An object ends properly with its brace only. -/
lemma ObjectStop.strict_eq_ok {stop : ObjectStop} : stop.strict = .ok () ↔ stop = .closed := by
  cases stop with
  | noColon key fault => cases key <;> simp [strict, bind, Except.bind, throw, throwThe,
      MonadExceptOf.throw]
  | _ => simp [strict]

/-- An array from which items were taken ends where the items do. -/
lemma Source.closeArray_eq_ok {src : Source} {count : Nat} {left : List Draft} {stop : ListStop} :
    src.closeArray count left stop = .ok () ↔ left = [] ∧ stop = .closed := by
  cases left with
  | nil =>
    rw [closeArray, orFault_eq_ok, ListStop.bounded_eq_ok]
    simp
  | cons d rest => cases src <;> simp [closeArray, Json.refuse]

/-! ### Single values and lists -/

namespace Reader

variable {src : Source} {d : Draft}

/-- A count of microseconds is read from the integer that it is, and from nothing else. -/
lemma micros_eq_ok {t : Micros} : micros src d = .ok t ↔ d = .number (.integer t.us) := by
  constructor
  · intro read
    unfold micros integer at read
    split at read
    · next n =>
      split at read
      · next s fits =>
        cases read
        rw [Micros.ofInt?] at fits
        split at fits
        · cases fits
          rfl
        · cases fits
      · cases read
    · exact absurd read Draft.refuse_ne_ok
  · rintro rfl
    rw [micros, integer, Micros.ofInt?_us]

/-- A value is read from a draft that can be read strictly. -/
lemma value_eq_ok {v : Value} : value src d = .ok v ↔ d.strict src.room = .ok v := orFault_eq_ok

variable {α : Type} {read : Reader α}

/-- Items are read one after the other, each by itself. -/
lemma items_eq_ok {read : Draft → Except ReadError α} {ds : List Draft} {as : List α} :
    items read ds = .ok as ↔ List.Forall₂ (fun d a => read d = .ok a) ds as := by
  induction ds generalizing as with
  | nil =>
    rw [items, List.forall₂_nil_left_iff]
    constructor
    · intro same
      cases same
      rfl
    · rintro rfl
      rfl
  | cons d rest ih =>
    simp only [items, bind_eq_ok, pure_eq_ok, ih]
    constructor
    · rintro ⟨a, first, more, others, rfl⟩
      exact .cons first others
    · intro all
      cases all with
      | cons first others => exact ⟨_, first, _, others, rfl⟩

/-- A list is read from an array with a proper end, item by item. -/
lemma list_eq_ok {as : List α} :
    read.list src d = .ok as ↔ ∃ ds inside, d = .array ds .closed ∧ src.inside = .ok inside ∧
      List.Forall₂ (fun d a => read inside d = .ok a) ds as := by
  constructor
  · intro all
    unfold list at all
    split at all
    · next ds stop =>
      simp only [bind_eq_ok, pure_eq_ok, orFault_eq_ok, items_eq_ok] at all
      obtain ⟨inside, into, as', each, _, closed, rfl⟩ := all
      rw [ListStop.strict_eq_ok] at closed
      exact ⟨ds, inside, by rw [closed], into, each⟩
    · exact absurd all Draft.refuse_ne_ok
  · rintro ⟨ds, inside, rfl, into, each⟩
    simp only [list, bind_eq_ok, pure_eq_ok, orFault_eq_ok, items_eq_ok]
    exact ⟨inside, into, as, each, (), rfl, rfl⟩

/-- No list is read from an array if some item is not read. -/
lemma exists_of_list_eq_ok {ds : List Draft} {stop : ListStop} {as : List α}
    (all : read.list src (.array ds stop) = .ok as) (mem : d ∈ ds) :
    ∃ inside a, src.inside = .ok inside ∧ read inside d = .ok a := by
  obtain ⟨ds', inside, same, into, each⟩ := list_eq_ok.mp all
  cases same
  suffices ∃ a, read inside d = .ok a from this.elim fun a given => ⟨inside, a, into, given⟩
  clear all
  induction each with
  | nil => cases mem
  | cons first _ ih =>
    rcases List.mem_cons.mp mem with rfl | later
    · exact ⟨_, first⟩
    · exact ih later

end Reader

/-- A text is read if the document at its front is, and nothing but blanks follows it. -/
lemma decode_eq_ok {α : Type} {read : Reader α} {s : Bytes} {a : α} :
    decode read s = .ok a ↔
      read .top (Document.scan s).root = .ok a ∧ (Document.scan s).more = false := by
  simp only [decode, bind_eq_ok]
  constructor
  · rintro ⟨b, root, rest⟩
    split at rest
    · cases rest
    · next ended =>
      rw [pure_eq_ok] at rest
      exact ⟨rest ▸ root, Bool.eq_false_iff.mpr ended⟩
  · rintro ⟨root, ended⟩
    refine ⟨a, root, ?_⟩
    rw [ended]
    rfl

end FlowGraph.Json
