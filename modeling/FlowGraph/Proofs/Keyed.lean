import FlowGraph.Keyed
import Mathlib.Data.List.Nodup
import Mathlib.Tactic.Lemma

/-!
# Keyed lists as maps

The entries of a keyed list are exactly what its view `get?` finds (`mem_entries_iff`), so two keyed
lists with the same view hold the same entries, in whatever order (`entries_perm`). Writing a whole
list of entries leaves to each key the last entry that the list has for it (`get?_insertAll`).
-/

namespace FlowGraph.Keyed

variable {κ ν : Type}

/-- No entry stands in a keyed list twice. -/
lemma nodup_entries (m : Keyed κ ν) : m.entries.Nodup := m.distinct.of_map Prod.fst

variable [DecidableEq κ]

/-- What is found under a key stands there. -/
lemma mem_of_find {k : κ} {v : ν} {es : List (κ × ν)} (found : find k es = some v) :
    (k, v) ∈ es := by
  induction es with
  | nil => cases found
  | cons e rest ih =>
    obtain ⟨j, w⟩ := e
    rw [find] at found
    split at found
    · next same =>
      cases found
      subst same
      exact List.mem_cons_self
    · exact List.mem_cons_of_mem _ (ih found)

/-- Among distinct keys every entry is found. -/
lemma find_of_mem {k : κ} {v : ν} {es : List (κ × ν)} (distinct : (es.map Prod.fst).Nodup)
    (mem : (k, v) ∈ es) : find k es = some v := by
  induction es with
  | nil => cases mem
  | cons e rest ih =>
    obtain ⟨j, w⟩ := e
    rw [List.map_cons, List.nodup_cons] at distinct
    obtain ⟨fresh, distinct⟩ := distinct
    rcases List.mem_cons.mp mem with same | mem
    · cases same
      rw [find, if_pos rfl]
    · have differs : j ≠ k := by
        rintro rfl
        have there : j ∈ rest.map Prod.fst := List.mem_map_of_mem (f := Prod.fst) mem
        exact fresh there
      rw [find, if_neg differs, ih distinct mem]

/-- The entries are what the view finds. -/
lemma mem_entries_iff {m : Keyed κ ν} {k : κ} {v : ν} :
    (k, v) ∈ m.entries ↔ m.get? k = some v :=
  ⟨find_of_mem m.distinct, mem_of_find⟩

/-- The keys are those under which something is found. -/
lemma mem_keys_iff {m : Keyed κ ν} {k : κ} : k ∈ m.keys ↔ ∃ v, m.get? k = some v := by
  rw [← get?_isSome, Option.isSome_iff_exists]

/-- Keyed lists that are equal as maps have the same entries up to order. -/
lemma entries_perm {m n : Keyed κ ν} (same : ∀ k, m.get? k = n.get? k) :
    m.entries.Perm n.entries := by
  apply (List.perm_ext_iff_of_nodup m.nodup_entries n.nodup_entries).mpr
  rintro ⟨k, v⟩
  rw [mem_entries_iff, mem_entries_iff, same]

/-- The entries in another order are found as they were. -/
lemma find_perm {m : Keyed κ ν} {es : List (κ × ν)} (order : es.Perm m.entries) (k : κ) :
    find k es = m.get? k := by
  have distinct : (es.map Prod.fst).Nodup := (order.map Prod.fst).nodup_iff.mpr m.distinct
  apply Option.ext
  intro v
  rw [← mem_entries_iff, ← order.mem_iff]
  exact ⟨mem_of_find, find_of_mem distinct⟩

/-- In lists one after the other the first that has the key counts. -/
lemma find_append (k : κ) (es fs : List (κ × ν)) :
    find k (es ++ fs) = (find k es).or (find k fs) := by
  induction es with
  | nil => rfl
  | cons e rest ih =>
    by_cases same : e.1 = k
    · simp [find, same]
    · simp [find, same, ih]

/-- Writing two lists one after the other is writing them as one. -/
lemma insertAll_append (m : Keyed κ ν) (es fs : List (κ × ν)) :
    m.insertAll (es ++ fs) = (m.insertAll es).insertAll fs :=
  List.foldl_append

/-- After all entries of a list are written, a key has its last value in the list, or the value it
had before. -/
theorem get?_insertAll (m : Keyed κ ν) (es : List (κ × ν)) (k : κ) :
    (m.insertAll es).get? k = (find k es.reverse).or (m.get? k) := by
  induction es generalizing m with
  | nil => rfl
  | cons e rest ih =>
    -- the entries after the first are written over it
    have written := ih (m.insert e.1 e.2)
    rw [insertAll, List.foldl_cons, ← insertAll, written, List.reverse_cons, find_append,
      Option.or_assoc, get?_insert]
    by_cases same : e.1 = k
    · simp [find, same]
    · simp [find, same, Ne.symm same]

end FlowGraph.Keyed
