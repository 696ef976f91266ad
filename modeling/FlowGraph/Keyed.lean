/-!
# Keyed lists

Finite maps written as lists of entries whose keys are distinct. The view of a map is `get?`, and
`put` is the only writer: it hands the entry that a key has so far, if any, to a rule and stores
what the rule gives. `get?_put` says what every write does to the view, and the entries keep the
order in which their keys first came.
-/

namespace FlowGraph

/-- A list of entries, one for each key. -/
structure Keyed (κ ν : Type) where
  entries : List (κ × ν)
  distinct : (entries.map Prod.fst).Nodup

namespace Keyed

variable {κ ν : Type}

/-- A keyed list without entries. -/
def empty : Keyed κ ν := ⟨[], .nil⟩

instance : Inhabited (Keyed κ ν) := ⟨empty⟩

/-- The keys in the order in which they first came. -/
def keys (m : Keyed κ ν) : List κ := m.entries.map Prod.fst

/-- The values in the order of their keys. -/
def values (m : Keyed κ ν) : List ν := m.entries.map Prod.snd

/-- How many entries there are. -/
def size (m : Keyed κ ν) : Nat := m.entries.length

/-- Whether there are no entries. -/
def isEmpty (m : Keyed κ ν) : Bool := m.entries.isEmpty

/-- Every value changed by the same rule, every key kept. -/
def mapValues (f : ν → ν) (m : Keyed κ ν) : Keyed κ ν :=
  ⟨m.entries.map fun e => (e.1, f e.2), by
    simpa [List.map_map, Function.comp_def] using m.distinct⟩

variable [DecidableEq κ]

/-- The value that a list of entries gives to a key: that of the first entry with this key. -/
def find (k : κ) : List (κ × ν) → Option ν
  | [] => none
  | (j, v) :: rest => if j = k then some v else find k rest

/-- The value under a key. -/
def get? (m : Keyed κ ν) (k : κ) : Option ν := find k m.entries

/-- Writes what the rule makes of the key's present value, in place or at the end. -/
def write (k : κ) (rule : Option ν → ν) : List (κ × ν) → List (κ × ν)
  | [] => [(k, rule none)]
  | (j, v) :: rest => if j = k then (j, rule (some v)) :: rest else (j, v) :: write k rule rest

/-- Writing leaves the keys as they are, or adds the new one at the end. -/
theorem keys_write (k : κ) (rule : Option ν → ν) (es : List (κ × ν)) :
    (write k rule es).map Prod.fst =
      if k ∈ es.map Prod.fst then es.map Prod.fst else es.map Prod.fst ++ [k] := by
  induction es with
  | nil => simp [write]
  | cons e rest ih =>
    obtain ⟨j, v⟩ := e
    by_cases h : j = k
    · simp [write, h]
    · have h' : ¬ k = j := fun e => h e.symm
      by_cases hm : k ∈ rest.map Prod.fst
      · simp only [write, if_neg h, List.map_cons, ih, List.mem_cons, h', hm, or_true,
          if_true]
      · simp only [write, if_neg h, List.map_cons, ih, List.mem_cons, h', hm, or_self,
          if_false, List.cons_append]

/-- Writing under a key keeps the keys distinct. -/
theorem nodup_write (k : κ) (rule : Option ν → ν) {es : List (κ × ν)}
    (h : (es.map Prod.fst).Nodup) : ((write k rule es).map Prod.fst).Nodup := by
  rw [keys_write]
  split
  · exact h
  · next hk =>
    rw [List.nodup_append]
    exact ⟨h, by simp, fun a ha b hb => by
      rw [List.mem_singleton] at hb
      rintro rfl
      exact hk (hb ▸ ha)⟩

/-- The map in which a key has what the rule makes of its present value. -/
def put (m : Keyed κ ν) (k : κ) (rule : Option ν → ν) : Keyed κ ν :=
  ⟨write k rule m.entries, nodup_write k rule m.distinct⟩

/-- The map in which a key has the given value. -/
def insert (m : Keyed κ ν) (k : κ) (v : ν) : Keyed κ ν := m.put k fun _ => v

/-- The entries of a list written one after the other, so that the last one of a key stays. -/
def insertAll (m : Keyed κ ν) (es : List (κ × ν)) : Keyed κ ν :=
  es.foldl (fun m e => m.insert e.1 e.2) m

/-- The map that a list of entries gives, the last one of a key winning. -/
def ofList (es : List (κ × ν)) : Keyed κ ν := empty.insertAll es

/-! ### What each operation does to the view -/

/-- The empty map has no value anywhere. -/
@[simp] theorem get?_empty (k : κ) : (empty : Keyed κ ν).get? k = none := rfl

/-- A write changes what is found at its own key, by the rule, and nothing else. -/
theorem find_write (j k : κ) (rule : Option ν → ν) (es : List (κ × ν)) :
    find j (write k rule es) = if j = k then some (rule (find k es)) else find j es := by
  induction es with
  | nil =>
    by_cases h : j = k
    · simp [write, find, h]
    · simp [write, find, h, Ne.symm h]
  | cons e rest ih =>
    obtain ⟨i, v⟩ := e
    by_cases hik : i = k
    · subst hik
      by_cases h : j = i
      · simp [write, find, h]
      · simp [write, find, h, Ne.symm h]
    · by_cases hij : i = j
      · subst hij
        simp [write, find, hik]
      · simp [write, find, hik, hij, ih]

/-- After a write its key has what the rule makes of the value before. -/
@[simp] theorem get?_put (m : Keyed κ ν) (j k : κ) (rule : Option ν → ν) :
    (m.put k rule).get? j = if j = k then some (rule (m.get? k)) else m.get? j :=
  find_write j k rule m.entries

/-- After an insertion its key has the value. -/
@[simp] theorem get?_insert (m : Keyed κ ν) (j k : κ) (v : ν) :
    (m.insert k v).get? j = if j = k then some v else m.get? j :=
  get?_put m j k fun _ => v

/-- A changed value stands under the key it had. -/
@[simp] theorem get?_mapValues (m : Keyed κ ν) (f : ν → ν) (k : κ) :
    (m.mapValues f).get? k = (m.get? k).map f := by
  obtain ⟨es, hd⟩ := m
  simp only [mapValues, get?]
  clear hd
  induction es with
  | nil => rfl
  | cons e rest ih =>
    by_cases h : e.1 = k
    · simp [find, h]
    · simp [find, h, ih]

/-- A key has a value exactly when it stands among the keys. -/
theorem get?_isSome (m : Keyed κ ν) (k : κ) : (m.get? k).isSome ↔ k ∈ m.keys := by
  obtain ⟨es, hd⟩ := m
  simp only [get?, keys]
  clear hd
  induction es with
  | nil => simp [find]
  | cons e rest ih =>
    by_cases h : e.1 = k
    · simp [find, h]
    · simp [find, h, Ne.symm h, ih]

end Keyed

end FlowGraph
