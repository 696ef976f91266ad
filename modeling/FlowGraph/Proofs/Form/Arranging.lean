import FlowGraph.Proofs.Form.Closing

/-!
# How a report is cut and ordered

What a collector reports is a list of elements, and what becomes of it in a table does not hang on
how the list is arranged: it may be cut into batches, elements of no use may stand anywhere in it,
and elements may change places as long as those that speak of one connection stay in their order
(`Table.merge_arranged`).
-/

namespace FlowGraph

open Json

namespace Traffic

instance (o : Observation) (c : Connection) : Decidable (o.Names c) :=
  inferInstanceAs (Decidable (_ ∧ _))

instance (v : Value) (c : Connection) : Decidable (Speaks v c) :=
  inferInstanceAs (Decidable (_ ∧ _))

/-! ### Batches of elements -/

namespace Batch

/-- The batch of some elements at a time. -/
def ofElements (time : Micros) (items : List Value) : Batch :=
  ⟨time, (items.filter Value.isObservation).map Observation.ofValue⟩

/-- The text is a batch with a time and some elements, none of which is too deep for a text, and
nothing comes after it. -/
structure Reports (s : Bytes) (time : Micros) (items : List Value) : Prop where
  written : Written (Document.scan s).root time items
  fit : ∀ v ∈ items, v.Fits (some 125)
  ends : (Document.scan s).more = false

/-- A text is decoded to a batch if it reports some elements, and to the batch of these elements. -/
lemma decode_eq_ok_iff_reports {s : Bytes} {b : Batch} :
    decode reader s = .ok b ↔ ∃ items, Reports s b.time items ∧ b = ofElements b.time items := by
  rw [decode_eq_ok, reader_eq_ok]
  constructor
  · rintro ⟨⟨items, written, fit, observed⟩, ends⟩
    refine ⟨items, ⟨written, fit, ends⟩, ?_⟩
    rw [ofElements, ← observed]
  · rintro ⟨items, ⟨written, fit, ends⟩, same⟩
    exact ⟨⟨items, written, fit, congrArg observations same⟩, ends⟩

/-- The observations of some elements are those of their parts, one after the other. -/
lemma observations_append (time : Micros) (xs ys : List Value) :
    ofElements time (xs ++ ys) =
      ⟨time, (ofElements time xs).observations ++ (ofElements time ys).observations⟩ := by
  rw [ofElements, List.filter_append, List.map_append]
  rfl

/-- What a batch has is what its first element gives, and then what the others give. -/
lemma entries_ofElements_cons (time now : Micros) (v : Value) (items : List Value) :
    (ofElements time (v :: items)).entries now =
      (ofElements time [v]).entries now ++ (ofElements time items).entries now := by
  rw [← List.singleton_append, observations_append, entries_append]
  rfl

/-- The last observation of a connection comes from the last element that speaks of it. -/
lemma last?_ofElements (time : Micros) (items : List Value) (c : Connection) :
    (ofElements time items).last? c =
      (items.filter (Speaks · c)).getLast?.map Observation.ofValue := by
  -- what counts among the observations are the elements that speak of the connection
  have speaking : ∀ v : Value, (decide ((Observation.ofValue v).counted? = some c) &&
      v.isObservation) = decide (Speaks v c) := by
    intro v
    rw [Bool.eq_iff_iff, Bool.and_eq_true, decide_eq_true_iff, decide_eq_true_iff,
      Observation.counted?_eq_some_iff, and_comm]
    rfl
  rw [last?_eq_getLast?, ofElements, List.filter_map, List.filter_filter, List.getLast?_map]
  simp only [Function.comp_apply, speaking]

end Batch

/-! ### Elements of no use -/

/-- The element is no observation, or not one of the client's side, or it names no container, no
address or no protocol that can be read. -/
def Useless (v : Value) : Prop :=
  v.isObservation = false ∨ (Observation.ofValue v).role ≠ some .client ∨
    (Observation.ofValue v).container = none ∨ (Observation.ofValue v).container = some "" ∨
    (Observation.ofValue v).localAddress = none ∨ (Observation.ofValue v).remote = none ∨
    (Observation.ofValue v).protocol = none

/-- What is of no use are the elements that speak of no connection. -/
lemma useless_iff {v : Value} : Useless v ↔ ∀ c, ¬ Speaks v c := by
  rw [Useless, ← Observation.connection?_eq_none_iff, Option.eq_none_iff_forall_ne_some]
  simp only [Speaks, Observation.Names, not_and]
  constructor
  · rintro (shape | role | unnamed) c whole client
    · exact absurd whole (by simp [shape])
    · exact absurd client role
    · exact unnamed c
  · intro silent
    by_cases whole : v.isObservation = true
    · by_cases client : (Observation.ofValue v).role = some .client
      · exact .inr (.inr fun c => silent c whole client)
      · exact .inr (.inl client)
    · exact .inl (Bool.eq_false_iff.mpr whole)

/-- Elements of no use have been put in and taken out anywhere. -/
inductive Padded : List Value → List Value → Prop where
  | nil : Padded [] []
  | keep {v xs ys} : Padded xs ys → Padded (v :: xs) (v :: ys)
  | without {v xs ys} : Useless v → Padded xs ys → Padded (v :: xs) ys
  | within {v xs ys} : Useless v → Padded xs ys → Padded xs (v :: ys)

/-- An element of no use gives a batch nothing. -/
lemma Useless.entries {v : Value} (useless : Useless v) (time now : Micros) :
    (Batch.ofElements time [v]).entries now = [] := by
  rw [useless_iff] at useless
  rw [Batch.entries, List.filterMap_eq_nil_iff]
  intro o mem
  obtain ⟨w, kept, rfl⟩ := List.mem_map.mp mem
  obtain ⟨there, whole⟩ := List.mem_filter.mp kept
  obtain rfl := List.mem_singleton.mp there
  rw [Option.map_eq_none_iff, Option.eq_none_iff_forall_ne_some]
  intro c counts
  exact useless c ⟨whole, Observation.counted?_eq_some_iff.mp counts⟩

/-- Elements of no use make no difference to what a batch has. -/
lemma Padded.entries {xs ys : List Value} (padded : Padded xs ys) (time now : Micros) :
    (Batch.ofElements time xs).entries now = (Batch.ofElements time ys).entries now := by
  induction padded with
  | nil => rfl
  | keep _ ih => rw [Batch.entries_ofElements_cons, ih, ← Batch.entries_ofElements_cons]
  | without useless _ ih =>
    rw [Batch.entries_ofElements_cons, useless.entries, List.nil_append, ih]
  | @within v xs ys useless _ ih =>
    rw [Batch.entries_ofElements_cons time now v ys, useless.entries, List.nil_append, ih]

/-! ### The order of elements -/

/-- The same elements in another order, in which those that speak of one connection have kept
theirs. -/
structure Rearranged (xs ys : List Value) : Prop where
  perm : xs.Perm ys
  kept : ∀ c, xs.filter (Speaks · c) = ys.filter (Speaks · c)

/-- Neighbours that do not speak of one connection may change places. -/
lemma Rearranged.swap {v w : Value} (apart : ∀ c, Speaks v c → ¬ Speaks w c) (xs ys : List Value) :
    Rearranged (xs ++ v :: w :: ys) (xs ++ w :: v :: ys) := by
  refine ⟨(List.Perm.swap w v ys).append_left xs, fun c => ?_⟩
  rw [List.filter_append, List.filter_append]
  by_cases speaks : Speaks v c
  · simp [speaks, apart c speaks]
  · simp [List.filter_cons, speaks]

/-- What a table has for a connection hangs on the elements that speak of it, and on their order
alone. -/
lemma Table.get?_merge_of_filter_eq {xs ys : List Value} {c : Connection}
    (same : xs.filter (Speaks · c) = ys.filter (Speaks · c)) (t : Table) (time now : Micros)
    (first : Bool) :
    (t.merge (.ofElements time xs) now first).connections.get? c =
      (t.merge (.ofElements time ys) now first).connections.get? c := by
  rw [get?_merge, get?_merge, Batch.last?_ofElements, Batch.last?_ofElements, same]
  rfl

/-- Every batch is that of the elements in its text, and the table after it is the same if the
elements come in two batches one after the other, if elements of no use are put in or taken out,
and, as far as anything is found in it, if the elements are put in another order that is kept for
each connection. -/
theorem Table.merge_arranged (t : Table) (time now : Micros) (first : Bool) :
    (∀ (s : Bytes) (b : Batch), decode Batch.reader s = .ok b ↔
      ∃ items, Batch.Reports s b.time items ∧ b = .ofElements b.time items) ∧
    (∀ xs ys, t.merge (.ofElements time (xs ++ ys)) now first =
      (t.merge (.ofElements time xs) now first).merge (.ofElements time ys) now false) ∧
    (∀ xs ys, Padded xs ys →
      t.merge (.ofElements time xs) now first = t.merge (.ofElements time ys) now first) ∧
    (∀ xs ys, Rearranged xs ys →
      (t.merge (.ofElements time xs) now first).last =
        (t.merge (.ofElements time ys) now first).last ∧
      ∀ c, (t.merge (.ofElements time xs) now first).connections.get? c =
        (t.merge (.ofElements time ys) now first).connections.get? c) := by
  refine ⟨fun s b => Batch.decode_eq_ok_iff_reports, ?_, ?_, ?_⟩
  · intro xs ys
    rw [Batch.observations_append, merge_append]
    rfl
  · intro xs ys padded
    rw [merge, merge, padded.entries]
  · intro xs ys rearranged
    exact ⟨rfl, fun c => get?_merge_of_filter_eq (rearranged.kept c) t time now first⟩

/-- A string in front is an element of no use. -/
lemma padded_misread : Padded misreadElements (.string "lost" :: misreadElements) :=
  .within (.inl rfl) (.keep (.keep .nil))

/-- Two elements that speak of different connections change places. -/
lemma rearranged_misread : Rearranged misreadElements misreadElements.reverse := by
  have web : (Observation.ofValue (elementOf "web" (.string "yesterday"))).connection? =
      some (connectionOf "web") := by cbv
  have db : (Observation.ofValue (elementOf "db" (.int 50))).connection? =
      some (connectionOf "db") := by cbv
  apply Rearranged.swap _ [] []
  rintro c ⟨-, -, ofWeb⟩ ⟨-, -, ofDb⟩
  have same := (web.symm.trans ofWeb).trans (ofDb.symm.trans db)
  exact absurd same (by decide)

/-- Two elements after one of no use, and the two in the other order, leave the same in every table;
and in a new one, the connection of the second is closed. -/
theorem Table.merge_arranged_misread :
    (∀ (t : Table) (first : Bool),
      t.merge (.ofElements (.clamp 100) misreadElements) (.clamp 200) first =
        t.merge (.ofElements (.clamp 100) (.string "lost" :: misreadElements)) (.clamp 200) first ∧
      ∀ c, (t.merge (.ofElements (.clamp 100) misreadElements) (.clamp 200)
          first).connections.get? c =
        (t.merge (.ofElements (.clamp 100) misreadElements.reverse) (.clamp 200)
          first).connections.get? c) ∧
    ((new "h" .zero).merge (.ofElements (.clamp 100) misreadElements.reverse) (.clamp 200)
      true).connections.get? (connectionOf "db") = some (.closed (.clamp 150)) := by
  have arranged := fun (t : Table) (first : Bool) =>
    merge_arranged t (.clamp 100) (.clamp 200) first
  refine ⟨fun t first => ?_, ?_⟩
  · obtain ⟨-, -, padded, rearranged⟩ := arranged t first
    exact ⟨padded _ _ padded_misread, (rearranged _ _ rearranged_misread).2⟩
  · obtain ⟨-, -, -, rearranged⟩ := arranged (new "h" .zero) true
    rw [← (rearranged _ _ rearranged_misread).2]
    cbv

end Traffic

end FlowGraph
