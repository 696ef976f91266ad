import FlowGraph.Proofs.Keyed
import FlowGraph.Traffic.Table

/-!
# What a batch does to a table

A batch speaks of a connection through the observations that name it, the last of which is the one
that counts (`Batch.last?`). `Table.get?_merge` says what a merge leaves under every connection:
the evidence of that observation, or else what the table had, closed at the last contact if the
batch is the first one after a pause.
-/

namespace FlowGraph.Traffic

/-- The client side of a connection made the observation. -/
def Observation.Names (o : Observation) (c : Connection) : Prop :=
  o.role = some .client ∧ o.connection? = some c

/-- An observation counts for the connection that it names. -/
lemma Observation.counted?_eq_some_iff {o : Observation} {c : Connection} :
    o.counted? = some c ↔ o.Names c := by
  rw [counted?, verdict, Names]
  cases made : o.role with
  | none => simp
  | some role =>
    cases seen : o.connection? with
    | none => cases role <;> simp
    | some d => cases role <;> simp

/-- An observation is of no connection if one of its parts is missing, or the container has no
name. -/
lemma Observation.connection?_eq_none_iff {o : Observation} :
    o.connection? = none ↔ o.container = none ∨ o.container = some "" ∨ o.localAddress = none ∨
      o.remote = none ∨ o.protocol = none := by
  obtain ⟨container, localAddress, remote, protocol, role, closeTime⟩ := o
  cases container with
  | none => simp [connection?]
  | some name =>
    by_cases named : name = ""
    · simp [connection?, named]
    · cases localAddress <;> cases remote <;> cases protocol <;>
        simp [connection?, Option.filter_some, named]

/-- An observation shows a close at its close time, unless this is zero. -/
lemma closed?_eq_some_iff {o : Observation} {t : Micros} :
    o.closed? = some t ↔ o.closeTime = some t ∧ t ≠ .zero := by
  rw [Observation.closed?, Option.filter_eq_some_iff, decide_eq_true_iff]

/-- An observation shows an open connection if it has no close time other than zero. -/
lemma evidence_eq_stillOpen_iff {o : Observation} {ahead : Micros} :
    o.evidence ahead = .stillOpen ↔ ∀ t, o.closeTime = some t → t = .zero := by
  have none_iff : o.closed? = none ↔ ∀ t, o.closeTime = some t → t = .zero := by
    simp only [Option.eq_none_iff_forall_ne_some, ne_eq, closed?_eq_some_iff, not_and,
      Decidable.not_not]
  rw [← none_iff, Observation.evidence]
  cases o.closed? with
  | none => simp
  | some t => simp

/-- An observation with a close time is evidence of a close at this time, by the clock of the
engine. -/
lemma evidence_of_closeTime {o : Observation} {ahead t : Micros} (closes : o.closeTime = some t)
    (nonzero : t ≠ .zero) : o.evidence ahead = .closed (t.shift ahead) := by
  rw [Observation.evidence, closed?_eq_some_iff.mpr ⟨closes, nonzero⟩]

namespace Batch

/-- The last observation of a batch that names a connection. -/
def last? (b : Batch) (c : Connection) : Option Observation :=
  b.observations.reverse.find? fun o => o.counted? = some c

/-- The last observation names the connection, and none that follows it does. -/
lemma last?_eq_some_iff {b : Batch} {c : Connection} {o : Observation} :
    b.last? c = some o ↔ o.Names c ∧ ∃ before after,
      b.observations = before ++ o :: after ∧ ∀ p ∈ after, ¬ p.Names c := by
  rw [last?, List.find?_eq_some_iff_append, decide_eq_true_iff, Observation.counted?_eq_some_iff]
  -- the search goes through the observations backwards, so before and after change places
  refine and_congr_right fun _ => ⟨?_, ?_⟩
  · rintro ⟨xs, ys, whole, fresh⟩
    refine ⟨ys.reverse, xs.reverse, ?_, fun p mem => ?_⟩
    · rw [← List.reverse_reverse b.observations, whole]
      simp
    · have unnamed := fresh p (List.mem_reverse.mp mem)
      simpa [Observation.counted?_eq_some_iff] using unnamed
  · rintro ⟨before, after, whole, fresh⟩
    refine ⟨after.reverse, before.reverse, by simp [whole], fun p mem => ?_⟩
    have unnamed := fresh p (List.mem_reverse.mp mem)
    simpa [Observation.counted?_eq_some_iff] using unnamed

/-- There is no last observation where nothing names the connection. -/
lemma last?_eq_none_iff {b : Batch} {c : Connection} :
    b.last? c = none ↔ ∀ o ∈ b.observations, ¬ o.Names c := by
  simp [last?, Observation.counted?_eq_some_iff]

/-- There is a last observation where one names the connection. -/
lemma exists_last?_iff {b : Batch} {c : Connection} :
    (∃ o, b.last? c = some o) ↔ ∃ o ∈ b.observations, o.Names c := by
  rw [← Option.isSome_iff_exists, ← Option.ne_none_iff_isSome, ne_eq, last?_eq_none_iff]
  simp

/-- The last observation is the last of those that count for the connection. -/
lemma last?_eq_getLast? (b : Batch) (c : Connection) :
    b.last? c = (b.observations.filter fun o => o.counted? = some c).getLast? := by
  rw [last?, ← List.head?_filter, List.filter_reverse, List.head?_reverse]

/-- What a batch has is what its parts have, one after the other. -/
lemma entries_append (time now : Micros) (os ps : List Observation) :
    (⟨time, os ++ ps⟩ : Batch).entries now =
      (⟨time, os⟩ : Batch).entries now ++ (⟨time, ps⟩ : Batch).entries now :=
  List.filterMap_append

/-- What a batch has for a connection in the end is the evidence of its last observation. -/
lemma find_reverse_entries (b : Batch) (now : Micros) (c : Connection) :
    Keyed.find c (b.entries now).reverse =
      (b.last? c).map fun o => o.evidence (b.ahead now) := by
  rw [entries, ← List.filterMap_reverse, last?]
  -- both sides look for the first of the reversed observations that counts for the connection
  induction b.observations.reverse with
  | nil => rfl
  | cons o rest ih =>
    cases counts : o.counted? with
    | none => simp [counts, ih]
    | some d =>
      by_cases same : d = c
      · simp [counts, same, Keyed.find]
      · simp [counts, same, Keyed.find, ih]

end Batch

namespace Table

/-- Closing all connections closes each at the last contact. -/
@[simp] lemma get?_closeAll (t : Table) (c : Connection) :
    t.closeAll.connections.get? c = (t.connections.get? c).map fun _ => .closed t.last :=
  Keyed.get?_mapValues ..

/-- A batch may come in two parts, the second of which is not the first one after a pause. -/
lemma merge_append (t : Table) (time now : Micros) (first : Bool) (os ps : List Observation) :
    t.merge ⟨time, os ++ ps⟩ now first =
      (t.merge ⟨time, os⟩ now first).merge ⟨time, ps⟩ now false := by
  rw [merge, Batch.entries_append, Keyed.insertAll_append]
  rfl

/-- What a merge leaves under a connection. -/
theorem get?_merge (t : Table) (b : Batch) (now : Micros) (first : Bool) (c : Connection) :
    (t.merge b now first).connections.get? c =
      ((b.last? c).map fun o => o.evidence (b.ahead now)).or
        (if first then (t.connections.get? c).map fun _ => .closed t.last
          else t.connections.get? c) := by
  rw [merge, Keyed.get?_insertAll, Batch.find_reverse_entries]
  cases first with
  | true => simp
  | false => simp

/-- What a batch names has the evidence of the last observation. -/
lemma get?_merge_of_last {b : Batch} {c : Connection} {o : Observation}
    (last : b.last? c = some o) (t : Table) (now : Micros) (first : Bool) :
    (t.merge b now first).connections.get? c = some (o.evidence (b.ahead now)) := by
  rw [get?_merge, last, Option.map_some, Option.some_or]

/-- What a batch does not name stays as it was, or is closed at the last contact before a pause. -/
lemma get?_merge_of_unnamed {b : Batch} {c : Connection}
    (unnamed : ∀ o ∈ b.observations, ¬ o.Names c) (t : Table) (now : Micros) (first : Bool) :
    (t.merge b now first).connections.get? c =
      if first then (t.connections.get? c).map fun _ => .closed t.last
        else t.connections.get? c := by
  rw [get?_merge, Batch.last?_eq_none_iff.mpr unnamed, Option.map_none, Option.none_or]

/-- The connections after a merge are those before and those that the batch names. -/
lemma mem_keys_merge {t : Table} {b : Batch} {now : Micros} {first : Bool} {c : Connection} :
    c ∈ (t.merge b now first).connections.keys ↔
      c ∈ t.connections.keys ∨ ∃ o ∈ b.observations, o.Names c := by
  rw [← Keyed.get?_isSome, ← Keyed.get?_isSome, get?_merge, ← Batch.exists_last?_iff]
  cases b.last? c with
  | some o => simp
  | none => cases first <;> simp

end Table

end FlowGraph.Traffic
