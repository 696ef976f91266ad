import FlowGraph.Flows.Enrichment
import FlowGraph.Proofs.Keyed
import FlowGraph.Proofs.Time

/-!
# Coalescing

Evidence is coalesced twice: over the tables for each connection, and over the connections for each
indicator. Either way a key ends with the newest of all its evidence (`Newest`), which is a fact
about a set of evidence and knows no order. The two maxima are one: `newest_graphOf_combine` speaks
of the tables and the graph, and of nothing between them.
-/

namespace FlowGraph.Flows

open Traffic Entity

/-- What a map should have for a key of which there is so much evidence: the newest of it, and
nothing if there is none. -/
def Newest (evidence : Set Timestamp) : Option Timestamp → Prop
  | none => ∀ ts, ts ∉ evidence
  | some ts => IsGreatest evidence ts

/-- The connection leads to an edge: its container has the source as its workload, and the
destination may be served by the other workload at the port. -/
def Derives (r : Resolver) (c : Connection) (i : Indicator) : Prop :=
  r.workload c.container = some i.source ∧ c.destination.protocol = i.protocol ∧
    ∃ l ∈ r.lookups c.destination, l.workload = i.destination ∧ i.port ∈ l.ports

namespace Newest

variable {evidence more : Set Timestamp} {o p : Option Timestamp}

/-- There is but one newest evidence. -/
lemma unique (a : Newest evidence o) (b : Newest evidence p) : o = p := by
  cases o with
  | none =>
    cases p with
    | none => rfl
    | some ts => exact absurd b.1 (a ts)
  | some ts =>
    cases p with
    | none => exact absurd a.1 (b ts)
    | some us => exact congrArg some (IsGreatest.unique a b)

/-- One more piece of evidence is compared with the newest so far. -/
lemma insert (a : Newest evidence o) (ts : Timestamp) :
    Newest (Insert.insert ts evidence) (some (o.elim ts fun t => t.newer ts)) := by
  cases o with
  | none =>
    refine ⟨.inl rfl, fun us mem => ?_⟩
    rcases mem with rfl | mem
    · exact le_refl us
    · exact absurd mem (a us)
  | some t =>
    show IsGreatest _ (t.newer ts)
    rw [Timestamp.newer_eq_max, Set.insert_eq, Set.union_comm]
    exact a.union isGreatest_singleton

/-- Evidence that is no newer than what is there does not matter. -/
lemma of_le (a : Newest evidence o) (sub : evidence ⊆ more)
    (le : ∀ ts ∈ more, ∃ us ∈ evidence, ts ≤ us) : Newest more o := by
  cases o with
  | none =>
    intro ts mem
    obtain ⟨us, there, -⟩ := le ts mem
    exact a us there
  | some t =>
    refine ⟨sub a.1, fun ts mem => ?_⟩
    obtain ⟨us, there, le⟩ := le ts mem
    exact le.trans (a.2 there)

/-- A map has a key exactly if there is evidence for it. -/
lemma mem_keys {κ : Type} [DecidableEq κ] {m : Keyed κ Timestamp} {k : κ}
    (a : Newest evidence (m.get? k)) : k ∈ m.keys ↔ ∃ ts, ts ∈ evidence := by
  rw [Keyed.mem_keys_iff]
  cases found : m.get? k with
  | none =>
    rw [found] at a
    constructor
    · rintro ⟨ts, absent⟩
      cases absent
    · rintro ⟨ts, mem⟩
      exact absurd mem (a ts)
  | some ts =>
    rw [found] at a
    exact ⟨fun _ => ⟨ts, a.1⟩, fun _ => ⟨ts, rfl⟩⟩

end Newest

section

variable {κ : Type} [DecidableEq κ] {evidence : Set Timestamp} {m : Keyed κ Timestamp} {k : κ}

/-- Taking evidence into a map gives every key the newest of what it had and what is taken. -/
lemma newest_newestAll (a : Newest evidence (m.get? k)) (es : List (κ × Timestamp)) :
    Newest (evidence ∪ {ts | (k, ts) ∈ es}) ((newestAll m es).get? k) := by
  -- the evidence grows with the map
  induction es generalizing m evidence with
  | nil => simpa [newestAll] using a
  | cons e rest ih =>
    obtain ⟨j, us⟩ := e
    rw [newestAll, List.foldl_cons, ← newestAll]
    by_cases same : k = j
    · subst same
      have one : Newest (Insert.insert us evidence) ((newest m k us).get? k) := by
        rw [newest, Keyed.get?_put, if_pos rfl]
        exact a.insert us
      have all : Insert.insert us evidence ∪ {ts | (k, ts) ∈ rest} =
          evidence ∪ {ts | (k, ts) ∈ (k, us) :: rest} := by
        ext ts
        simp only [Set.mem_union, Set.mem_insert_iff, Set.mem_ofPred_eq, List.mem_cons,
          Prod.mk.injEq, true_and]
        rw [or_assoc, or_left_comm]
      exact all ▸ ih one
    · have kept : Newest evidence ((newest m j us).get? k) := by
        rwa [newest, Keyed.get?_put, if_neg same]
      simpa [same] using ih kept

/-- A map that starts empty has for each key the newest of all evidence for it. -/
lemma newest_newestAll_empty (es : List (κ × Timestamp)) (k : κ) :
    Newest {ts | (k, ts) ∈ es} ((newestAll .empty es).get? k) := by
  have a : Newest ∅ ((Keyed.empty : Keyed κ Timestamp).get? k) := fun ts => Set.notMem_empty ts
  simpa using newest_newestAll a es

/-- Taking evidence into a map adds its keys to those of the map. -/
lemma mem_keys_newestAll {es : List (κ × Timestamp)} :
    k ∈ (newestAll m es).keys ↔ k ∈ m.keys ∨ k ∈ es.map Prod.fst := by
  have own : Newest {ts | m.get? k = some ts} (m.get? k) := by
    cases m.get? k with
    | none => simp [Newest]
    | some ts => simp [Newest, IsGreatest, upperBounds]
  rw [(newest_newestAll own es).mem_keys, Keyed.mem_keys_iff]
  simp [exists_or]

end

/-- The snapshot of some tables has the newest evidence for each connection. -/
lemma newest_combine (tables : List Table) (c : Connection) :
    Newest {ts | ∃ t ∈ tables, t.connections.get? c = some ts} ((combine tables).get? c) := by
  have flat : combine tables =
      newestAll .empty (tables.flatMap fun t => t.connections.entries) := by
    rw [combine, newestAll, List.foldl_flatMap]
    rfl
  rw [flat]
  simpa [Keyed.mem_entries_iff] using
    newest_newestAll_empty (tables.flatMap fun t => t.connections.entries) c

/-- The edges of a connection are those that it derives. -/
lemma mem_indicators_iff {r : Resolver} {c : Connection} {i : Indicator} :
    i ∈ indicators r c ↔ Derives r c i := by
  obtain ⟨source, destination, port, protocol⟩ := i
  rw [indicators, Derives]
  cases owner : r.workload c.container with
  | none => simp
  | some w =>
    simp only [indicatorsFrom, List.mem_flatMap, List.mem_map, Indicator.mk.injEq,
      Option.some.injEq]
    constructor
    · rintro ⟨l, found, q, serves, rfl, rfl, rfl, rfl⟩
      exact ⟨rfl, rfl, l, found, rfl, serves⟩
    · rintro ⟨rfl, rfl, l, found, rfl, serves⟩
      exact ⟨l, found, port, serves, rfl, rfl, rfl, rfl⟩

/-- The graph of some connections has the newest evidence for each edge. -/
lemma newest_graphOf (r : Resolver) (connections : List (Connection × Timestamp)) (i : Indicator) :
    Newest {ts | ∃ c, (c, ts) ∈ connections ∧ Derives r c i} ((graphOf r connections).get? i) := by
  have flat : graphOf r connections =
      newestAll .empty (connections.flatMap (contributions r)) := by
    rw [graphOf, newestAll, List.foldl_flatMap]
    rfl
  rw [flat]
  simpa [contributions, mem_indicators_iff] using
    newest_newestAll_empty (connections.flatMap (contributions r)) i

/-- The graph of a snapshot, its connections in whatever order, has for each edge the newest
evidence that any table has for any connection that leads to it. -/
theorem newest_graphOf_combine (r : Resolver) (tables : List Table)
    {connections : List (Connection × Timestamp)}
    (order : connections.Perm (combine tables).entries) (i : Indicator) :
    Newest {ts | ∃ c, Derives r c i ∧ ∃ t ∈ tables, t.connections.get? c = some ts}
      ((graphOf r connections).get? i) := by
  refine (newest_graphOf r connections i).of_le ?_ ?_
  · rintro ts ⟨c, mem, derives⟩
    rw [order.mem_iff, Keyed.mem_entries_iff] at mem
    have newest := newest_combine tables c
    rw [mem] at newest
    obtain ⟨t, listed, found⟩ := newest.1
    exact ⟨c, derives, t, listed, found⟩
  · rintro ts ⟨c, derives, t, listed, found⟩
    have newest := newest_combine tables c
    -- the snapshot has the connection, at least as new as this table does
    cases snapshot : (combine tables).get? c with
    | none =>
      rw [snapshot] at newest
      exact absurd ⟨t, listed, found⟩ (newest ts)
    | some us =>
      rw [snapshot] at newest
      refine ⟨us, ⟨c, ?_, derives⟩, newest.2 ⟨t, listed, found⟩⟩
      rwa [order.mem_iff, Keyed.mem_entries_iff]

end FlowGraph.Flows
