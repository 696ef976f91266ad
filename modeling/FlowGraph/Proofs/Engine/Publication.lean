import FlowGraph.Engine
import FlowGraph.Proofs.Flows.Coalescing
import Mathlib.Data.List.Forall2

/-!
# What is published

A cycle publishes a graph that depends on the registered tables and the resolver alone, as sets of
entries: neither the order in which tables, connections, matches and ports are gone through nor what
was published before leaves a trace in it. `Engine.enrich_newest` says what the snapshot and the
graph are, and that the cycle changes neither tables nor registry.
-/

namespace FlowGraph

open Traffic Flows Entity

/-- Each element of either list has a counterpart in the other, in whatever order. -/
def Matched {α : Type} (R : α → α → Prop) (xs ys : List α) : Prop :=
  (∀ x ∈ xs, ∃ y ∈ ys, R x y) ∧ ∀ y ∈ ys, ∃ x ∈ xs, R x y

/-- Lists that correspond have elements of corresponding kinds. -/
lemma exists_mem_iff_of_forall₂ {α β : Type} {R : α → β → Prop} {P : α → Prop} {Q : β → Prop}
    {as : List α} {bs : List β} (each : List.Forall₂ R as bs) (same : ∀ a b, R a b → (P a ↔ Q b)) :
    (∃ a ∈ as, P a) ↔ ∃ b ∈ bs, Q b := by
  induction each with
  | nil => simp
  | cons here _ ih => rw [List.exists_mem_cons_iff, List.exists_mem_cons_iff, same _ _ here, ih]

/-- The connections of two tables are the same in whatever order. -/
def Traffic.Table.Reordered (t u : Table) : Prop :=
  t.connections.entries.Perm u.connections.entries

/-- Two matches are the same with their ports in whatever order. -/
def Entity.Lookup.Reordered (l k : Lookup) : Prop :=
  l.workload = k.workload ∧ l.ports.Perm k.ports

/-- Two resolvers give the same answers, with the matches and their ports in whatever order. -/
structure Entity.Resolver.Reordered (r s : Resolver) : Prop where
  workload : r.workload = s.workload
  lookups : ∀ e, Matched Lookup.Reordered (r.lookups e) (s.lookups e)

/-- A table finds the same in whatever order it has its connections. -/
lemma Traffic.Table.Reordered.get? {t u : Table} (o : t.Reordered u) (c : Connection) :
    t.connections.get? c = u.connections.get? c := by
  rw [← Keyed.find_perm o c, Keyed.get?]

/-- The evidence for a connection does not depend on the order of the tables. -/
lemma Matched.evidence {ts us : List Table} (o : Matched Table.Reordered ts us) (c : Connection)
    (found : Timestamp) :
    (∃ t ∈ ts, t.connections.get? c = some found) ↔
      ∃ u ∈ us, u.connections.get? c = some found := by
  constructor
  · rintro ⟨t, mem, there⟩
    obtain ⟨u, listed, same⟩ := o.1 t mem
    exact ⟨u, listed, same.get? c ▸ there⟩
  · rintro ⟨u, mem, there⟩
    obtain ⟨t, listed, same⟩ := o.2 u mem
    exact ⟨t, listed, (same.get? c).trans there⟩

/-- The edges of a connection do not depend on the order of matches and ports. -/
lemma Entity.Resolver.Reordered.derives {r s : Resolver} (o : r.Reordered s) (c : Connection)
    (i : Indicator) : Derives r c i ↔ Derives s c i := by
  obtain ⟨forth, back⟩ := o.lookups c.destination
  rw [Derives, Derives, o.workload]
  refine and_congr_right fun _ => and_congr_right fun _ => ⟨?_, ?_⟩
  · rintro ⟨l, found, workload, serves⟩
    obtain ⟨k, there, same, ports⟩ := forth l found
    exact ⟨k, there, same ▸ workload, ports.mem_iff.mp serves⟩
  · rintro ⟨k, found, workload, serves⟩
    obtain ⟨l, there, same, ports⟩ := back k found
    exact ⟨l, there, same.trans workload, ports.mem_iff.mpr serves⟩

namespace Engine

/-! ### Registered tables -/

/-- The table that a name is registered for. -/
def named (e : Engine) (name : String) : Option Table := (e.registry.get? name).bind e.table?

/-- Every registered table of an engine has a counterpart in another one, with the same connections
in whatever order. -/
def Covered (e f : Engine) : Prop :=
  ∀ name t, e.named name = some t → ∃ name' u, f.named name' = some u ∧ t.Reordered u

/-- The registered tables are those that names are registered for. -/
lemma mem_registered_iff {e : Engine} {t : Table} :
    t ∈ e.registered ↔ ∃ name, e.named name = some t := by
  simp only [registered, Keyed.values, List.mem_filterMap, List.mem_map, Prod.exists,
    exists_eq_right, named, Option.bind_eq_some_iff, Keyed.mem_entries_iff]
  constructor
  · rintro ⟨h, ⟨name, found⟩, there⟩
    exact ⟨name, h, found, there⟩
  · rintro ⟨name, h, found, there⟩
    exact ⟨h, ⟨name, found⟩, there⟩

/-- What holds of some registered table holds of the table of some name. -/
lemma exists_registered_iff {e : Engine} {P : Table → Prop} :
    (∃ t ∈ e.registered, P t) ↔ ∃ name t, e.named name = some t ∧ P t := by
  simp only [mem_registered_iff]
  constructor
  · rintro ⟨t, ⟨name, there⟩, holds⟩
    exact ⟨name, t, there, holds⟩
  · rintro ⟨name, t, there, holds⟩
    exact ⟨t, ⟨name, there⟩, holds⟩

/-- The tables of two engines match if each has its counterpart in the other engine. -/
lemma matched_registered {e f : Engine} (forth : e.Covered f) (back : f.Covered e) :
    Matched Table.Reordered e.registered f.registered := by
  refine ⟨fun t mem => ?_, fun u mem => ?_⟩
  · obtain ⟨name, there⟩ := mem_registered_iff.mp mem
    exact exists_registered_iff.mpr (forth name t there)
  · obtain ⟨name, there⟩ := mem_registered_iff.mp mem
    obtain ⟨t, found, same⟩ := exists_registered_iff.mpr (back name u there)
    exact ⟨t, found, same.symm⟩

/-! ### Snapshots and graphs -/

/-- A cycle that ends publishes its graph. -/
@[simp] lemma published_conclude (e : Engine) (connections : Nat) (g : Graph) :
    (e.conclude connections g).1.published = g := by
  simp only [conclude, publish]
  split <;> rfl

/-- A cycle publishes the graph of its snapshot. -/
@[simp] lemma published_enrich (e : Engine) (r : Resolver) :
    (e.enrich r).1.published = graphOf r e.snapshot.entries :=
  published_conclude e e.snapshot.entries.length _

/-- Publishing leaves the tables as they are. -/
@[simp] lemma tables_publish (e : Engine) (g : Graph) : (e.publish g).1.tables = e.tables := by
  simp only [publish]
  split <;> rfl

/-- Publishing leaves the registry as it is. -/
@[simp] lemma registry_publish (e : Engine) (g : Graph) :
    (e.publish g).1.registry = e.registry := by
  simp only [publish]
  split <;> rfl

/-- A cycle leaves the tables as they are. -/
@[simp] lemma tables_enrich (e : Engine) (r : Resolver) : (e.enrich r).1.tables = e.tables :=
  tables_publish ..

/-- A cycle leaves the registry as it is. -/
@[simp] lemma registry_enrich (e : Engine) (r : Resolver) :
    (e.enrich r).1.registry = e.registry :=
  registry_publish ..

/-- After a cycle the snapshot is the same as before. -/
@[simp] lemma snapshot_enrich (e : Engine) (r : Resolver) :
    (e.enrich r).1.snapshot = e.snapshot := by
  have same : (e.enrich r).1.table? = e.table? := by
    funext h
    rw [table?, tables_enrich, table?]
  rw [snapshot, snapshot, registered, registered, registry_enrich, same]

/-- The snapshot has the newest evidence of the registered tables for each connection. -/
lemma newest_snapshot (e : Engine) (c : Connection) :
    Newest {ts | ∃ t ∈ e.registered, t.connections.get? c = some ts} (e.snapshot.get? c) :=
  newest_combine e.registered c

/-- The snapshot has the newest evidence of the tables of all names for each connection. -/
lemma newest_snapshot_named (e : Engine) (c : Connection) :
    Newest {ts | ∃ name t, e.named name = some t ∧ t.connections.get? c = some ts}
      (e.snapshot.get? c) := by
  simp only [← exists_registered_iff]
  exact newest_snapshot e c

/-- The published graph has the newest evidence of the registered tables for each edge. -/
lemma newest_published (e : Engine) (r : Resolver) (i : Indicator) :
    Newest {ts | ∃ c, Derives r c i ∧ ∃ t ∈ e.registered, t.connections.get? c = some ts}
      ((e.enrich r).1.published.get? i) := by
  rw [published_enrich]
  exact newest_graphOf_combine r e.registered (.refl _) i

/-- The published graph has the newest evidence of the tables of all names for each edge. -/
lemma newest_published_named (e : Engine) (r : Resolver) (i : Indicator) :
    Newest {ts | ∃ c, Derives r c i ∧
      ∃ name t, e.named name = some t ∧ t.connections.get? c = some ts}
      ((e.enrich r).1.published.get? i) := by
  simp only [← exists_registered_iff]
  exact newest_published e r i

/-- The snapshot has the connections of the tables of all names. -/
lemma mem_keys_snapshot (e : Engine) (c : Connection) :
    c ∈ e.snapshot.keys ↔ ∃ name t, e.named name = some t ∧ c ∈ t.connections.keys := by
  simp only [(newest_snapshot_named e c).mem_keys, Set.mem_ofPred_eq, Keyed.mem_keys_iff]
  constructor
  · rintro ⟨ts, name, t, there, found⟩
    exact ⟨name, t, there, ts, found⟩
  · rintro ⟨name, t, there, ts, found⟩
    exact ⟨ts, name, t, there, found⟩

/-- The published graph has the edges that connections of the tables of all names lead to. -/
lemma mem_keys_published (e : Engine) (r : Resolver) (i : Indicator) :
    i ∈ (e.enrich r).1.published.keys ↔
      ∃ c, Derives r c i ∧ ∃ name t, e.named name = some t ∧ c ∈ t.connections.keys := by
  simp only [(newest_published_named e r i).mem_keys, Set.mem_ofPred_eq, Keyed.mem_keys_iff]
  constructor
  · rintro ⟨ts, c, derives, name, t, there, found⟩
    exact ⟨c, derives, name, t, there, ts, found⟩
  · rintro ⟨c, derives, name, t, there, ts, found⟩
    exact ⟨ts, c, derives, name, t, there, found⟩

/-- The snapshot has every connection of the tables that names are registered for with its newest
evidence, and a cycle publishes every edge that one of them leads to with the newest evidence for
it. No order matters, nor what was published before, and no table and no registration is changed. -/
theorem enrich_newest (e : Engine) (r : Resolver) :
    (∀ c, (c ∈ e.snapshot.keys ↔
        ∃ name t, e.named name = some t ∧ c ∈ t.connections.keys) ∧
      ∀ ts, e.snapshot.get? c = some ts →
        IsGreatest {ts | ∃ name t, e.named name = some t ∧ t.connections.get? c = some ts} ts) ∧
    (∀ i, (i ∈ (e.enrich r).1.published.keys ↔
        ∃ c, Derives r c i ∧ ∃ name t, e.named name = some t ∧ c ∈ t.connections.keys) ∧
      ∀ ts, (e.enrich r).1.published.get? i = some ts →
        IsGreatest {ts | ∃ c, Derives r c i ∧
          ∃ name t, e.named name = some t ∧ t.connections.get? c = some ts} ts) ∧
    (∀ (f : Engine) (s : Resolver), e.Covered f → f.Covered e → r.Reordered s →
      (∀ c, f.snapshot.get? c = e.snapshot.get? c) ∧
      (∀ i, (f.enrich s).1.published.get? i = (e.enrich r).1.published.get? i) ∧
      ∀ connections, connections.Perm f.snapshot.entries →
        ∀ i, (graphOf s connections).get? i = (e.enrich r).1.published.get? i) ∧
    ((e.enrich r).1.enrich r).1.published = (e.enrich r).1.published ∧
    (e.enrich r).1.tables = e.tables ∧ (e.enrich r).1.registry = e.registry := by
  refine ⟨fun c => ⟨mem_keys_snapshot e c, fun ts found => ?_⟩,
    fun i => ⟨mem_keys_published e r i, fun ts found => ?_⟩,
    fun f s forth back answers => ?_, ?_, tables_enrich e r, registry_enrich e r⟩
  · have newest := newest_snapshot_named e c
    rwa [found] at newest
  · have newest := newest_published_named e r i
    rwa [found] at newest
  · have tables := matched_registered forth back
    have anyOrder : ∀ connections, connections.Perm f.snapshot.entries →
        ∀ i, (graphOf s connections).get? i = (e.enrich r).1.published.get? i := by
      intro connections order i
      have newest := newest_graphOf_combine s f.registered order i
      simp only [← answers.derives, ← tables.evidence] at newest
      exact newest.unique (newest_published e r i)
    refine ⟨fun c => ?_, fun i => ?_, anyOrder⟩
    · have newest := newest_snapshot f c
      simp only [← tables.evidence] at newest
      exact newest.unique (newest_snapshot e c)
    · rw [published_enrich]
      exact anyOrder _ (.refl _) i
  · rw [published_enrich, snapshot_enrich, published_enrich]

end Engine

end FlowGraph
