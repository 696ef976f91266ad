import FlowGraph.Proofs.Engine.Lifecycle

/-!
# What one collector can do to the others

Collectors share the graph, but none of them can take away from it what others have seen. Two runs
that are the same but for the batches of one collector (`Engine.withoutBatches`) leave engines that
are the same but for its tables (`Engine.Alike.withoutBatches`). What the tables of others
contribute to an edge is then the same in both graphs, which have evidence that is at least as new,
and an edge that the collector itself contributes nothing to is the same in both
(`Engine.published_unhidden`).
-/

namespace FlowGraph

open Traffic Flows Entity Journal

/-- Tables of one name, which are the same unless the name is that of the collector. -/
def Traffic.Table.Beside (name : String) (t u : Table) : Prop :=
  u.name = t.name ∧ (t.name ≠ name → u = t)

section

variable {name : String} {t u v : Table}

/-- A table keeps its name when a batch is merged. -/
@[simp] lemma Traffic.Table.name_merge (t : Table) (b : Batch) (now : Micros) (first : Bool) :
    (t.merge b now first).name = t.name := by
  cases first <;> rfl

/-- A table keeps its name when it is touched. -/
@[simp] lemma Traffic.Table.name_touch (t : Table) (now : Micros) :
    (t.touch now).name = t.name := rfl

/-- It does not matter which of the two tables comes first. -/
lemma Traffic.Table.Beside.symm (a : t.Beside name u) : u.Beside name t := by
  refine ⟨a.1.symm, fun other => ?_⟩
  rw [a.1] at other
  exact (a.2 other).symm

/-- A third table may stand between the two. -/
lemma Traffic.Table.Beside.trans (a : t.Beside name u) (b : u.Beside name v) :
    t.Beside name v := by
  refine ⟨b.1.trans a.1, fun other => ?_⟩
  rw [b.2 (a.1 ▸ other), a.2 other]

end

namespace Engine

variable {e f : Engine} {name n : String}

/-! ### Names -/

/-- A change that leaves the names of tables leaves the name of each collector's table. -/
lemma exists_named_of_update {h : Handle} {g : Table → Table} (keeps : ∀ t, (g t).name = t.name)
    {t : Table} (found : (e.update h g).named n = some t) :
    ∃ u, e.named n = some u ∧ u.name = t.name := by
  rw [named, registry_update, Option.bind_eq_some_iff] at found
  obtain ⟨k, entered, found⟩ := found
  rw [named, entered, Option.bind_some]
  rw [table?_update] at found
  split at found
  · rw [Option.map_eq_some_iff] at found
    obtain ⟨u, there, rfl⟩ := found
    exact ⟨u, there, (keeps u).symm⟩
  · exact ⟨t, found, rfl⟩

/-- The table of a registered name has this name. -/
lemma Reachable.name_named (r : Reachable e) {t : Table} (found : e.named n = some t) :
    t.name = n := by
  induction r generalizing n t with
  | new period sink => cases found
  | @register e m now r ih =>
    rw [register_eq_touch] at found
    obtain ⟨u, entered, same⟩ := exists_named_of_update (fun t => t.name_touch now) found
    rw [← same]
    rw [named_enroll r.sound] at entered
    split at entered
    · next own =>
      subst own
      cases before : e.named n with
      | none =>
        rw [before] at entered
        cases entered
        rfl
      | some v =>
        rw [before] at entered
        cases entered
        exact ih before
    · exact ih entered
  | process h b now first _ ih =>
    obtain ⟨u, there, same⟩ := exists_named_of_update (fun t => t.name_merge b now first) found
    exact same.symm.trans (ih there)
  | touch h now _ ih =>
    obtain ⟨u, there, same⟩ := exists_named_of_update (fun t => t.name_touch now) found
    exact same.symm.trans (ih there)
  | conclude connections g _ ih =>
    rw [named_conclude] at found
    exact ih found
  | ask _ ih => exact ih found
  | @start e next events _ started ih =>
    rw [Engine.start] at started
    split at started
    · cases started
      exact ih found
    · cases started
    · split at started
      · cases started
      · cases started
        exact ih found
  | stop _ _ => cases found

/-! ### Runs without the batches of a collector -/

/-- The operation is a batch for a table of the collector. -/
def reports (name : String) (e : Engine) : Operation → Bool
  | .process h _ _ _ => (e.table? h).any (·.name = name)
  | _ => false

/-- The operations of a run less the batches for tables of the collector. -/
def withoutBatches (name : String) (e : Engine) : List Operation → List Operation
  | [] => []
  | op :: rest =>
    let others := (e.perform op).withoutBatches name rest
    if e.reports name op then others else op :: others

/-- The same batch or the same sign of life for both tables keeps them the same beside the
collector. -/
lemma lasting_beside (name : String) : Lasting fun _ => Table.Beside name := by
  refine ⟨fun k t => ⟨rfl, fun _ => rfl⟩, ?_, ?_⟩
  · intro k t u a b now first
    refine ⟨?_, fun other => ?_⟩
    · rw [Table.name_merge, Table.name_merge, a.1]
    · rw [Table.name_merge] at other
      rw [a.2 other]
  · intro k t u a now
    exact ⟨a.1, fun other => congrArg (·.touch now) (a.2 other)⟩

namespace Alike

/-- Engines that are alike beside a collector are so either way round. -/
lemma symm_beside (a : Alike (fun _ => Table.Beside name) e f) :
    Alike (fun _ => Table.Beside name) f e := by
  refine ⟨a.registry.symm, fun k => ?_⟩
  have related := a.tables k
  generalize e.table? k = t, f.table? k = u at related
  cases related with
  | none => exact .none
  | some r => exact .some r.symm

/-- Engines that are alike beside a collector may be compared through a third one. -/
lemma trans_beside {g : Engine} (a : Alike (fun _ => Table.Beside name) e f)
    (b : Alike (fun _ => Table.Beside name) f g) : Alike (fun _ => Table.Beside name) e g := by
  refine ⟨b.registry.trans a.registry, fun k => ?_⟩
  have first := a.tables k
  have second := b.tables k
  generalize e.table? k = t, f.table? k = u, g.table? k = v at first second
  cases first with
  | none =>
    cases second
    exact .none
  | some r =>
    cases second with
    | some s => exact .some (r.trans s)

/-- A batch for a table of the collector makes a difference in this table alone. -/
lemma perform_of_reports {op : Operation} (a : Alike (fun _ => Table.Beside name) e f)
    (own : e.reports name op) : Alike (fun _ => Table.Beside name) (e.perform op) f := by
  cases op with
  | process h b now first =>
    apply a.update_left
    intro t u there beside
    have named : t.name = name := by
      rw [reports, there, Option.any_some] at own
      exact of_decide_eq_true own
    refine ⟨?_, fun other => ?_⟩
    · rw [beside.1, Table.name_merge]
    · rw [Table.name_merge] at other
      exact absurd named other
  | _ => cases own

/-- A run and the run without the batches of a collector differ in its tables alone. -/
lemma withoutBatches (a : Alike (fun _ => Table.Beside name) e f) (ops : List Operation) :
    Alike (fun _ => Table.Beside name) (e.performAll ops)
      (f.performAll (e.withoutBatches name ops)) := by
  induction ops generalizing e f with
  | nil => exact a
  | cons op rest ih =>
    rw [performAll_cons, Engine.withoutBatches]
    split
    · next own => exact ih (a.perform_of_reports own)
    · exact ih (a.perform (lasting_beside name) op)

/-- Every other collector has the same table in both engines. -/
lemma named_eq (a : Alike (fun _ => Table.Beside name) e f) (r : Reachable e) (other : n ≠ name) :
    f.named n = e.named n := by
  rw [named, named, a.registry]
  cases found : e.registry.get? n with
  | none => rfl
  | some k =>
    have own : ∀ t, e.table? k = some t → t.name = n := by
      intro t there
      apply r.name_named
      rw [named, found, Option.bind_some, there]
    have related := a.tables k
    rw [Option.bind_some, Option.bind_some]
    generalize e.table? k = t, f.table? k = u at own related ⊢
    cases related with
    | none => rfl
    | some beside => rw [beside.2 (own _ rfl ▸ other)]

end Alike

/-! ### What a collector contributes -/

/-- The table of the collector has the evidence for a connection that leads to the edge. -/
def Contributes (e : Engine) (r : Resolver) (i : Indicator) (name : String) (ts : Timestamp) :
    Prop :=
  ∃ t, e.named name = some t ∧ ∃ c, Derives r c i ∧ t.connections.get? c = some ts

/-- The published graph has the newest evidence that any collector contributes. -/
lemma newest_contributed (e : Engine) (r : Resolver) (i : Indicator) :
    Newest {ts | ∃ n, e.Contributes r i n ts} ((e.enrich r).1.published.get? i) := by
  have evidence : ∀ ts, (∃ n, e.Contributes r i n ts) ↔
      ∃ c, Derives r c i ∧ ∃ n t, e.named n = some t ∧ t.connections.get? c = some ts := by
    intro ts
    constructor
    · rintro ⟨n, t, named, c, derives, found⟩
      exact ⟨c, derives, n, t, named, found⟩
    · rintro ⟨c, derives, n, t, named, found⟩
      exact ⟨n, t, named, c, derives, found⟩
  simp only [evidence]
  exact newest_published_named e r i

/-- The graph is at least as new as what any collector contributes. -/
lemma Contributes.exists_le {r : Resolver} {i : Indicator} {ts : Timestamp}
    (c : e.Contributes r i n ts) :
    ∃ newest, (e.enrich r).1.published.get? i = some newest ∧ ts ≤ newest := by
  have newest := newest_contributed e r i
  cases found : (e.enrich r).1.published.get? i with
  | none =>
    rw [found] at newest
    exact absurd ⟨n, c⟩ (newest ts)
  | some us =>
    rw [found] at newest
    exact ⟨us, rfl, newest.2 ⟨n, c⟩⟩

/-- What a collector contributes depends on its table alone. -/
lemma contributes_congr {r : Resolver} {i : Indicator} {ts : Timestamp}
    (same : e.named n = f.named n) : e.Contributes r i n ts ↔ f.Contributes r i n ts := by
  rw [Contributes, Contributes, same]

/-- If the same evidence is contributed to an edge, whoever does, it is published alike. -/
lemma published_congr {r : Resolver} {i : Indicator}
    (same : ∀ ts, (∃ n, e.Contributes r i n ts) ↔ ∃ n, f.Contributes r i n ts) :
    (e.enrich r).1.published.get? i = (f.enrich r).1.published.get? i := by
  apply (newest_contributed e r i).unique
  simp only [same]
  exact newest_contributed f r i

/-- A collector has nothing to contribute to an edge of a protocol that none of its connections
has. -/
lemma not_contributes_of_protocol {r : Resolver} {i : Indicator} {t : Table}
    (found : e.named n = some t)
    (others : ∀ c ∈ t.connections.keys, c.destination.protocol ≠ i.protocol) (ts : Timestamp) :
    ¬ e.Contributes r i n ts := by
  rintro ⟨u, named, c, ⟨-, protocol, -⟩, known⟩
  rw [found, Option.some.injEq] at named
  subst named
  exact others c (Keyed.mem_keys_iff.mpr ⟨ts, known⟩) protocol

/-- Two runs that are the same but for the batches of a collector differ in its tables alone. -/
lemma beside_history {period : Period} {sink : Option Sink} {xs ys : List Operation}
    (same : (new period sink).withoutBatches name xs = (new period sink).withoutBatches name ys) :
    Alike (fun _ => Table.Beside name) (history period sink ys) (history period sink xs) := by
  -- both runs are compared with the one that lacks the batches
  have start := Alike.refl (lasting_beside name) (new period sink)
  have left := start.withoutBatches xs
  have right := start.withoutBatches ys
  rw [← same] at right
  exact right.trans_beside left.symm_beside

/-- In two runs that are the same but for the batches of one collector, all others have the same
tables. Whatever one of them contributes to an edge, the edge is published after both runs with
evidence that is at least as new; and an edge to which the one collector contributes nothing in
either run is published with the same evidence, or not at all, after both. -/
theorem published_unhidden {period : Period} {sink : Option Sink} {xs ys : List Operation}
    (same : (new period sink).withoutBatches name xs = (new period sink).withoutBatches name ys)
    (r : Resolver) (i : Indicator) :
    let e := history period sink xs
    let f := history period sink ys
    (∀ n, n ≠ name → e.named n = f.named n) ∧
    (∀ n ts, n ≠ name → e.Contributes r i n ts → ∃ newest newest',
      (e.enrich r).1.published.get? i = some newest ∧ ts ≤ newest ∧
      (f.enrich r).1.published.get? i = some newest' ∧ ts ≤ newest') ∧
    ((∀ ts, ¬ e.Contributes r i name ts) → (∀ ts, ¬ f.Contributes r i name ts) →
      (e.enrich r).1.published.get? i = (f.enrich r).1.published.get? i) := by
  intro e f
  have others : ∀ n, n ≠ name → e.named n = f.named n :=
    fun n other => (beside_history same).named_eq (reachable_history period sink ys) other
  refine ⟨others, ?_, ?_⟩
  · intro n ts other contributed
    obtain ⟨newest, found, le⟩ := contributed.exists_le
    obtain ⟨newest', found', le'⟩ := ((contributes_congr (others n other)).mp contributed).exists_le
    exact ⟨newest, newest', found, le, found', le'⟩
  · intro silent silent'
    apply published_congr
    intro ts
    apply exists_congr
    intro n
    by_cases own : n = name
    · subst own
      simp only [silent, silent']
    · exact contributes_congr (others n own)

/-- What a client sees of a connection to a web server, if anything of when it closed. -/
def webObservation (closeTime : Option Micros) : Observation :=
  ⟨some "web", some (.v4 ⟨10, 0, 1, 1⟩), some (.v4 ⟨10, 0, 0, 5⟩ 443), some .tcp, some .client,
    closeTime⟩

/-- The same container asks a name server. -/
def nameObservation : Observation :=
  ⟨some "web", some (.v4 ⟨10, 0, 1, 1⟩), some (.v4 ⟨10, 0, 0, 9⟩ 53), some .udp, some .client, none⟩

/-- Two collectors, the second of which has both connections open, while the first one reports that
the one it has in common with the other was closed. -/
def quarrel : List Operation :=
  [.register "a" .zero, .register "b" .zero,
    .process 1 ⟨.zero, [webObservation none, nameObservation]⟩ .zero true,
    .process 0 ⟨.clamp (-0x8000000000000000), [webObservation (some (.clamp 5))]⟩ .zero true]

/-- The first collector reports earlier, and something else. -/
def accord : List Operation :=
  [.register "a" .zero, .process 0 ⟨.zero, [webObservation none]⟩ .zero true, .register "b" .zero,
    .process 1 ⟨.zero, [webObservation none, nameObservation]⟩ .zero true]

/-- Every container is of one workload, and another one serves every destination. -/
def backResolver : Resolver := ⟨fun _ => some "front", fun _ => [⟨"back", [443]⟩]⟩

/-- Whatever the first collector reports, both edges are open. -/
theorem published_unhidden_quarrel :
    (new ⟨1⟩ none).withoutBatches "a" quarrel = (new ⟨1⟩ none).withoutBatches "a" accord ∧
    (((history ⟨1⟩ none quarrel).enrich backResolver).1.published.get?
        ⟨"front", "back", 443, .tcp⟩ = some .stillOpen) ∧
    (((history ⟨1⟩ none quarrel).enrich backResolver).1.published.get?
        ⟨"front", "back", 443, .udp⟩ =
      ((history ⟨1⟩ none accord).enrich backResolver).1.published.get?
        ⟨"front", "back", 443, .udp⟩) := by
  have same : (new ⟨1⟩ none).withoutBatches "a" quarrel =
      (new ⟨1⟩ none).withoutBatches "a" accord := rfl
  refine ⟨same, ?_, ?_⟩
  · obtain ⟨-, seen, -⟩ := published_unhidden same backResolver ⟨"front", "back", 443, .tcp⟩
    have opened : (history ⟨1⟩ none quarrel).Contributes backResolver
        ⟨"front", "back", 443, .tcp⟩ "b" .stillOpen :=
      ⟨_, rfl, ⟨.v4 ⟨10, 0, 1, 1⟩, "web", .v4 ⟨10, 0, 0, 5⟩, 443, .tcp⟩,
        ⟨rfl, rfl, ⟨"back", [443]⟩, .head _, rfl, .head _⟩, rfl⟩
    obtain ⟨newest, _, found, le, -⟩ := seen "b" .stillOpen (by decide) opened
    rw [found, Timestamp.eq_stillOpen_of_le le]
  · obtain ⟨-, -, untouched⟩ := published_unhidden same backResolver ⟨"front", "back", 443, .udp⟩
    apply untouched
    · exact not_contributes_of_protocol rfl (by decide)
    · exact not_contributes_of_protocol rfl (by decide)

end Engine

end FlowGraph
