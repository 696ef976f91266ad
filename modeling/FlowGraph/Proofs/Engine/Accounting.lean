import FlowGraph.Proofs.Engine.Publication
import FlowGraph.Proofs.Entity.Directory

/-!
# What becomes of every connection

If the objects of the cluster are the only source of the answers, a cycle accounts for every
connection of its snapshot in one of three ways (`Account`): it tells that nobody owns the
container, or that nothing is known at the destination, or it takes edges into the graph, one for
each workload and port that the objects assign to the destination. `Engine.enrich_accounts` says so
for all objects and all tables, and that the journal and the published graph have nothing else about
connections.
-/

namespace FlowGraph

open Traffic Flows Entity Journal

/-! ### Edges to some lookups -/

namespace Flows

variable {c : Connection} {source : String} {lookups : List Lookup}

/-- Lookups of distinct workloads with distinct ports give distinct edges. -/
lemma nodup_indicatorsFrom (workloads : (lookups.map Lookup.workload).Nodup)
    (ports : ∀ l ∈ lookups, l.ports.Nodup) : (indicatorsFrom c source lookups).Nodup := by
  rw [indicatorsFrom, List.nodup_flatMap]
  refine ⟨fun l mem => ?_, ?_⟩
  · -- one workload: its ports are distinct
    apply (ports l mem).map
    intro p q same
    exact congrArg Indicator.port same
  · -- two workloads: their edges lead to different places
    apply (List.pairwise_map.mp workloads).imp
    intro l k differs
    rw [Function.onFun, List.disjoint_left]
    intro i left right
    obtain ⟨p, -, rfl⟩ := List.mem_map.mp left
    obtain ⟨q, -, same⟩ := List.mem_map.mp right
    exact differs (congrArg Indicator.destination same).symm

/-- Lookups of which each has a port give an edge, if there are any. -/
lemma indicatorsFrom_ne_nil (known : lookups ≠ []) (ports : ∀ l ∈ lookups, l.ports ≠ []) :
    indicatorsFrom c source lookups ≠ [] := by
  obtain ⟨l, mem⟩ := List.exists_mem_of_ne_nil _ known
  obtain ⟨p, port⟩ := List.exists_mem_of_ne_nil _ (ports l mem)
  exact List.ne_nil_of_mem (List.mem_flatMap.mpr ⟨l, mem, List.mem_map_of_mem port⟩)

end Flows

/-! ### One connection -/

/-- What becomes of a connection if the directory of some objects is asked about it: what is told of
it, and which edges it gives. -/
inductive Account (objects : List Object) (c : Connection) :
    List Event → List Indicator → Prop where
  | orphan :
    (Directory.ofObjects objects).workload? c.container = none →
    Account objects c [.orphan c] []
  | unresolved {source} :
    (Directory.ofObjects objects).workload? c.container = some source →
    (Directory.ofObjects objects).lookups c.destination = [] →
    Account objects c [.unresolved c.destination] []
  | resolved {source edges} :
    (Directory.ofObjects objects).workload? c.container = some source →
    (Directory.ofObjects objects).lookups c.destination ≠ [] →
    edges ≠ [] → edges.Nodup →
    (∀ i, i ∈ edges ↔ i.source = source ∧ i.protocol = c.destination.protocol ∧
      Directory.Assigned objects c.destination i.destination i.port) →
    Account objects c [] edges

/-- The edges of a connection lead from the workload of its container to what the objects assign to
its destination. -/
lemma mem_indicators_ofObjects_iff {objects : List Object} {c : Connection} {source : String}
    (owner : (Directory.ofObjects objects).workload? c.container = some source) (i : Indicator) :
    i ∈ indicators (Directory.ofObjects objects).resolver c ↔
      i.source = source ∧ i.protocol = c.destination.protocol ∧
        Directory.Assigned objects c.destination i.destination i.port := by
  rw [mem_indicators_iff, Derives, ← Directory.exists_mem_lookups_iff, Directory.workload_resolver,
    owner, Option.some.injEq, eq_comm, eq_comm (a := c.destination.protocol)]
  rfl

/-- Every connection is accounted for: what is told of it and the edges that it gives are one of the
three ways. -/
lemma account (objects : List Object) (c : Connection) :
    Account objects c (connectionRemarks (Directory.ofObjects objects).resolver c)
      (indicators (Directory.ofObjects objects).resolver c) := by
  cases owner : (Directory.ofObjects objects).workload? c.container with
  | none =>
    rw [connectionRemarks, indicators, Directory.workload_resolver, owner]
    exact .orphan owner
  | some source =>
    have edges := mem_indicators_ofObjects_iff owner
    rw [connectionRemarks]
    rw [indicators, Directory.workload_resolver, owner] at edges ⊢
    rw [Directory.lookups_resolver] at edges ⊢
    by_cases known : (Directory.ofObjects objects).lookups c.destination = []
    · rw [known]
      exact .unresolved owner known
    · -- the lookups are groups, of distinct workloads and with distinct ports
      have groups := Directory.lookups_ofObjects objects c.destination
      have unempty : ((Directory.ofObjects objects).lookups c.destination).isEmpty = false := by
        rwa [List.isEmpty_eq_false_iff]
      simp only [unempty]
      refine .resolved owner known ?_ ?_ edges
      · apply indicatorsFrom_ne_nil known
        rw [groups]
        exact fun l => ports_ne_nil_of_grouped
      · apply nodup_indicatorsFrom
        · rw [groups]
          exact nodup_grouped _
        · rw [groups]
          exact fun l => nodup_ports_of_grouped

/-! ### All connections of a cycle -/

/-- The event is about a connection that gives no edge. -/
def Journal.Event.isLoss : Event → Bool
  | .orphan _ | .unresolved _ => true
  | _ => false

section

variable {r : Resolver} {c : Connection} {event : Event}

/-- What is told of a connection is that its container is an orphan, or that its destination is not
resolved. -/
lemma eq_of_mem_connectionRemarks (mem : event ∈ connectionRemarks r c) :
    event = .orphan c ∨ event = .unresolved c.destination := by
  rw [connectionRemarks] at mem
  split at mem
  · exact .inl (List.mem_singleton.mp mem)
  · split at mem
    · exact .inr (List.mem_singleton.mp mem)
    · cases mem

/-- An orphan is told of once, and no other connection is called one. -/
lemma count_orphan_connectionRemarks :
    (connectionRemarks r c).count (.orphan c) = if r.workload c.container = none then 1 else 0 := by
  rw [connectionRemarks]
  split
  · next orphaned => simp [orphaned]
  · next source owner => split <;> simp [owner]

/-- Among distinct connections, too, each orphan is told of once. -/
lemma count_orphan_flatMap {cs : List Connection} (distinct : cs.Nodup) (mem : c ∈ cs) :
    (cs.flatMap (connectionRemarks r)).count (.orphan c) =
      if r.workload c.container = none then 1 else 0 := by
  -- an orphan is told of in its own turn, and the connections of a snapshot are distinct
  have others : ∀ ds : List Connection, c ∉ ds →
      (ds.flatMap (connectionRemarks r)).count (.orphan c) = 0 := by
    intro ds absent
    rw [List.count_eq_zero]
    intro told
    obtain ⟨d, listed, told⟩ := List.mem_flatMap.mp told
    rcases eq_of_mem_connectionRemarks told with same | same
    · cases same
      exact absent listed
    · cases same
  obtain ⟨before, after, rfl⟩ := List.append_of_mem mem
  rw [List.nodup_middle, List.nodup_cons, List.mem_append, not_or] at distinct
  obtain ⟨⟨notBefore, notAfter⟩, -⟩ := distinct
  rw [List.flatMap_append, List.flatMap_cons, List.count_append, List.count_append,
    others before notBefore, others after notAfter, count_orphan_connectionRemarks, Nat.zero_add,
    Nat.add_zero]

/-- A destination is told of as often as there are connections to it that are resolved no
further. -/
lemma count_unresolved_flatMap (r : Resolver) (cs : List Connection) (d : Net.Endpoint) :
    (cs.flatMap (connectionRemarks r)).count (.unresolved d) =
      cs.countP fun c => connectionRemarks r c = [.unresolved d] := by
  induction cs with
  | nil => rfl
  | cons c rest ih =>
    have own : (connectionRemarks r c).count (.unresolved d) =
        if connectionRemarks r c = [.unresolved d] then 1 else 0 := by
      rw [connectionRemarks]
      split
      · simp
      · split <;> simp [List.count_singleton]
    rw [List.flatMap_cons, List.count_append, ih, own, List.countP_cons, Nat.add_comm]
    simp

end

namespace Engine

/-- What the sink tells is not about connections. -/
lemma filter_isLoss_publish (e : Engine) (g : Graph) :
    (e.publish g).2.filter Event.isLoss = [] := by
  rw [publish, List.filter_eq_nil_iff]
  intro event told
  split at told
  · cases told
  · simp only [Sink.publish, Sink.stateEvents, List.mem_cons, List.mem_ite_nil_right,
      List.mem_map] at told
    rcases told with rfl | ⟨-, rfl | ⟨flow, -, rfl⟩⟩ <;> exact Bool.false_ne_true

/-- The journal of a cycle has what there is to tell of its connections, one after the other, and
nothing else about connections that give no edge. -/
lemma filter_isLoss_enrich (e : Engine) (r : Resolver) :
    (e.enrich r).2.filter Event.isLoss = e.snapshot.keys.flatMap (connectionRemarks r) := by
  have remarks : graphRemarks r e.snapshot.entries =
      e.snapshot.keys.flatMap (connectionRemarks r) := by
    rw [graphRemarks, Keyed.keys, List.flatMap_map]
  have losses : (e.snapshot.keys.flatMap (connectionRemarks r)).filter Event.isLoss =
      e.snapshot.keys.flatMap (connectionRemarks r) := by
    rw [List.filter_eq_self]
    intro event told
    obtain ⟨c, -, told⟩ := List.mem_flatMap.mp told
    rcases eq_of_mem_connectionRemarks told with rfl | rfl <;> rfl
  rw [enrich, conclude, List.filter_append, remarks, losses,
    List.filter_cons_of_neg Bool.false_ne_true, filter_isLoss_publish, List.append_nil]

/-- A cycle that asks the directory of some objects accounts for every connection of its snapshot.
An orphan is told of once, an unresolved destination once for each of its connections, and nothing
else is told of connections without edges; and the published graph has the edges of the
connections. -/
theorem enrich_accounts (objects : List Object) (e : Engine) :
    let r := (Directory.ofObjects objects).resolver
    let told := (e.enrich r).2
    (∀ c ∈ e.snapshot.keys, Account objects c (connectionRemarks r c) (indicators r c) ∧
      told.count (.orphan c) =
        if (Directory.ofObjects objects).workload? c.container = none then 1 else 0) ∧
    (∀ d, told.count (.unresolved d) =
      e.snapshot.keys.countP fun c => connectionRemarks r c = [.unresolved d]) ∧
    told.filter Event.isLoss = e.snapshot.keys.flatMap (connectionRemarks r) ∧
    (∀ c d, (Event.orphan c).level = .warn ∧ (Event.unresolved d).level = .debug) ∧
    ∀ i, i ∈ (e.enrich r).1.published.keys ↔ ∃ c ∈ e.snapshot.keys, i ∈ indicators r c := by
  intro r told
  have losses : told.filter Event.isLoss = e.snapshot.keys.flatMap (connectionRemarks r) :=
    filter_isLoss_enrich e r
  refine ⟨fun c mem => ⟨account objects c, ?_⟩, fun d => ?_, losses, fun c d => ⟨rfl, rfl⟩,
    fun i => ?_⟩
  · rw [← List.count_filter (p := Event.isLoss) rfl, losses]
    exact count_orphan_flatMap e.snapshot.distinct mem
  · rw [← List.count_filter (p := Event.isLoss) rfl, losses]
    exact count_unresolved_flatMap r e.snapshot.keys d
  · rw [mem_keys_published]
    simp only [mem_keys_snapshot, mem_indicators_iff]
    constructor
    · rintro ⟨c, derives, listed⟩
      exact ⟨c, listed, derives⟩
    · rintro ⟨c, listed, derives⟩
      exact ⟨c, derives, listed⟩

/-- A pod with a container that connects to others, one with two containers that serve the same
port, and a service in front of it that has the address of the pod. -/
def servingObjects : List Object :=
  [.pod ⟨"p", "n", "front", .pod (.v4 ⟨10, 0, 1, 1⟩), [⟨"c", "web", []⟩]⟩,
    .pod ⟨"q", "n", "back", .pod (.v4 ⟨10, 0, 0, 5⟩),
      [⟨"d", "db", [⟨443, .tcp⟩]⟩, ⟨"e", "log", [⟨443, .tcp⟩]⟩]⟩,
    .service ⟨"s", "n", .v4 ⟨10, 0, 0, 5⟩, [⟨443, 8443, .tcp⟩], ["back", "cache"]⟩]

/-- What the pod and the service serve. -/
def servedEndpoint : Net.Endpoint := ⟨.v4 ⟨10, 0, 0, 5⟩, 443, .tcp⟩

/-- What none of the objects serves. -/
def unservedEndpoint : Net.Endpoint := ⟨.v4 ⟨10, 0, 0, 9⟩, 53, .udp⟩

/-- Connections to what is served, to what is not, and from a container that nobody owns. -/
def observedConnections : List (Connection × Timestamp) :=
  [(⟨.v4 ⟨10, 0, 1, 1⟩, "web", servedEndpoint⟩, .stillOpen),
    (⟨.v4 ⟨10, 0, 1, 1⟩, "web", unservedEndpoint⟩, .stillOpen),
    (⟨.v4 ⟨10, 0, 1, 2⟩, "lost", servedEndpoint⟩, .stillOpen),
    (⟨.v4 ⟨10, 0, 1, 3⟩, "web", unservedEndpoint⟩, .closed .zero)]

/-- An engine with the connections in its one table. -/
def observing : Engine :=
  { new ⟨1⟩ none with
    tables := [⟨"h", .ofList observedConnections, .zero⟩], registry := .ofList [("h", 0)] }

/-- The orphan is told of once and the unresolved destination for both of its connections, and the
one connection that is resolved gives three edges. -/
theorem enrich_accounts_observing :
    let r := (Directory.ofObjects servingObjects).resolver
    (observing.enrich r).2.count (.orphan ⟨.v4 ⟨10, 0, 1, 2⟩, "lost", servedEndpoint⟩) = 1 ∧
    (observing.enrich r).2.count (.unresolved unservedEndpoint) = 2 ∧
    Account servingObjects ⟨.v4 ⟨10, 0, 1, 1⟩, "web", servedEndpoint⟩ []
      [⟨"front", "back", 443, .tcp⟩, ⟨"front", "back", 8443, .tcp⟩,
        ⟨"front", "cache", 8443, .tcp⟩] := by
  obtain ⟨each, unresolved, -⟩ := enrich_accounts servingObjects observing
  refine ⟨?_, ?_, ?_⟩
  · rw [(each _ (by decide)).2]
    decide
  · rw [unresolved]
    decide
  · exact (each ⟨.v4 ⟨10, 0, 1, 1⟩, "web", servedEndpoint⟩ (by decide)).1

end Engine

end FlowGraph
