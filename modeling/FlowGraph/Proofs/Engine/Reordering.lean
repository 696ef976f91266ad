import FlowGraph.Proofs.Engine.Accounting

/-!
# The order of objects

A directory shows in which order its objects came: matches and ports stand in the order of their
first mention, and a container belongs to the last pod that has it. None of this order reaches the
graph. Objects in another order, with their containers, ports and workloads in another order too,
make a directory that gives the same answers up to order (`Directory.resolver_reordered`) as long as
no container is claimed by two workloads, and a cycle then publishes the same
(`Engine.enrich_reordered`).
-/

namespace FlowGraph

open Traffic Flows Net

/-- The second list has counterparts of the elements of the first, one for each, in whatever
order. -/
def Shuffled {α : Type} (R : α → α → Prop) (xs ys : List α) : Prop :=
  ∃ zs, List.Forall₂ R xs zs ∧ zs.Perm ys

/-- Shuffled lists have elements of corresponding kinds. -/
lemma Shuffled.exists_mem_iff {α : Type} {R : α → α → Prop} {P Q : α → Prop} {xs ys : List α}
    (order : Shuffled R xs ys) (same : ∀ x y, R x y → (P x ↔ Q y)) :
    (∃ x ∈ xs, P x) ↔ ∃ y ∈ ys, Q y := by
  obtain ⟨zs, each, perm⟩ := order
  rw [exists_mem_iff_of_forall₂ each same]
  exact exists_congr fun z => and_congr_left fun _ => perm.mem_iff

namespace Entity

/-! ### Objects in another order -/

/-- Two containers are the same with their ports in whatever order. -/
structure Container.Reordered (c d : Container) : Prop where
  name : c.name = d.name
  id : c.id = d.id
  ports : c.ports.Perm d.ports

/-- Two pods are the same with their containers in whatever order. -/
structure Pod.Reordered (p q : Pod) : Prop where
  name : p.name = q.name
  ns : p.ns = q.ns
  workload : p.workload = q.workload
  address : p.address = q.address
  containers : Shuffled Container.Reordered p.containers q.containers

/-- Two services are the same with their ports and workloads in whatever order. -/
structure Service.Reordered (s t : Service) : Prop where
  name : s.name = t.name
  ns : s.ns = t.ns
  address : s.address = t.address
  ports : s.ports.Perm t.ports
  workloads : s.workloads.Perm t.workloads

/-- Two objects are the same with what they list in whatever order. -/
inductive Object.Reordered : Object → Object → Prop where
  | pod {p q : Pod} : p.Reordered q → Reordered (.pod p) (.pod q)
  | service {s t : Service} : s.Reordered t → Reordered (.service s) (.service t)

/-- No container is in pods of two workloads. -/
def Unambiguous (objects : List Object) : Prop :=
  ∀ p q container, .pod p ∈ objects → .pod q ∈ objects → p.Owns container → q.Owns container →
    p.workload = q.workload

section

variable {o o' : Object}

/-- A pod has the same containers in whatever order. -/
lemma Pod.Reordered.owns_iff {p q : Pod} (r : p.Reordered q) (container : String) :
    p.Owns container ↔ q.Owns container := by
  apply r.containers.exists_mem_iff
  intro c d same
  rw [same.id]

/-- An object gives a container to the same workload in whatever order it lists its containers. -/
lemma Object.Reordered.owner? (r : o.Reordered o') (container : String) :
    o.owner? container = o'.owner? container := by
  cases r with
  | pod same => simp only [Object.owner?, same.owns_iff container, same.workload]
  | service _ => rfl

/-- An object serves the same at an endpoint in whatever order it lists it. -/
lemma Object.Reordered.mem_servings_iff (r : o.Reordered o') (e : Endpoint) (s : Serving) :
    s ∈ o.servings e ↔ s ∈ o'.servings e := by
  cases r with
  | @pod p q same =>
    have ports : ∀ k, (∃ c ∈ p.containers, k ∈ c.ports) ↔ ∃ d ∈ q.containers, k ∈ d.ports := by
      intro k
      apply same.containers.exists_mem_iff
      intro c d reordered
      exact reordered.ports.mem_iff
    simp only [servings, Pod.servings, List.mem_ite_nil_right, List.mem_map, List.mem_filter,
      List.mem_flatMap, ports, same.address, same.workload]
  | service same =>
    simp only [servings, Service.servings, List.mem_ite_nil_right, List.mem_flatMap,
      List.mem_filter, List.mem_map, same.address, same.ports.mem_iff, same.workloads.mem_iff]

end

/-! ### Groups of the same servings -/

/-- It does not matter which of the two matches comes first. -/
lemma Lookup.Reordered.symm {l k : Lookup} (r : l.Reordered k) : k.Reordered l :=
  ⟨r.1.symm, r.2.symm⟩

section

variable {xs ys : List Serving}

/-- A workload has the same ports in servings that are the same in whatever order. -/
lemma portsOf_perm (same : ∀ s, s ∈ xs ↔ s ∈ ys) (w : String) :
    (portsOf w xs).Perm (portsOf w ys) := by
  apply (List.perm_ext_iff_of_nodup (nodup_eraseDups _) (nodup_eraseDups _)).mpr
  intro p
  simp only [List.mem_eraseDups, List.mem_map, List.mem_filter, same]

/-- A group of some servings has its counterpart in those of the same servings in another order. -/
lemma exists_reordered_of_mem_grouped (same : ∀ s, s ∈ xs ↔ s ∈ ys) {l : Lookup}
    (mem : l ∈ grouped xs) : ∃ k ∈ grouped ys, l.Reordered k := by
  rw [grouped, List.mem_map] at mem
  obtain ⟨w, comes, rfl⟩ := mem
  refine ⟨⟨w, portsOf w ys⟩, ?_, rfl, portsOf_perm same w⟩
  apply List.mem_map_of_mem
  rw [List.mem_eraseDups, List.mem_map] at comes ⊢
  obtain ⟨s, mem, named⟩ := comes
  exact ⟨s, (same s).mp mem, named⟩

/-- Servings that are the same in whatever order have the same groups up to order. -/
lemma grouped_reordered (same : ∀ s, s ∈ xs ↔ s ∈ ys) :
    Matched Lookup.Reordered (grouped xs) (grouped ys) := by
  constructor
  · intro l mem
    exact exists_reordered_of_mem_grouped same mem
  · intro k mem
    obtain ⟨l, there, reordered⟩ := exists_reordered_of_mem_grouped (fun s => (same s).symm) mem
    exact ⟨l, there, reordered.symm⟩

end

/-! ### Directories of reordered objects -/

section

variable {objects others : List Object} {c v w : String}

/-- An unambiguous container has one owner. -/
lemma Unambiguous.unique (owned : Unambiguous objects) (first : ∃ o ∈ objects, o.owner? c = some v)
    (second : ∃ o ∈ objects, o.owner? c = some w) : v = w := by
  obtain ⟨o, mem, gives⟩ := first
  obtain ⟨o', mem', gives'⟩ := second
  obtain ⟨p, rfl, owns, rfl⟩ := Object.owner?_eq_some_iff.mp gives
  obtain ⟨q, rfl, owns', rfl⟩ := Object.owner?_eq_some_iff.mp gives'
  exact owned p q c mem mem' owns owns'

/-- A workload that is given a container is given it in every order of the objects. -/
lemma exists_owner_iff (order : Shuffled Object.Reordered objects others) :
    (∃ o ∈ objects, o.owner? c = some w) ↔ ∃ o ∈ others, o.owner? c = some w := by
  apply order.exists_mem_iff
  intro o o' same
  rw [same.owner?]

/-- Objects are as unambiguous in one order as in another. -/
lemma Unambiguous.reordered (owned : Unambiguous objects)
    (order : Shuffled Object.Reordered objects others) : Unambiguous others := by
  intro p q c mem mem' owns owns'
  apply owned.unique
  · rw [exists_owner_iff order]
    exact ⟨_, mem, Object.owner?_eq_some_iff.mpr ⟨p, rfl, owns, rfl⟩⟩
  · rw [exists_owner_iff order]
    exact ⟨_, mem', Object.owner?_eq_some_iff.mpr ⟨q, rfl, owns', rfl⟩⟩

/-- If no container is claimed by two workloads, whichever pod has it tells its workload. -/
lemma Unambiguous.workload?_eq_some_iff (owned : Unambiguous objects) :
    (Directory.ofObjects objects).workload? c = some w ↔ ∃ o ∈ objects, o.owner? c = some w := by
  rw [Directory.workload?_ofObjects]
  constructor
  · intro found
    obtain ⟨o, mem, gives⟩ := List.exists_of_findSome?_eq_some found
    exact ⟨o, List.mem_reverse.mp mem, gives⟩
  · rintro ⟨o, mem, gives⟩
    cases found : objects.reverse.findSome? (·.owner? c) with
    | none =>
      rw [List.findSome?_eq_none_iff] at found
      rw [found o (List.mem_reverse.mpr mem)] at gives
      cases gives
    | some v =>
      obtain ⟨o', mem', gives'⟩ := List.exists_of_findSome?_eq_some found
      rw [owned.unique ⟨o', List.mem_reverse.mp mem', gives'⟩ ⟨o, mem, gives⟩]

/-- Directories of objects in different orders give the same answers up to order. -/
lemma Directory.resolver_reordered (order : Shuffled Object.Reordered objects others)
    (owned : Unambiguous objects) :
    (ofObjects objects).resolver.Reordered (ofObjects others).resolver := by
  constructor
  · funext container
    apply Option.ext
    intro workload
    rw [workload_resolver, workload_resolver, owned.workload?_eq_some_iff,
      (owned.reordered order).workload?_eq_some_iff]
    exact exists_owner_iff order
  · intro e
    rw [lookups_resolver, lookups_resolver, lookups_ofObjects, lookups_ofObjects]
    apply grouped_reordered
    intro s
    rw [List.mem_flatMap, List.mem_flatMap]
    apply order.exists_mem_iff
    intro o o' same
    exact same.mem_servings_iff e s

end

end Entity

namespace Engine

open Entity

/-- From objects in whatever order, themselves and all that they list, and from tables in whatever
order, a cycle publishes the same graph, if no container is claimed by two workloads. -/
theorem enrich_reordered {objects others : List Object}
    (order : Shuffled Object.Reordered objects others) (owned : Unambiguous objects)
    {e f : Engine} (tables : Matched Table.Reordered e.registered f.registered) (i : Indicator) :
    (e.enrich (Directory.ofObjects objects).resolver).1.published.get? i =
      (f.enrich (Directory.ofObjects others).resolver).1.published.get? i := by
  have answers := Directory.resolver_reordered order owned
  have newest := newest_published f (Directory.ofObjects others).resolver i
  simp only [← answers.derives, ← tables.evidence] at newest
  exact (newest_published e _ i).unique newest

/-- A client, a server in two containers, and a service in front of it and of a cache. -/
def orderedObjects : List Object :=
  [.pod ⟨"p", "n", "front", .pod (.v4 ⟨10, 0, 1, 1⟩), [⟨"c", "web", []⟩]⟩,
    .pod ⟨"q", "n", "back", .pod (.v4 ⟨10, 0, 0, 5⟩),
      [⟨"d", "db", [⟨443, .tcp⟩, ⟨53, .udp⟩]⟩, ⟨"e", "log", [⟨443, .tcp⟩]⟩]⟩,
    .service ⟨"s", "n", .v4 ⟨10, 0, 0, 5⟩, [⟨443, 8443, .tcp⟩, ⟨443, 80, .tcp⟩], ["back", "cache"]⟩]

/-- The same the other way round. -/
def reversedObjects : List Object :=
  [.service ⟨"s", "n", .v4 ⟨10, 0, 0, 5⟩, [⟨443, 80, .tcp⟩, ⟨443, 8443, .tcp⟩], ["cache", "back"]⟩,
    .pod ⟨"q", "n", "back", .pod (.v4 ⟨10, 0, 0, 5⟩),
      [⟨"e", "log", [⟨443, .tcp⟩]⟩, ⟨"d", "db", [⟨53, .udp⟩, ⟨443, .tcp⟩]⟩]⟩,
    .pod ⟨"p", "n", "front", .pod (.v4 ⟨10, 0, 1, 1⟩), [⟨"c", "web", []⟩]⟩]

/-- The two lists are shuffles of each other, on all levels. -/
lemma shuffled_reversedObjects : Shuffled Object.Reordered orderedObjects reversedObjects := by
  refine ⟨reversedObjects.reverse, ?_, List.reverse_perm _⟩
  refine .cons (.pod ⟨rfl, rfl, rfl, rfl, ?_⟩) (.cons (.pod ⟨rfl, rfl, rfl, rfl, ?_⟩)
    (.cons (.service ⟨rfl, rfl, rfl, by decide, by decide⟩) .nil))
  · exact ⟨_, .cons ⟨rfl, rfl, .refl _⟩ .nil, .refl _⟩
  · refine ⟨[⟨"d", "db", [⟨53, .udp⟩, ⟨443, .tcp⟩]⟩, ⟨"e", "log", [⟨443, .tcp⟩]⟩], ?_, by decide⟩
    exact .cons ⟨rfl, rfl, by decide⟩ (.cons ⟨rfl, rfl, .refl _⟩ .nil)

/-- Each of their containers is in pods of one workload. -/
lemma unambiguous_orderedObjects : Unambiguous orderedObjects := by
  intro p q c mem mem' owns owns'
  simp only [orderedObjects, List.mem_cons, List.not_mem_nil, or_false, Object.pod.injEq,
    reduceCtorEq] at mem mem'
  rcases mem with rfl | rfl <;> rcases mem' with rfl | rfl
  · rfl
  · have web : "web" = c := by simpa [Pod.Owns] using owns
    subst web
    simp [Pod.Owns] at owns'
  · have web : "web" = c := by simpa [Pod.Owns] using owns'
    subst web
    simp [Pod.Owns] at owns
  · rfl

/-- The two directories list what serves the endpoint in different orders, and the graph is the
same, with its edges to both workloads. -/
theorem enrich_reordered_reversed :
    Shuffled Object.Reordered orderedObjects reversedObjects ∧ Unambiguous orderedObjects ∧
    (Directory.ofObjects orderedObjects).lookups servedEndpoint =
      [⟨"back", [443, 8443, 80]⟩, ⟨"cache", [8443, 80]⟩] ∧
    (Directory.ofObjects reversedObjects).lookups servedEndpoint =
      [⟨"cache", [80, 8443]⟩, ⟨"back", [80, 8443, 443]⟩] ∧
    (∀ i, (observing.enrich (Directory.ofObjects orderedObjects).resolver).1.published.get? i =
      (observing.enrich (Directory.ofObjects reversedObjects).resolver).1.published.get? i) ∧
    (observing.enrich (Directory.ofObjects orderedObjects).resolver).1.published.size = 5 := by
  have tables : Matched Table.Reordered observing.registered observing.registered :=
    ⟨fun t mem => ⟨t, mem, .refl _⟩, fun t mem => ⟨t, mem, .refl _⟩⟩
  refine ⟨shuffled_reversedObjects, unambiguous_orderedObjects, by decide, by decide,
    fun i => ?_, by decide⟩
  exact enrich_reordered shuffled_reversedObjects unambiguous_orderedObjects tables i

end Engine

end FlowGraph
