import FlowGraph.Proofs.Entity.Grouping
import FlowGraph.Session.Feed
import Mathlib

/-!
# What a directory answers

A directory is made by going through objects and, inside these, through containers, ports and
workloads, and each step changes one entry in place. Its answers are said here by the objects alone:
the workload of a container is that of the last pod that has it, and the lookups of an endpoint are
the servings that the objects have for it, grouped (`Directory.ofObjects_answers`).
-/

namespace FlowGraph.Entity

open Net

/-- One of the containers of the pod has the name. -/
def Pod.Owns (p : Pod) (container : String) : Prop := ∃ c ∈ p.containers, c.id = container

instance (p : Pod) (container : String) : Decidable (p.Owns container) :=
  inferInstanceAs (Decidable (∃ c ∈ p.containers, c.id = container))

/-- What a pod serves at an endpoint: nothing at the address of its host, and at its own address
the port as often as its containers have it with the protocol. -/
def Pod.servings (p : Pod) (e : Endpoint) : List Serving :=
  if p.address = .pod e.address then
    ((p.containers.flatMap Container.ports).filter (· = ⟨e.port, e.protocol⟩)).map fun _ =>
      (p.workload, e.port)
  else []

/-- What a service serves at an endpoint: for each of its ports there, the port behind it for each
of its workloads. -/
def Service.servings (s : Service) (e : Endpoint) : List Serving :=
  if s.address = e.address then
    (s.ports.filter fun q => q.port = e.port ∧ q.protocol = e.protocol).flatMap fun q =>
      s.workloads.map fun w => (w, q.target)
  else []

namespace Object

/-- The workload of a container, if the object is a pod that has it. -/
def owner? (container : String) : Object → Option String
  | pod p => if p.Owns container then some p.workload else none
  | service _ => none

/-- What an object serves at an endpoint. -/
def servings (e : Endpoint) : Object → List Serving
  | pod p => p.servings e
  | service s => s.servings e

/-- An object that gives no workload for a container is no pod that has it. -/
lemma owner?_eq_none_iff {c : String} {o : Object} :
    o.owner? c = none ↔ ∀ p, o = pod p → ¬ p.Owns c := by
  cases o with
  | pod p => simp [owner?]
  | service s => simp [owner?]

/-- An object that gives a workload for a container is a pod of this workload that has it. -/
lemma owner?_eq_some_iff {c w : String} {o : Object} :
    o.owner? c = some w ↔ ∃ p, o = pod p ∧ p.Owns c ∧ p.workload = w := by
  cases o with
  | pod p => simp [owner?]
  | service s => simp [owner?]

end Object

namespace Directory

/-- A resolver of a directory knows the workloads that the directory knows. -/
@[simp] lemma workload_resolver (d : Directory) : d.resolver.workload = d.workload? := rfl

/-- A resolver of a directory finds the lookups that the directory finds. -/
@[simp] lemma lookups_resolver (d : Directory) : d.resolver.lookups = d.lookups := rfl

/-- Nothing for each of some elements is nothing at all. -/
lemma flatMap_const_nil {α β : Type} (xs : List α) : (xs.flatMap fun _ => ([] : List β)) = [] :=
  List.flatMap_eq_nil_iff.mpr fun _ _ => rfl

/-- Going through some elements only is giving nothing for the others. -/
lemma flatMap_ite_nil {α β : Type} (p : α → Prop) [DecidablePred p] (f : α → List β)
    (xs : List α) : (xs.flatMap fun x => if p x then f x else []) = (xs.filter p).flatMap f := by
  induction xs with
  | nil => rfl
  | cons x rest ih =>
    rw [List.flatMap_cons, ih, List.filter_cons]
    by_cases holds : p x
    · simp [holds]
    · simp [holds]

/-! ### Steps that only add servings, or only give containers to workloads -/

section

variable {α : Type} {step : Directory → α → Directory}

/-- If each step adds servings to an endpoint, all steps add them one after the other. -/
lemma lookups_foldl {e : Endpoint} {servings : α → List Serving}
    (adds : ∀ d x, (step d x).lookups e = addAll (d.lookups e) (servings x))
    (d : Directory) (xs : List α) :
    (xs.foldl step d).lookups e = addAll (d.lookups e) (xs.flatMap servings) := by
  induction xs generalizing d with
  | nil => rfl
  | cons x rest ih => rw [List.foldl_cons, ih, adds, List.flatMap_cons, addAll_append]

/-- If each step may give a container to a workload, the last one that does counts. -/
lemma workload?_foldl {container : String} {owner : α → Option String}
    (gives : ∀ d x, (step d x).workload? container = (owner x).or (d.workload? container))
    (d : Directory) (xs : List α) :
    (xs.foldl step d).workload? container =
      (xs.reverse.findSome? owner).or (d.workload? container) := by
  induction xs generalizing d with
  | nil => rfl
  | cons x rest ih =>
    rw [List.foldl_cons, ih, gives, List.reverse_cons, List.findSome?_append, Option.or_assoc,
      List.findSome?_singleton]

/-- Steps that give no container to a workload leave all containers as they are. -/
lemma workload?_foldl_of_eq {container : String}
    (same : ∀ d x, (step d x).workload? container = d.workload? container)
    (d : Directory) (xs : List α) :
    (xs.foldl step d).workload? container = d.workload? container := by
  induction xs generalizing d with
  | nil => rfl
  | cons x rest ih => rw [List.foldl_cons, ih, same]

end

/-! ### Lookups -/

/-- A serving is added at its own endpoint alone. -/
lemma lookups_serve (d : Directory) (e f : Endpoint) (w : String) (p : UInt16) :
    (d.serve f w p).lookups e = addAll (d.lookups e) (if e = f then [(w, p)] else []) := by
  rw [lookups, serve, Keyed.get?_put]
  by_cases same : e = f
  · rw [if_pos same, if_pos same, same]
    rfl
  · rw [if_neg same, if_neg same]
    rfl

/-- A container that is given to a workload changes no lookups. -/
@[simp] lemma lookups_own (d : Directory) (container workload : String) (e : Endpoint) :
    (d.own container workload).lookups e = d.lookups e := rfl

/-- The ports of a container add the port of the endpoint as often as they have it. -/
lemma lookups_addPorts (w : String) (a : Address) (e : Endpoint) (d : Directory)
    (ports : List Port) :
    (ports.foldl (addPort w a) d).lookups e = addAll (d.lookups e)
      (if a = e.address then
        (ports.filter (· = ⟨e.port, e.protocol⟩)).map fun _ => (w, e.port) else []) := by
  rw [lookups_foldl fun d q => lookups_serve d e ⟨a, q.port, q.protocol⟩ w q.port]
  congr 1
  obtain ⟨address, port, protocol⟩ := e
  by_cases here : a = address
  · subst here
    rw [if_pos rfl]
    induction ports with
    | nil => rfl
    | cons q rest ih =>
      rw [List.flatMap_cons, ih, List.filter_cons]
      by_cases same : q = ⟨port, protocol⟩
      · simp [same]
      · have differs : ¬ (⟨a, port, protocol⟩ : Endpoint) = ⟨a, q.port, q.protocol⟩ := by
          intro equal
          cases equal
          exact same rfl
        rw [if_neg differs, List.nil_append]
        simp [same]
  · rw [if_neg here, List.flatMap_eq_nil_iff]
    intro q _
    rw [if_neg]
    rintro equal
    cases equal
    exact here rfl

/-- A pod adds what it serves. -/
lemma lookups_addPod (d : Directory) (p : Pod) (e : Endpoint) :
    (d.add (.pod p)).lookups e = addAll (d.lookups e) (p.servings e) := by
  rw [add, Pod.servings]
  cases place : p.address with
  | host a =>
    rw [if_neg (by simp)]
    have adds : ∀ d c, (addContainer p d c).lookups e = addAll (d.lookups e) [] := by
      intro d c
      rw [addContainer, place, lookups_own]
      rfl
    rw [lookups_foldl adds, flatMap_const_nil]
  | pod a =>
    have adds : ∀ d c, (addContainer p d c).lookups e = addAll (d.lookups e)
        (if a = e.address then
          (c.ports.filter (· = ⟨e.port, e.protocol⟩)).map fun _ => (p.workload, e.port)
        else []) := by
      intro d c
      rw [addContainer, place, lookups_own]
      exact lookups_addPorts ..
    rw [lookups_foldl adds]
    by_cases here : a = e.address
    · rw [if_pos (congrArg PodAddress.pod here)]
      simp only [if_pos here, List.filter_flatMap, List.map_flatMap]
    · rw [if_neg (fun equal => here (PodAddress.pod.inj equal))]
      simp only [if_neg here, flatMap_const_nil]

/-- A service adds what it serves. -/
lemma lookups_addService (d : Directory) (s : Service) (e : Endpoint) :
    (d.add (.service s)).lookups e = addAll (d.lookups e) (s.servings e) := by
  have adds : ∀ d q, (addServicePort s d q).lookups e = addAll (d.lookups e)
      (if s.address = e.address ∧ q.port = e.port ∧ q.protocol = e.protocol then
        s.workloads.map fun w => (w, q.target) else []) := by
    intro d q
    have each : ∀ d w, (Directory.serve d ⟨s.address, q.port, q.protocol⟩ w q.target).lookups e =
        addAll (d.lookups e)
          (if e = ⟨s.address, q.port, q.protocol⟩ then [(w, q.target)] else []) :=
      fun d w => lookups_serve ..
    rw [addServicePort, lookups_foldl each]
    obtain ⟨address, port, protocol⟩ := e
    by_cases here : s.address = address ∧ q.port = port ∧ q.protocol = protocol
    · obtain ⟨rfl, rfl, rfl⟩ := here
      simp [List.map_eq_flatMap]
    · have differs : ¬ (⟨address, port, protocol⟩ : Endpoint) =
          ⟨s.address, q.port, q.protocol⟩ := by
        intro equal
        cases equal
        exact here ⟨rfl, rfl, rfl⟩
      simp only [if_neg here, if_neg differs, flatMap_const_nil]
  rw [add, lookups_foldl adds, Service.servings]
  congr 1
  by_cases here : s.address = e.address
  · simp only [here, true_and, if_true]
    exact flatMap_ite_nil ..
  · simp only [here, false_and, if_false, flatMap_const_nil]

/-- The lookups of an endpoint are what the objects serve there, grouped. -/
theorem lookups_ofObjects (objects : List Object) (e : Endpoint) :
    (ofObjects objects).lookups e = grouped (objects.flatMap (·.servings e)) := by
  have adds : ∀ d o, (add d o).lookups e = addAll (d.lookups e) (o.servings e) := by
    intro d o
    cases o with
    | pod p => exact lookups_addPod d p e
    | service s => exact lookups_addService d s e
  rw [ofObjects, lookups_foldl adds, ← addAll_eq_grouped]
  rfl

/-- The objects assign a workload and a port to an endpoint: a pod at its own address its workload,
if one of its containers has the port of the endpoint, and a service the port behind one of its
ports for each of its workloads. -/
inductive Assigned (objects : List Object) (e : Endpoint) : String → UInt16 → Prop where
  | pod {p : Pod} {k : Container} :
    .pod p ∈ objects → p.address = .pod e.address → k ∈ p.containers →
    ⟨e.port, e.protocol⟩ ∈ k.ports → Assigned objects e p.workload e.port
  | service {s : Service} {q : ServicePort} {w : String} :
    .service s ∈ objects → s.address = e.address → q ∈ s.ports → q.port = e.port →
    q.protocol = e.protocol → w ∈ s.workloads → Assigned objects e w q.target

/-- What an object serves at an endpoint is assigned to the endpoint. -/
lemma assigned_of_mem_servings {objects : List Object} {e : Endpoint} {w : String} {port : UInt16}
    {o : Object} (mem : o ∈ objects) (served : (w, port) ∈ o.servings e) :
    Assigned objects e w port := by
  cases o with
  | pod p =>
    rw [Object.servings, Pod.servings, List.mem_ite_nil_right, List.mem_map] at served
    obtain ⟨here, q, kept, same⟩ := served
    obtain ⟨there, named⟩ := List.mem_filter.mp kept
    obtain ⟨k, contained, listed⟩ := List.mem_flatMap.mp there
    cases same
    cases of_decide_eq_true named
    exact .pod mem here contained listed
  | service s =>
    rw [Object.servings, Service.servings, List.mem_ite_nil_right, List.mem_flatMap] at served
    obtain ⟨here, q, kept, served⟩ := served
    obtain ⟨listed, named⟩ := List.mem_filter.mp kept
    obtain ⟨port, protocol⟩ := of_decide_eq_true named
    obtain ⟨v, selected, same⟩ := List.mem_map.mp served
    cases same
    exact .service mem here listed port protocol selected

/-- What is assigned to an endpoint is served there by one of the objects. -/
lemma Assigned.exists_mem_servings {objects : List Object} {e : Endpoint} {w : String}
    {port : UInt16} (assigned : Assigned objects e w port) :
    ∃ o ∈ objects, (w, port) ∈ o.servings e := by
  cases assigned with
  | @pod p k mem here contained listed =>
    refine ⟨_, mem, ?_⟩
    rw [Object.servings, Pod.servings, if_pos here]
    have there := List.mem_flatMap.mpr ⟨k, contained, listed⟩
    exact List.mem_map_of_mem (List.mem_filter.mpr ⟨there, by simp⟩)
  | @service s q w mem here listed port protocol selected =>
    refine ⟨_, mem, ?_⟩
    rw [Object.servings, Service.servings, if_pos here]
    have kept : q ∈ s.ports.filter fun q => q.port = e.port ∧ q.protocol = e.protocol :=
      List.mem_filter.mpr ⟨listed, decide_eq_true ⟨port, protocol⟩⟩
    exact List.mem_flatMap.mpr ⟨q, kept, List.mem_map_of_mem selected⟩

/-- The lookups of an endpoint have what the objects assign to it. -/
lemma exists_mem_lookups_iff {objects : List Object} {e : Endpoint} {w : String} {port : UInt16} :
    (∃ l ∈ (ofObjects objects).lookups e, l.workload = w ∧ port ∈ l.ports) ↔
      Assigned objects e w port := by
  rw [lookups_ofObjects, exists_mem_grouped_iff, List.mem_flatMap]
  constructor
  · rintro ⟨o, mem, served⟩
    exact assigned_of_mem_servings mem served
  · exact Assigned.exists_mem_servings

/-! ### Containers -/

/-- A container of a pod goes to the workload of the pod, and all others stay where they are. -/
lemma workload?_addContainer (p : Pod) (d : Directory) (c : Container) (container : String) :
    (addContainer p d c).workload? container =
      (if c.id = container then some p.workload else none).or (d.workload? container) := by
  rw [addContainer, workload?, own, Keyed.get?_insert]
  by_cases same : container = c.id
  · rw [if_pos same, if_pos same.symm, Option.some_or]
  · rw [if_neg same, if_neg (Ne.symm same), Option.none_or]
    cases p.address with
    | host a => rfl
    | pod a =>
      have same : ∀ d q, (addPort p.workload a d q).workload? container =
          d.workload? container := fun _ _ => rfl
      exact workload?_foldl_of_eq same d c.ports

/-- An object gives a container to a workload if it is a pod that has the container. -/
lemma workload?_add (d : Directory) (o : Object) (container : String) :
    (d.add o).workload? container = (o.owner? container).or (d.workload? container) := by
  cases o with
  | pod p =>
    rw [add, workload?_foldl fun d c => workload?_addContainer p d c container, Object.owner?]
    congr 1
    by_cases owns : p.Owns container
    · obtain ⟨c, mem, named⟩ := owns
      have found : (p.containers.reverse.findSome? fun c =>
          if c.id = container then some p.workload else none) ≠ none := by
        intro absent
        rw [List.findSome?_eq_none_iff] at absent
        have missing := absent c (List.mem_reverse.mpr mem)
        rw [if_pos named] at missing
        cases missing
      obtain ⟨w, found⟩ := Option.ne_none_iff_exists'.mp found
      -- whichever container it is, its workload is that of the pod
      obtain ⟨k, -, gives⟩ := List.exists_of_findSome?_eq_some found
      rw [Option.ite_none_right_eq_some] at gives
      rw [found, if_pos ⟨c, mem, named⟩, ← gives.2]
    · rw [if_neg owns, List.findSome?_eq_none_iff]
      intro c mem
      rw [if_neg]
      exact fun named => owns ⟨c, List.mem_reverse.mp mem, named⟩
  | service s =>
    have same : ∀ d q, (addServicePort s d q).workload? container = d.workload? container := by
      intro d q
      have each : ∀ d w, (Directory.serve d ⟨s.address, q.port, q.protocol⟩ w
          q.target).workload? container = d.workload? container := fun _ _ => rfl
      exact workload?_foldl_of_eq each d s.workloads
    exact workload?_foldl_of_eq same d s.ports

/-- The workload of a container is that of the last object which gives it one. -/
lemma workload?_ofObjects (objects : List Object) (container : String) :
    (ofObjects objects).workload? container =
      objects.reverse.findSome? (·.owner? container) := by
  rw [ofObjects, workload?_foldl fun d o => workload?_add d o container]
  exact Option.or_none

/-- The answers of the directory of some objects, whichever directory it takes the place of. -/
theorem ofObjects_answers (objects : List Object) :
    (∀ c w, (ofObjects objects).workload? c = some w ↔ ∃ before p after,
      objects = before ++ .pod p :: after ∧ p.Owns c ∧ p.workload = w ∧
        ∀ q, .pod q ∈ after → ¬ q.Owns c) ∧
    (∀ c, (ofObjects objects).workload? c = none ↔ ∀ p, .pod p ∈ objects → ¬ p.Owns c) ∧
    (∀ e, (ofObjects objects).lookups e = grouped (objects.flatMap (·.servings e)) ∧
      (((ofObjects objects).lookups e).map Lookup.workload).Nodup ∧
      (∀ l ∈ (ofObjects objects).lookups e, l.ports ≠ [] ∧ l.ports.Nodup) ∧
      ((ofObjects objects).lookups e = [] ↔ ∀ o ∈ objects, o.servings e = [])) ∧
    (∀ ending d frame rest, Json.decode Object.listReader frame = .ok objects →
      (Session.Feed.run ending d (frame :: rest)).1 =
        (Session.Feed.run ending (ofObjects objects) rest).1) := by
  refine ⟨fun c w => ?_, fun c => ?_, fun e => ?_, fun ending d frame rest decoded => ?_⟩
  · rw [workload?_ofObjects, List.findSome?_eq_some_iff]
    -- the search goes through the objects backwards, so before and after change places
    constructor
    · rintro ⟨xs, o, ys, whole, gives, others⟩
      obtain ⟨p, rfl, owns, named⟩ := Object.owner?_eq_some_iff.mp gives
      refine ⟨ys.reverse, p, xs.reverse, ?_, owns, named, fun q mem => ?_⟩
      · rw [← List.reverse_reverse objects, whole]
        simp
      · exact Object.owner?_eq_none_iff.mp (others _ (List.mem_reverse.mp mem)) q rfl
    · rintro ⟨before, p, after, rfl, owns, named, others⟩
      refine ⟨after.reverse, .pod p, before.reverse, by simp, ?_, fun o mem => ?_⟩
      · exact Object.owner?_eq_some_iff.mpr ⟨p, rfl, owns, named⟩
      · rw [Object.owner?_eq_none_iff]
        rintro q rfl
        exact others q (List.mem_reverse.mp mem)
  · rw [workload?_ofObjects, List.findSome?_eq_none_iff]
    simp only [List.mem_reverse, Object.owner?_eq_none_iff]
    constructor
    · exact fun others p mem => others _ mem p rfl
    · rintro others o mem p rfl
      exact others p mem
  · rw [lookups_ofObjects]
    refine ⟨rfl, nodup_grouped _, fun l mem => ?_, ?_⟩
    · exact ⟨ports_ne_nil_of_grouped mem, nodup_ports_of_grouped mem⟩
    · rw [grouped_eq_nil_iff, List.flatMap_eq_nil_iff]
  · rw [Session.Feed.run, decoded]

/-- A service that selects a workload twice, and a pod at the address of its host. -/
def sharedObjects : List Object :=
  [.service ⟨"s", "n", .v4 ⟨10, 0, 0, 1⟩, [⟨80, 8080, .tcp⟩], ["w", "v", "w"]⟩,
    .pod ⟨"p", "n", "w", .host (.v4 ⟨10, 0, 0, 1⟩), [⟨"x", "c", [⟨80, .tcp⟩]⟩]⟩]

/-- A frame of the two objects. -/
def sharedFrame : Json.Bytes := Json.bytesOfText <|
  "[[\"Service\",\"s\",\"n\",\"10.0.0.1\",[[80,8080,\"TCP\"]],[\"w\",\"v\",\"w\"]]," ++
    "[\"Pod\",\"p\",\"n\",\"w\",\x7b\"kind\":\"Host\",\"ip\":\"10.0.0.1\"\x7d," ++
    "[[\"x\",\"c\",[[80,\"TCP\"]]]]]]"

set_option maxRecDepth 1024 in
/-- After a frame of the two, each workload that the service selects serves once. -/
theorem ofObjects_answers_frame :
    Json.decode Object.listReader sharedFrame = .ok sharedObjects ∧
      ∀ ending d, (Session.Feed.run ending d [sharedFrame]).1.workload? "c" = some "w" ∧
        (Session.Feed.run ending d [sharedFrame]).1.lookups ⟨.v4 ⟨10, 0, 0, 1⟩, 80, .tcp⟩ =
          [⟨"w", [8080]⟩, ⟨"v", [8080]⟩] := by
  -- evaluating a text takes equations of byte arrays that only the whole of Mathlib brings in
  have decoded : Json.decode Object.listReader sharedFrame = .ok sharedObjects := by cbv
  obtain ⟨owner, -, served, replaced⟩ := ofObjects_answers sharedObjects
  refine ⟨decoded, fun ending d => ?_⟩
  rw [replaced ending d sharedFrame [] decoded, Session.Feed.run, (served _).1, owner]
  exact ⟨⟨[_], _, [], rfl, by decide, rfl, by simp⟩, by decide⟩

end Directory

end FlowGraph.Entity
