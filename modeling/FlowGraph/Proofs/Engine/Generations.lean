import FlowGraph.Cycle
import FlowGraph.Proofs.Engine.Publication
import Mathlib.Data.List.Induction

/-!
# Cycles that see several generations

The objects of the cluster are loaded while a cycle resolves connections, and every load puts
another directory in the place of the one before. Each question of the cycle is answered by one
directory, but the two questions about a connection may be answered by two of them.
`Asking.published_consulted` says from which two the edges of the published graph come, and that an
edge comes from one alone if nothing is loaded between its questions.
-/

namespace FlowGraph

open Traffic Flows Entity

/-- What happens next: the objects of the cluster are loaded, or the cycle asks a question. -/
inductive Turn where
  | load (objects : List Object)
  | ask

/-- A cycle that asks, and the directory that answers. -/
structure Asking where
  directory : Directory
  cycle : Cycle

namespace Asking

/-- A cycle that has copied all tables and found some connections in them. -/
def begin (d : Directory) (all : List (Connection × Timestamp)) : Asking :=
  ⟨d, .resolving all all .empty⟩

/-- One turn, which is of the directory alone or of the cycle alone. -/
def take (e : Engine) (s : Asking) : Turn → Asking
  | .load objects => { s with directory := .ofObjects objects }
  | .ask => { s with cycle := (s.cycle.step e s.directory.resolver).1 }

/-- What some turns lead to. -/
def run (e : Engine) (s : Asking) (turns : List Turn) : Asking := turns.foldl (take e) s

/-- The edge comes from the two questions about a connection: at one turn the workload of its
container is asked for, and at the next turn at which anything is asked, what may serve its
destination. The directory may have been replaced by loads in between. -/
def Consulted (e : Engine) (s : Asking) (turns : List Turn) (c : Connection) (i : Indicator) :
    Prop :=
  ∃ (before : List Turn) (loads : List (List Object)) (after : List Turn),
    turns = before ++ .ask :: (loads.map .load ++ .ask :: after) ∧
    let first := s.run e before
    let second := s.run e (before ++ .ask :: loads.map .load)
    (∃ all left g ts, first.cycle = .resolving all ((c, ts) :: left) g) ∧
    Derives ⟨first.directory.workload?, second.directory.lookups⟩ c i ∧
    (loads = [] → Derives first.directory.resolver c i)

variable {e : Engine} {s : Asking} {turns : List Turn} {c : Connection} {i : Indicator}

/-- Turns are taken one after the other. -/
lemma run_append (e : Engine) (s : Asking) (xs ys : List Turn) :
    s.run e (xs ++ ys) = (s.run e xs).run e ys := List.foldl_append

/-- The last turn is taken from where the others lead. -/
lemma run_concat (e : Engine) (s : Asking) (turns : List Turn) (t : Turn) :
    s.run e (turns ++ [t]) = (s.run e turns).take e t := by
  rw [run_append]
  rfl

/-- What was consulted stays so, whatever follows. -/
lemma Consulted.append (consulted : Consulted e s turns c i) (more : List Turn) :
    Consulted e s (turns ++ more) c i := by
  obtain ⟨before, loads, after, whole, asked⟩ := consulted
  refine ⟨before, loads, after ++ more, ?_, asked⟩
  rw [whole]
  simp only [List.append_assoc, List.cons_append]

/-- Edges that come from questions about connections do so after more turns, too. -/
lemma exists_consulted_append {all : List (Connection × Timestamp)} {g : Graph}
    (known : ∀ i ∈ g.keys, ∃ c ts, (c, ts) ∈ all ∧ Consulted e s turns c i) (more : List Turn) :
    ∀ i ∈ g.keys, ∃ c ts, (c, ts) ∈ all ∧ Consulted e s (turns ++ more) c i := by
  intro i mem
  obtain ⟨c, ts, listed, consulted⟩ := known i mem
  exact ⟨c, ts, listed, consulted.append more⟩

/-- The edges that a cycle has found come from questions about its connections. If it has asked for
the workload of a container only, that was its last question so far. -/
inductive Accounted (e : Engine) (s : Asking) (all : List (Connection × Timestamp))
    (turns : List Turn) : Cycle → Prop where
  | resolving {left g} : left ⊆ all →
    (∀ i ∈ g.keys, ∃ c ts, (c, ts) ∈ all ∧ Consulted e s turns c i) →
    Accounted e s all turns (.resolving all left g)
  | looking {left g source c ts} {before : List Turn} {loads : List (List Object)} :
    left ⊆ all → (c, ts) ∈ all →
    (∀ i ∈ g.keys, ∃ c ts, (c, ts) ∈ all ∧ Consulted e s turns c i) →
    turns = before ++ .ask :: loads.map .load →
    (s.run e before).cycle = .resolving all ((c, ts) :: left) g →
    (s.run e before).directory.workload? c.container = some source →
    Accounted e s all turns (.looking all left g source (c, ts))

/-- The edges from a workload to what may serve the destination are derived with it as the workload
of the container, wherever that was found. -/
lemma derives_of_mem_indicatorsFrom {owners : String → Option String} {source : String}
    {lookups : Net.Endpoint → List Lookup} (owner : owners c.container = some source)
    (mem : i ∈ indicatorsFrom c source (lookups c.destination)) :
    Derives ⟨owners, lookups⟩ c i := by
  apply mem_indicators_iff.mp
  simp only [indicators, owner]
  exact mem

/-- A load leaves the account of a cycle as it is. -/
lemma Accounted.load {all : List (Connection × Timestamp)} {cycle : Cycle}
    (a : Accounted e s all turns cycle) (objects : List Object) :
    Accounted e s all (turns ++ [.load objects]) cycle := by
  cases a with
  | resolving sub known => exact .resolving sub (exists_consulted_append known _)
  | @looking left g source c ts before loads sub listed known whole asked owner =>
    have whole' : turns ++ [.load objects] =
        before ++ .ask :: (loads ++ [objects]).map .load := by
      rw [whole, List.map_append, List.append_assoc]
      rfl
    exact .looking sub listed (exists_consulted_append known _) whole' asked owner

/-- A question adds the edges that its answer gives to the account of the cycle. -/
lemma Accounted.ask {all : List (Connection × Timestamp)}
    (a : Accounted e s all turns (s.run e turns).cycle) :
    Accounted e s all (turns ++ [.ask]) ((s.run e turns).take e .ask).cycle := by
  show Accounted e s all (turns ++ [.ask])
    ((s.run e turns).cycle.step e (s.run e turns).directory.resolver).1
  generalize now : (s.run e turns).cycle = cycle at a
  cases a with
  | @resolving left g sub known =>
    cases left with
    | nil => exact .resolving sub (exists_consulted_append known _)
    | cons entry left =>
      obtain ⟨c, ts⟩ := entry
      have listed : (c, ts) ∈ all := sub List.mem_cons_self
      have rest : left ⊆ all := List.subset_of_cons_subset sub
      rw [Cycle.step]
      split
      · next source owner =>
        have whole : turns ++ [.ask] = turns ++ .ask :: ([] : List (List Object)).map .load := rfl
        exact .looking rest listed (exists_consulted_append known _) whole now owner
      · exact .resolving rest (exists_consulted_append known _)
  | @looking left g source c ts before loads sub listed known whole asked owner =>
    rw [Cycle.step]
    refine .resolving sub ?_
    intro i mem
    rw [mem_keys_newestAll] at mem
    rcases mem with old | new
    · exact exists_consulted_append known _ i old
    · rw [List.map_map, Function.comp_def, List.map_id'] at new
      refine ⟨c, ts, listed, before, loads, [], ?_, ⟨all, left, g, ts, asked⟩, ?_, ?_⟩
      · rw [whole, List.append_assoc]
        rfl
      · rw [← whole]
        exact derives_of_mem_indicatorsFrom owner new
      · rintro rfl
        -- the directory is still the one that was asked for the workload
        have same : (s.run e turns).directory = (s.run e before).directory := by
          rw [whole, List.map_nil, run_concat]
          rfl
        rw [same] at new
        exact derives_of_mem_indicatorsFrom owner new

/-- Every run of turns keeps the account of the cycle. -/
lemma accounted_run (e : Engine) (d : Directory) (all : List (Connection × Timestamp))
    (turns : List Turn) :
    Accounted e (begin d all) all turns ((begin d all).run e turns).cycle := by
  induction turns using List.reverseRecOn with
  | nil =>
    refine .resolving (List.Subset.refl all) ?_
    intro i mem
    cases mem
  | append_singleton turns t ih =>
    rw [run_concat]
    cases t with
    | load objects => exact ih.load objects
    | ask => exact ih.ask

/-- Every edge that a cycle publishes comes from the two questions about one of its connections: the
directory at the first question has the source as the workload of the container, and the directory
at the second has the other workload at the destination. If nothing is loaded between the two, the
edge is derived from this one directory. -/
theorem published_consulted (e : Engine) (d : Directory) (all : List (Connection × Timestamp))
    (turns : List Turn) {n : Nat} {g : Graph}
    (finished : ((begin d all).run e turns).cycle.result? = some (n, g)) (i : Indicator)
    (published : i ∈ (e.conclude n g).1.published.keys) :
    ∃ c ts, (c, ts) ∈ all ∧ Consulted e (begin d all) turns c i := by
  rw [Engine.published_conclude] at published
  have account := accounted_run e d all turns
  generalize ((begin d all).run e turns).cycle = cycle at account finished
  cases account with
  | @resolving left h sub known =>
    cases left with
    | nil =>
      cases finished
      exact known i published
    | cons entry left => cases finished
  | looking _ _ _ _ _ _ => cases finished

/-- The directory that answers is the first one, or that of a load. -/
lemma directory_run (e : Engine) (s : Asking) (turns : List Turn) :
    (s.run e turns).directory = s.directory ∨
      ∃ objects, .load objects ∈ turns ∧ (s.run e turns).directory = .ofObjects objects := by
  induction turns using List.reverseRecOn with
  | nil => exact .inl rfl
  | append_singleton turns t ih =>
    rw [run_concat]
    cases t with
    | load objects => exact .inr ⟨objects, List.mem_append_right _ List.mem_cons_self, rfl⟩
    | ask =>
      rcases ih with same | ⟨objects, mem, same⟩
      · exact .inl same
      · exact .inr ⟨objects, List.mem_append_left _ mem, same⟩

/-- A pod with the container of a connection. -/
def earlierObjects : List Object :=
  [.pod ⟨"p", "n", "front", .pod (.v4 ⟨10, 0, 1, 1⟩), [⟨"c", "web", []⟩]⟩]

/-- Another pod, which has come to the destination of the connection. -/
def laterObjects : List Object :=
  [.pod ⟨"q", "n", "back", .pod (.v4 ⟨10, 0, 0, 5⟩), [⟨"d", "db", [⟨443, .tcp⟩]⟩]⟩]

/-- The connection about which the questions are asked. -/
def webConnection : Connection := ⟨.v4 ⟨10, 0, 1, 1⟩, "web", ⟨.v4 ⟨10, 0, 0, 5⟩, 443, .tcp⟩⟩

/-- The later objects are loaded between the two questions about the connection. -/
def overtakenTurns : List Turn := [.ask, .load laterObjects, .ask]

/-- A cycle that is about to ask them while the earlier objects answer. -/
def overtaken : Asking := begin (.ofObjects earlierObjects) [(webConnection, .stillOpen)]

/-- An edge from the workload of the earlier objects to that of the later ones. -/
def overtakenEdge : Indicator := ⟨"front", "back", 443, .tcp⟩

/-- The cycle ends with the mixed edge in its graph. -/
lemma result_overtaken : ∃ g, ((overtaken.run (.new ⟨1⟩ none) overtakenTurns).cycle.result? =
    some (1, g)) ∧ overtakenEdge ∈ ((Engine.new ⟨1⟩ none).conclude 1 g).1.published.keys := by
  refine ⟨_, rfl, ?_⟩
  decide

/-- A cycle that is overtaken by a load publishes an edge of which the earlier objects have the
source and the later ones the destination. -/
theorem published_consulted_overtaken :
    ∃ g, (overtaken.run (.new ⟨1⟩ none) overtakenTurns).cycle.result? = some (1, g) ∧
      overtakenEdge ∈ ((Engine.new ⟨1⟩ none).conclude 1 g).1.published.keys ∧
      ∃ c ts, (c, ts) ∈ [(webConnection, Timestamp.stillOpen)] ∧
        Consulted (.new ⟨1⟩ none) overtaken overtakenTurns c overtakenEdge := by
  obtain ⟨g, finished, published⟩ := result_overtaken
  exact ⟨g, finished, published,
    published_consulted _ _ [(webConnection, .stillOpen)] overtakenTurns finished _ published⟩

/-- A published edge may be one that no directory gives which answered at any time of the cycle. -/
theorem exists_edge_of_no_generation :
    ¬ ∀ (e : Engine) (d : Directory) (all : List (Connection × Timestamp)) (turns : List Turn)
      (n : Nat) (g : Graph), ((begin d all).run e turns).cycle.result? = some (n, g) →
      ∀ i ∈ (e.conclude n g).1.published.keys, ∃ c ts, (c, ts) ∈ all ∧
        ∃ before after, turns = before ++ after ∧
          Derives ((begin d all).run e before).directory.resolver c i := by
  intro single
  obtain ⟨g, finished, published⟩ := result_overtaken
  obtain ⟨c, ts, listed, before, after, whole, owner, -, l, served, -⟩ :=
    single _ _ _ overtakenTurns 1 g finished overtakenEdge published
  cases List.mem_singleton.mp listed
  rcases directory_run (.new ⟨1⟩ none) (begin (.ofObjects earlierObjects) _) before
    with same | ⟨objects, loaded, same⟩
  · -- the earlier objects have nothing at the destination
    have nothing : overtaken.directory.resolver.lookups webConnection.destination = [] := by decide
    rw [same, ← overtaken, nothing] at served
    cases served
  · have later : objects = laterObjects := by
      have mem : Turn.load objects ∈ overtakenTurns := whole ▸ List.mem_append_left after loaded
      simpa [overtakenTurns] using mem
    -- the later objects do not have the container
    have missing : (Directory.ofObjects laterObjects).workload? "web" = none := by decide
    rw [same, later] at owner
    cases missing.symm.trans owner

end Asking

end FlowGraph
