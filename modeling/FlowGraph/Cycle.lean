import FlowGraph.Engine

/-!
# Cycles

A cycle of enrichment as the steps it takes, between which others may change the engine and the
directory. It lists the registered tables and copies one after the other. Then it asks for the
workload of one container after the other and, where there is one, for what serves at the
destination. `reaches_whole` says that the steps with no change between them give what
`Engine.enrich` publishes and tells.
-/

namespace FlowGraph

open Traffic Flows Entity Journal

/-- How far a cycle is: it copies tables, or it has copied all of them and resolves the connections
in them, of which one may already have a workload as its source. -/
inductive Cycle where
  | copying (left : List Handle) (copied : List Table)
  | resolving (all left : List (Connection × Timestamp)) (g : Graph)
  | looking (all left : List (Connection × Timestamp)) (g : Graph) (source : String)
    (entry : Connection × Timestamp)

namespace Cycle

/-- A cycle that has listed the tables to copy. -/
def start (e : Engine) : Cycle := .copying e.registry.values []

/-- The next step, and what is told of it. Each step looks at one table, or asks one question. -/
def step (e : Engine) (r : Resolver) : Cycle → Cycle × List Event
  | copying (h :: left) copied => (copying left (copied ++ (e.table? h).toList), [])
  | copying [] copied =>
    let all := (combine copied).entries
    (resolving all all .empty, [])
  | resolving all (entry :: left) g =>
    match r.workload entry.1.container with
    | some source => (looking all left g source entry, [])
    | none => (resolving all left g, [.orphan entry.1])
  | looking all left g source entry =>
    let lookups := r.lookups entry.1.destination
    let found := (indicatorsFrom entry.1 source lookups).map fun i => (i, entry.2)
    (resolving all left (newestAll g found),
      if lookups.isEmpty then [.unresolved entry.1.destination] else [])
  | resolving all [] g => (resolving all [] g, [])

/-- The graph of a cycle that has no step left, with the number of connections it comes from. -/
def result? : Cycle → Option (Nat × Graph)
  | resolving all [] g => some (all.length, g)
  | _ => none

/-- What steps lead to, and what they tell, while nothing else changes. -/
inductive Reaches (e : Engine) (r : Resolver) : Cycle → List Event → Cycle → Prop where
  | refl (c : Cycle) : Reaches e r c [] c
  | step {c d : Cycle} {events : List Event} :
    Reaches e r (c.step e r).1 events d → Reaches e r c ((c.step e r).2 ++ events) d

variable {e : Engine} {r : Resolver}

/-- A step and what follows it. -/
theorem Reaches.of_step {c next d : Cycle} {told events : List Event}
    (taken : c.step e r = (next, told)) (rest : Reaches e r next events d) :
    Reaches e r c (told ++ events) d := by
  have first : (c.step e r).1 = next := congrArg Prod.fst taken
  have second : (c.step e r).2 = told := congrArg Prod.snd taken
  exact second ▸ Reaches.step (first ▸ rest)

/-- Steps after steps tell one after the other. -/
theorem Reaches.trans {a b c : Cycle} {xs ys : List Event} (first : Reaches e r a xs b)
    (second : Reaches e r b ys c) : Reaches e r a (xs ++ ys) c := by
  induction first with
  | refl => exact second
  | step _ ih => simpa only [List.append_assoc] using (ih second).step

/-- The tables that are left to copy are those under their handles. -/
theorem reaches_copied (left : List Handle) (copied : List Table) :
    Reaches e r (copying left copied) [] (copying [] (copied ++ left.filterMap e.table?)) := by
  induction left generalizing copied with
  | nil => simpa using Reaches.refl (copying [] copied)
  | cons h left ih =>
    have next : Reaches e r (copying (h :: left) copied) [] _ := .of_step rfl (ih _)
    have together : (e.table? h).toList ++ left.filterMap e.table? =
        (h :: left).filterMap e.table? := by
      cases found : e.table? h <;> simp [found]
    rwa [List.append_assoc, together] at next

/-- Resolving takes what each connection that is left contributes into the graph. -/
theorem reaches_resolved (all left : List (Connection × Timestamp)) (g : Graph) :
    Reaches e r (resolving all left g) (graphRemarks r left)
      (resolving all [] (left.foldl (fun g entry => newestAll g (contributions r entry)) g)) := by
  induction left generalizing g with
  | nil => exact .refl _
  | cons entry left ih =>
    have rest := ih (newestAll g (contributions r entry))
    cases owner : r.workload entry.1.container with
    | none =>
      have asked : (resolving all (entry :: left) g).step e r =
          (resolving all left g, [.orphan entry.1]) := by
        rw [step, owner]
      have gives : contributions r entry = [] := by
        rw [contributions, indicators, owner, List.map_nil]
      have tells : connectionRemarks r entry.1 = [.orphan entry.1] := by
        rw [connectionRemarks, owner]
      rw [gives] at rest
      rw [graphRemarks, List.flatMap_cons, tells, List.foldl_cons, gives]
      exact .of_step asked rest
    | some source =>
      have asked : (resolving all (entry :: left) g).step e r =
          (looking all left g source entry, []) := by
        rw [step, owner]
      have gives : contributions r entry = (indicatorsFrom entry.1 source
          (r.lookups entry.1.destination)).map fun i => (i, entry.2) := by
        rw [contributions, indicators, owner]
      have tells : connectionRemarks r entry.1 =
          if (r.lookups entry.1.destination).isEmpty then [.unresolved entry.1.destination]
          else [] := by
        rw [connectionRemarks, owner]
      have looked := Reaches.of_step (c := looking all left g source entry) rfl (gives ▸ rest)
      have whole := Reaches.of_step asked looked
      rw [graphRemarks, List.flatMap_cons, tells, List.foldl_cons, gives]
      exact whole

/-- The steps of a cycle with nothing between them give the graph of the snapshot, and tell what
there is to tell of its connections. -/
theorem reaches_whole (e : Engine) (r : Resolver) :
    Reaches e r (start e) (graphRemarks r e.snapshot.entries)
      (resolving e.snapshot.entries [] (graphOf r e.snapshot.entries)) :=
  (reaches_copied _ []).trans (.of_step rfl (reaches_resolved _ _ _))

end Cycle

end FlowGraph
