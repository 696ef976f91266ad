import FlowGraph.Entity.Directory
import Mathlib.Data.List.Induction
import Mathlib.Data.List.Nodup
import Mathlib.Tactic.Lemma

/-!
# Grouping

Lookups are built by adding one port of one workload at a time, in place (`addLookup`). What comes
out in the end is said by `grouped` without any order of work: one lookup for each workload, in the
order in which the workloads first come, with the ports of the workload in the order in which they
first come. `addAll_eq_grouped` says that the two are the same.
-/

namespace FlowGraph

section

variable {α : Type} [DecidableEq α]

/-- One more element at the end is dropped if it was there before. -/
lemma eraseDups_concat (as : List α) (a : α) :
    (as ++ [a]).eraseDups = if a ∈ as then as.eraseDups else as.eraseDups ++ [a] := by
  rw [List.eraseDups_append]
  by_cases there : a ∈ as
  · simp [List.removeAll, there]
  · simp [List.removeAll, there, List.eraseDups_cons]

/-- Without its repetitions a list has each element once. -/
lemma nodup_eraseDups (as : List α) : as.eraseDups.Nodup := by
  induction as using List.reverseRecOn with
  | nil => exact .nil
  | append_singleton as a ih =>
    rw [eraseDups_concat]
    split
    · exact ih
    · next fresh =>
      apply ih.append (List.nodup_singleton a)
      rw [List.disjoint_singleton, List.mem_eraseDups]
      exact fresh

/-- Without its repetitions a list still has elements if it had any. -/
lemma eraseDups_eq_nil_iff {as : List α} : as.eraseDups = [] ↔ as = [] := by
  rw [List.eq_nil_iff_forall_not_mem, List.eq_nil_iff_forall_not_mem]
  simp only [List.mem_eraseDups]

end

namespace Entity

/-- A workload that may serve an endpoint, and one of its ports there. -/
abbrev Serving := String × UInt16

/-- The ports that servings have for a workload, in the order in which they first come. -/
def portsOf (workload : String) (servings : List Serving) : List UInt16 :=
  ((servings.filter (·.1 = workload)).map Prod.snd).eraseDups

/-- One lookup for each workload, in the order in which the workloads first come. -/
def grouped (servings : List Serving) : List Lookup :=
  (servings.map Prod.fst).eraseDups.map fun w => ⟨w, portsOf w servings⟩

/-- The lookups with more servings added, one after the other. -/
def addAll (lookups : List Lookup) (servings : List Serving) : List Lookup :=
  servings.foldl (fun ls s => addLookup s.1 s.2 ls) lookups

/-- Servings are added one after the other. -/
lemma addAll_append (ls : List Lookup) (xs ys : List Serving) :
    addAll ls (xs ++ ys) = addAll (addAll ls xs) ys :=
  List.foldl_append

/-! ### Adding one serving -/

/-- A new workload comes at the end. -/
lemma addLookup_of_new {w : String} {ls : List Lookup} (fresh : w ∉ ls.map Lookup.workload)
    (p : UInt16) : addLookup w p ls = ls ++ [⟨w, [p]⟩] := by
  induction ls with
  | nil => rfl
  | cons l rest ih =>
    rw [List.map_cons, List.mem_cons, not_or] at fresh
    obtain ⟨differs, fresh⟩ := fresh
    rw [addLookup, if_neg (Ne.symm differs), ih fresh, List.cons_append]

/-- A known workload keeps its place, and its ports take the new one. -/
lemma addLookup_of_known {w : String} {ws : List String} (distinct : ws.Nodup) (known : w ∈ ws)
    (ports : String → List UInt16) (p : UInt16) :
    addLookup w p (ws.map fun v => ⟨v, ports v⟩) =
      ws.map fun v =>
        ⟨v, if v = w ∧ p ∉ ports w then ports w ++ [p] else ports v⟩ := by
  induction ws with
  | nil => cases known
  | cons v rest ih =>
    rw [List.nodup_cons] at distinct
    obtain ⟨fresh, distinct⟩ := distinct
    rw [List.map_cons, List.map_cons, addLookup]
    by_cases same : v = w
    · subst same
      -- the workload is not among the others, which therefore stay
      have others : (rest.map fun u => (⟨u, if u = v ∧ p ∉ ports v then ports v ++ [p]
          else ports u⟩ : Lookup)) = rest.map fun u => ⟨u, ports u⟩ := by
        apply List.map_congr_left
        intro u mem
        have differs : u ≠ v := by
          rintro rfl
          exact fresh mem
        simp [differs]
      rw [others]
      by_cases there : p ∈ ports v
      · simp [there]
      · simp [there]
    · have known : w ∈ rest := (List.mem_cons.mp known).resolve_left (Ne.symm same)
      simp [same, ih distinct known]

/-- A new port of the workload comes at the end of its ports, and no other ports change. -/
lemma portsOf_concat (w : String) (xs : List Serving) (v : String) (p : UInt16) :
    portsOf v (xs ++ [(w, p)]) =
      if v = w ∧ p ∉ portsOf w xs then portsOf w xs ++ [p] else portsOf v xs := by
  rw [portsOf, portsOf, portsOf, List.filter_append, List.map_append]
  by_cases same : v = w
  · subst same
    have one : [(v, p)].filter (·.1 = v) = [(v, p)] := by simp
    rw [one, List.map_singleton, eraseDups_concat]
    by_cases there : p ∈ (xs.filter (·.1 = v)).map Prod.snd
    · rw [if_pos there, if_neg (fun c => c.2 (List.mem_eraseDups.mpr there))]
    · rw [if_neg there, if_pos ⟨rfl, fun c => there (List.mem_eraseDups.mp c)⟩]
  · have other : [(w, p)].filter (·.1 = v) = [] := by simp [Ne.symm same]
    rw [other, List.map_nil, List.append_nil, if_neg (fun c => same c.1)]

/-- A workload that does not come has no ports. -/
lemma portsOf_of_new {w : String} {xs : List Serving} (fresh : w ∉ xs.map Prod.fst) :
    portsOf w xs = [] := by
  have absent : xs.filter (·.1 = w) = [] := by
    rw [List.filter_eq_nil_iff]
    intro s mem same
    have there : s.1 ∈ xs.map Prod.fst := List.mem_map_of_mem mem
    exact fresh (of_decide_eq_true same ▸ there)
  rw [portsOf, absent, List.map_nil, List.eraseDups_nil]

/-- Grouping one more serving is adding it to the groups. -/
lemma grouped_concat (xs : List Serving) (w : String) (p : UInt16) :
    grouped (xs ++ [(w, p)]) = addLookup w p (grouped xs) := by
  rw [grouped, grouped, List.map_append, List.map_singleton, eraseDups_concat]
  simp only [portsOf_concat]
  by_cases known : w ∈ xs.map Prod.fst
  · rw [if_pos known,
      addLookup_of_known (nodup_eraseDups _) (List.mem_eraseDups.mpr known) (portsOf · xs)]
  · have fresh : w ∉ (grouped xs).map Lookup.workload := by
      simpa [grouped] using known
    rw [if_neg known, ← grouped, addLookup_of_new fresh, List.map_append, grouped]
    -- the others keep their ports, and the new workload has had none
    congr 1
    · apply List.map_congr_left
      intro v mem
      have differs : v ≠ w := by
        rintro rfl
        exact known (List.mem_eraseDups.mp mem)
      simp [differs]
    · simp [portsOf_of_new known]

/-- Servings added one after the other are grouped. -/
theorem addAll_eq_grouped (xs : List Serving) : addAll [] xs = grouped xs := by
  induction xs using List.reverseRecOn with
  | nil => rfl
  | append_singleton xs s ih =>
    obtain ⟨w, p⟩ := s
    rw [addAll_append, ih, grouped_concat]
    rfl

/-! ### What groups are -/

/-- The workloads of the groups are distinct. -/
lemma nodup_grouped (xs : List Serving) : ((grouped xs).map Lookup.workload).Nodup := by
  have workloads : (grouped xs).map Lookup.workload = (xs.map Prod.fst).eraseDups := by
    rw [grouped, List.map_map]
    exact List.map_id _
  rw [workloads]
  exact nodup_eraseDups _

/-- The ports of a group are distinct. -/
lemma nodup_ports_of_grouped {xs : List Serving} {l : Lookup} (mem : l ∈ grouped xs) :
    l.ports.Nodup := by
  rw [grouped, List.mem_map] at mem
  obtain ⟨w, -, rfl⟩ := mem
  exact nodup_eraseDups _

/-- No group is without ports. -/
lemma ports_ne_nil_of_grouped {xs : List Serving} {l : Lookup} (mem : l ∈ grouped xs) :
    l.ports ≠ [] := by
  rw [grouped, List.mem_map] at mem
  obtain ⟨w, comes, rfl⟩ := mem
  rw [List.mem_eraseDups, List.mem_map] at comes
  obtain ⟨s, there, rfl⟩ := comes
  have port : s.2 ∈ portsOf s.1 xs := by
    rw [portsOf, List.mem_eraseDups]
    exact List.mem_map_of_mem (List.mem_filter.mpr ⟨there, by simp⟩)
  exact List.ne_nil_of_mem port

/-- The groups have the ports of each workload, and nothing else. -/
lemma exists_mem_grouped_iff {xs : List Serving} {w : String} {p : UInt16} :
    (∃ l ∈ grouped xs, l.workload = w ∧ p ∈ l.ports) ↔ (w, p) ∈ xs := by
  have port_iff : p ∈ portsOf w xs ↔ (w, p) ∈ xs := by
    rw [portsOf, List.mem_eraseDups, List.mem_map]
    constructor
    · rintro ⟨⟨v, q⟩, kept, rfl⟩
      obtain ⟨there, same⟩ := List.mem_filter.mp kept
      exact of_decide_eq_true same ▸ there
    · intro there
      exact ⟨(w, p), List.mem_filter.mpr ⟨there, by simp⟩, rfl⟩
  rw [← port_iff, grouped]
  constructor
  · rintro ⟨l, mem, rfl, port⟩
    obtain ⟨v, -, rfl⟩ := List.mem_map.mp mem
    exact port
  · intro port
    have comes : w ∈ (xs.map Prod.fst).eraseDups :=
      List.mem_eraseDups.mpr (List.mem_map_of_mem (f := Prod.fst) (port_iff.mp port))
    exact ⟨_, List.mem_map_of_mem comes, rfl, port⟩

/-- There are no groups only if there are no servings. -/
lemma grouped_eq_nil_iff {xs : List Serving} : grouped xs = [] ↔ xs = [] := by
  rw [grouped, List.map_eq_nil_iff, eraseDups_eq_nil_iff, List.map_eq_nil_iff]

end Entity

end FlowGraph
