import FlowGraph.Journal.Sink
import FlowGraph.Proofs.Keyed
import Mathlib.Data.List.Induction
import Mathlib.Data.List.Nodup
import Mathlib.Data.List.Perm.Basic
import Mathlib.Data.Prod.Lex
import Mathlib.Data.String.Basic
import Mathlib.Order.Lex

/-!
# What the sink tells

Edges are linearly ordered (`Indicator.lt_iff_key`), and the edges of a graph are distinct, so that
there is one way to list the flows of a graph in increasing order, and it does not show how the
graph came about (`Sink.eq_sorted`). The sink lists them if it was asked to since the last
publication, and not otherwise, in every sequence of calls (`Sink.run_publish`).
-/

namespace FlowGraph

open Net Flows

/-! ### The order of edges -/

namespace Net.Protocol

/-- The protocols with names come in their order, and after them the others by their numbers. -/
lemma rank_lt_rank : icmp.rank < tcp.rank ∧ tcp.rank < udp.rank ∧
    (∀ n, udp.rank < (other n).rank) ∧
    ∀ m n, (other m).rank < (other n).rank ↔ m < n := by
  refine ⟨by decide, by decide, fun n => ?_, fun m n => ?_⟩
  · rw [rank, rank]
    omega
  · rw [rank, rank, UInt16.lt_iff_toNat_lt]
    omega

/-- No two protocols have the same rank. -/
lemma rank_injective : Function.Injective rank := by
  intro p q same
  cases p with
  | other m =>
    cases q with
    | other n =>
      have equal : m.toNat = n.toNat := by
        simp only [rank] at same
        omega
      rw [UInt16.toNat_inj.mp equal]
    | _ =>
      simp only [rank] at same
      omega
  | _ =>
    cases q with
    | other n =>
      simp only [rank] at same
      omega
    | _ => first | rfl | cases same

end Net.Protocol

namespace Flows.Indicator

/-- The four parts by which edges are compared. -/
def key (i : Indicator) : String ×ₗ String ×ₗ Nat ×ₗ Nat :=
  toLex (i.source, toLex (i.destination, toLex (i.port.toNat, i.protocol.rank)))

/-- Edges are told apart by their four parts. -/
lemma key_injective : Function.Injective key := by
  intro a b same
  obtain ⟨source, destination, port, protocol⟩ := a
  obtain ⟨source', destination', port', protocol'⟩ := b
  simp only [key, EmbeddingLike.apply_eq_iff_eq, Prod.mk.injEq, UInt16.toNat_inj,
    Protocol.rank_injective.eq_iff] at same
  obtain ⟨rfl, rfl, rfl, rfl⟩ := same
  rfl

/-- One edge comes before another if its parts do, from the source on. -/
lemma lt_iff_key {a b : Indicator} : a < b ↔ a.key < b.key := by
  simp only [key, Prod.Lex.toLex_lt_toLex, ← UInt16.lt_iff_toNat_lt, UInt16.toNat_inj]
  rfl

/-- An edge does not come after another if its parts do not. -/
lemma le_iff_key {a b : Indicator} : a ≤ b ↔ a.key ≤ b.key := by
  rw [← not_lt, ← lt_iff_key]
  rfl

instance : LinearOrder Indicator where
  le_refl a := le_iff_key.mpr (le_refl a.key)
  le_trans a b c ab bc := le_iff_key.mpr ((le_iff_key.mp ab).trans (le_iff_key.mp bc))
  lt_iff_le_not_ge a b := by
    rw [lt_iff_key, le_iff_key, le_iff_key]
    exact lt_iff_le_not_ge
  le_antisymm a b ab ba := key_injective (le_antisymm (le_iff_key.mp ab) (le_iff_key.mp ba))
  le_total a b := by
    rw [le_iff_key, le_iff_key]
    exact le_total a.key b.key
  toDecidableLE := inferInstance

end Flows.Indicator

namespace Journal.Sink

/-! ### The flows of a graph in their order -/

/-- Sorting drops no flow and adds none. -/
lemma sorted_perm (g : Graph) : (sorted g).Perm g.entries := List.mergeSort_perm _ _

/-- The flows are told in strictly increasing order of their edges. -/
lemma sorted_increasing (g : Graph) : (sorted g).Pairwise fun a b => a.1 < b.1 := by
  have ordered : (sorted g).Pairwise fun a b => decide (a.1 ≤ b.1) := by
    apply List.pairwise_mergeSort
    · intro a b c ab bc
      rw [decide_eq_true_iff] at ab bc ⊢
      exact ab.trans bc
    · intro a b
      rw [Bool.or_eq_true, decide_eq_true_iff, decide_eq_true_iff]
      exact le_total a.1 b.1
  -- no edge has two flows
  have distinct : (sorted g).Pairwise fun a b => a.1 ≠ b.1 := by
    rw [← List.pairwise_map, ← List.Nodup, ((sorted_perm g).map Prod.fst).nodup_iff]
    exact g.distinct
  refine (ordered.and distinct).imp fun ⟨le, ne⟩ => ?_
  exact lt_of_le_of_ne (of_decide_eq_true le) ne

/-- There is but one increasing list of the flows. -/
lemma eq_sorted {g : Graph} {flows : List (Indicator × Timestamp)} (perm : flows.Perm g.entries)
    (increasing : flows.Pairwise fun a b => a.1 < b.1) : flows = sorted g := by
  apply List.Perm.eq_of_pairwise _ increasing (sorted_increasing g)
    (perm.trans (sorted_perm g).symm)
  intro a b _ _ ab ba
  exact absurd ba ab.asymm

/-- Every flow is told once, with its own evidence. -/
lemma count_sorted (g : Graph) (i : Indicator) (ts : Timestamp) :
    (sorted g).count (i, ts) = if g.get? i = some ts then 1 else 0 := by
  rw [(sorted_perm g).count_eq]
  split
  · next found => exact List.count_eq_one_of_mem g.nodup_entries (Keyed.mem_entries_iff.mpr found)
  · next absent => exact List.count_eq_zero.mpr fun mem => absent (Keyed.mem_entries_iff.mp mem)

/-- Graphs that are equal as maps are told in the same way. -/
lemma publish_congr (s : Sink) {g h : Graph} (same : ∀ i, g.get? i = h.get? i) :
    s.publish g = s.publish h := by
  have perm := Keyed.entries_perm same
  have flows : sorted g = sorted h := eq_sorted ((sorted_perm g).trans perm) (sorted_increasing g)
  have size : g.size = h.size := perm.length_eq
  have opened : openCount g = openCount h := (perm.map Prod.snd).countP_eq _
  rw [publish, publish, size, opened, stateEvents, stateEvents, flows]

/-! ### Sequences of calls -/

/-- What is called of a sink. -/
inductive Call where
  | ask
  | publish (g : Graph)

/-- The sink after a call, and what it tells. -/
def call (s : Sink) : Call → Sink × List Event
  | .ask => (s.ask, [])
  | .publish g => s.publish g

/-- The sink after some calls, and all that it tells. -/
def run (s : Sink) : List Call → Sink × List Event
  | [] => (s, [])
  | c :: rest => (((s.call c).1.run rest).1, (s.call c).2 ++ ((s.call c).1.run rest).2)

/-- The sink was asked for the whole state, and nothing was published since. -/
def Pending (calls : List Call) : Prop :=
  ∃ before after, calls = before ++ .ask :: after ∧ ∀ g, .publish g ∉ after

/-- What is told in two parts of a run is told one after the other. -/
lemma run_append (s : Sink) (xs ys : List Call) :
    s.run (xs ++ ys) = (((s.run xs).1.run ys).1, (s.run xs).2 ++ ((s.run xs).1.run ys).2) := by
  induction xs generalizing s with
  | nil => rfl
  | cons c rest ih => rw [List.cons_append, run, ih, run, List.append_assoc]

/-- Nothing was asked for before the first call. -/
lemma not_pending_nil : ¬ Pending [] := by
  rintro ⟨before, after, whole, -⟩
  exact List.append_ne_nil_of_right_ne_nil before (List.cons_ne_nil _ _) whole.symm

/-- The first of some calls counts if it asks and all others do not publish. -/
lemma pending_cons {c : Call} {calls : List Call} :
    Pending (c :: calls) ↔ Pending calls ∨ c = .ask ∧ ∀ g, .publish g ∉ calls := by
  constructor
  · rintro ⟨before, after, whole, quiet⟩
    cases before with
    | nil =>
      cases whole
      exact .inr ⟨rfl, quiet⟩
    | cons first before =>
      cases whole
      exact .inl ⟨before, after, rfl, quiet⟩
  · rintro (⟨before, after, rfl, quiet⟩ | ⟨rfl, quiet⟩)
    · exact ⟨c :: before, after, rfl, quiet⟩
    · exact ⟨[], calls, rfl, quiet⟩

/-- The sink is asked after some calls if the state is pending, or if it was asked before them and
nothing is published. -/
lemma asked_run {s : Sink} {calls : List Call} :
    (s.run calls).1.asked = true ↔ Pending calls ∨ s.asked = true ∧ ∀ g, .publish g ∉ calls := by
  induction calls generalizing s with
  | nil => simp [run, not_pending_nil]
  | cons c rest ih =>
    rw [run, ih, pending_cons, or_assoc]
    apply or_congr_right
    cases c with
    | ask => simp +contextual [call, ask]
    | publish g =>
      have published : ¬ ∀ h, Call.publish h ∉ Call.publish g :: rest :=
        fun quiet => quiet g List.mem_cons_self
      simp only [call, publish, published, Bool.false_eq_true, reduceCtorEq, false_and, and_false,
        or_self]

/-- The number of open flows is the number of edges with open evidence. -/
lemma openCount_eq (g : Graph) :
    openCount g = g.keys.countP fun i => g.get? i = some .stillOpen := by
  rw [openCount, Keyed.values, Keyed.keys, List.countP_map, List.countP_map]
  apply List.countP_congr
  rintro ⟨i, ts⟩ mem
  have found := Keyed.mem_entries_iff.mp mem
  cases ts with
  | closed t => simp [found, Timestamp.isOpen]
  | stillOpen => simp [found, Timestamp.isOpen]

/-- In every sequence of calls, a publication tells how many flows the graph has and how many of
them are open, and the flows themselves if and only if the sink was asked since the last
publication. Then each flow is told once and with its own evidence, in strictly increasing order of
the edges, and nothing of this depends on how the graph came about. After it the sink goes on as a
new one. -/
theorem run_publish (before after : List Call) (g : Graph) :
    let told := (new.run (before ++ .publish g :: after)).2
    let summary := Event.published g.keys.length (g.keys.countP fun i => g.get? i = some .stillOpen)
    let flows := (sorted g).map fun f => Event.flow f.1 f.2
    (Pending before →
      told = (new.run before).2 ++ (summary :: .state :: flows ++ (new.run after).2)) ∧
    (¬ Pending before → told = (new.run before).2 ++ (summary :: (new.run after).2)) ∧
    (∀ i ts, (sorted g).count (i, ts) = if g.get? i = some ts then 1 else 0) ∧
    ((sorted g).Pairwise fun a b => a.1 < b.1) ∧
    (Protocol.icmp.rank < Protocol.tcp.rank ∧ Protocol.tcp.rank < Protocol.udp.rank ∧
      (∀ n, Protocol.udp.rank < (Protocol.other n).rank) ∧
      ∀ m n, (Protocol.other m).rank < (Protocol.other n).rank ↔ m < n) ∧
    ∀ (s : Sink) (h : Graph), (∀ i, h.get? i = g.get? i) → s.publish h = s.publish g := by
  intro told summary flows
  have pending : (new.run before).1.asked = true ↔ Pending before := by simp [asked_run, new]
  have whole : told = (new.run before).2 ++ (summary ::
      (if (new.run before).1.asked then stateEvents g else []) ++ (new.run after).2) := by
    have size : g.size = g.keys.length := (List.length_map _).symm
    have events : told = (new.run before).2 ++ (((new.run before).1.publish g).2 ++
      (new.run after).2) := congrArg Prod.snd (run_append new before (.publish g :: after))
    rw [events, publish, size, openCount_eq]
  refine ⟨fun asked => ?_, fun unasked => ?_, count_sorted g, sorted_increasing g,
    Protocol.rank_lt_rank, fun s h same => publish_congr s same⟩
  · rw [whole, if_pos (pending.mpr asked)]
    rfl
  · rw [whole, if_neg (pending.not.mpr unasked)]
    rfl

/-- A graph of two flows, of which the second one has the lesser edge. -/
def twoFlows : Graph :=
  .ofList [(⟨"b", "a", 443, .other 6⟩, .stillOpen), (⟨"b", "a", 443, .udp⟩, .closed .zero)]

/-- A sink that is asked twice tells the state with the next publication, and not again. -/
theorem run_publish_twice :
    Pending [.ask, .ask] ∧ ¬ Pending [.ask, .ask, .publish twoFlows] ∧
    (new.run [.ask, .ask, .publish twoFlows]).2 =
      [.published 2 1, .state, .flow ⟨"b", "a", 443, .udp⟩ (.closed .zero),
        .flow ⟨"b", "a", 443, .other 6⟩ .stillOpen] ∧
    (new.run [.ask, .ask, .publish twoFlows, .publish twoFlows]).2 =
      (new.run [.ask, .ask, .publish twoFlows]).2 ++ [.published 2 1] := by
  have asked : Pending [.ask, .ask] := ⟨[.ask], [], rfl, nofun⟩
  have answered : ¬ Pending [.ask, .ask, .publish twoFlows] := by
    simp [pending_cons, not_pending_nil]
  have inOrder : [(⟨"b", "a", 443, .udp⟩, .closed .zero), (⟨"b", "a", 443, .other 6⟩, .stillOpen)] =
      sorted twoFlows := eq_sorted (by decide) (by decide)
  refine ⟨asked, answered, ?_, ?_⟩
  · have told := (run_publish [.ask, .ask] [] twoFlows).1 asked
    rw [← inOrder] at told
    exact told
  · exact (run_publish [.ask, .ask, .publish twoFlows] [] twoFlows).2.1 answered

end Journal.Sink

end FlowGraph
