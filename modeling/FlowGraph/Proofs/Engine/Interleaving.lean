import FlowGraph.Cycle
import FlowGraph.Proofs.Engine.Registry
import Mathlib.Data.List.Forall2
import Mathlib.Data.List.Induction
import Mathlib.Logic.Relation

/-!
# Streams and cycles at the same time

Collectors with names of their own send batches while cycles copy the tables, each step on one table
at a time and in whatever order (`Step`). What a name has for a table is at every moment what its
stream alone leads to (`Agrees`), and a cycle has copied, of each table that it listed, the state
after some prefix of its stream (`Tracked`). Every step keeps both, and `steps_alone` reads off them
what the tables are in the end and what a cycle works on.
-/

namespace FlowGraph

open Traffic Flows Entity

/-- A batch of a stream, with its time and whether it is marked as the first one. -/
structure Report where
  batch : Batch
  now : Micros
  first : Bool

/-- What a collector does: it registers at a time, and then it has its batches merged in order. -/
structure Stream where
  registered : Micros
  reports : List Report

/-- The engine after a stream alone has registered its name and had its first batches merged. -/
def Stream.alone (s : Stream) (name : String) (n : Nat) (e : Engine) : Engine :=
  (s.reports.take n).foldl
    (fun f p => f.process (e.register name s.registered).2.1 p.batch p.now p.first)
    (e.register name s.registered).1

/-- How far a stream is: its name is not entered, or the sign of life is to come, or it reports and
had so many batches merged. -/
inductive Progress where
  | waiting
  | entered (h : Handle)
  | reporting (h : Handle) (merged : Nat)

/-- How many batches were merged. -/
def Progress.merged : Progress → Nat
  | waiting | entered _ => 0
  | reporting _ n => n

/-- A cycle, with the names that it listed and how many batches of each stream were merged before it
began. -/
structure Watched where
  names : List String
  began : String → Nat
  cycle : Cycle

/-- The engine, the streams at their places, and the cycles under way. -/
structure World where
  engine : Engine
  progress : String → Progress
  cycles : List Watched

namespace World

/-- No stream has begun, and no cycle. -/
def start (e : Engine) : World := ⟨e, fun _ => .waiting, []⟩

/-- How many batches of each stream were merged. -/
def merged (w : World) (name : String) : Nat := (w.progress name).merged

end World

/-- The steps of a stream: its name is entered, its table is touched, a batch is merged. -/
inductive Advance (name : String) (s : Stream) : Engine → Progress → Engine → Progress → Prop where
  | enter {f} :
    Advance name s f .waiting (f.enroll name s.registered).1
      (.entered (f.enroll name s.registered).2)
  | touch {f h} : Advance name s f (.entered h) (f.touch h s.registered) (.reporting h 0)
  | merge {f h n p} : s.reports[n]? = some p →
    Advance name s f (.reporting h n) (f.process h p.batch p.now p.first) (.reporting h (n + 1))

/-- The steps of everything there is: of a stream, the beginning of a cycle, which lists the tables,
a step of a cycle, which looks at one table or asks one question, and the end of a cycle. -/
inductive Step (plan : String → Option Stream) : World → World → Prop where
  | stream {w name s p f q} : plan name = some s → w.progress name = p →
    Advance name s w.engine p f q →
    Step plan w { w with engine := f, progress := Function.update w.progress name q }
  | begin {w} :
    Step plan w { w with cycles := ⟨w.engine.names, w.merged, .start w.engine⟩ :: w.cycles }
  | cycle {w x} (xs ys) (r : Resolver) : w.cycles = xs ++ x :: ys →
    Step plan w { w with
      cycles := xs ++ { x with cycle := (x.cycle.step w.engine r).1 } :: ys }
  | publish {w x n g} (xs ys) : w.cycles = xs ++ x :: ys → x.cycle.result? = some (n, g) →
    Step plan w { w with engine := (w.engine.conclude n g).1, cycles := xs ++ ys }

/-- The table of a name after so many batches of its stream alone; a name without a stream keeps
what it has. -/
def produced (plan : String → Option Stream) (e : Engine) (name : String) (n : Nat) :
    Option Table :=
  match plan name with
  | some s => (s.alone name n e).named name
  | none => e.named name

/-- A name with a stream has what the stream alone leads to. -/
lemma produced_of_planned {plan : String → Option Stream} {name : String} {s : Stream}
    (planned : plan name = some s) (e : Engine) (n : Nat) :
    produced plan e name n = (s.alone name n e).named name := by
  rw [produced, planned]

/-- A name without a stream has what it had. -/
lemma produced_of_unplanned {plan : String → Option Stream} {name : String}
    (unplanned : plan name = none) (e : Engine) (n : Nat) :
    produced plan e name n = e.named name := by
  rw [produced, unplanned]

/-- The connections that a cycle works on, once it has copied all tables. -/
def Cycle.snapshot? : Cycle → Option (List (Connection × Timestamp))
  | copying _ _ => none
  | resolving all _ _ | looking all _ _ _ _ => some all

namespace Stream

variable {e : Engine} {name : String} {s : Stream} {n : Nat}

/-- A stream alone keeps the registrations that it made. -/
lemma registry_alone :
    (s.alone name n e).registry = (e.enroll name s.registered).1.registry := by
  rw [alone]
  generalize s.reports.take n = reports
  induction reports using List.reverseRecOn with
  | nil => rw [List.foldl_nil, Engine.register_eq_touch, Engine.touch, Engine.registry_update]
  | append_singleton ps p ih =>
    rw [List.foldl_append, List.foldl_cons, List.foldl_nil, Engine.process,
      Engine.registry_update, ih]

/-- A stream alone keeps the engine sound. -/
lemma sound_alone (sound : e.Sound) : (s.alone name n e).Sound := by
  rw [alone]
  generalize s.reports.take n = reports
  induction reports using List.reverseRecOn with
  | nil => exact sound.register name s.registered
  | append_singleton ps p ih =>
    rw [List.foldl_append, List.foldl_cons, List.foldl_nil]
    exact ih.update _ _

/-- A stream that has registered has touched its table. -/
lemma named_alone_zero (sound : e.Sound) :
    (s.alone name 0 e).named name =
      ((e.enroll name s.registered).1.named name).map (·.touch s.registered) := by
  have found := Engine.registry_enroll e name s.registered name
  rw [if_pos rfl] at found
  rw [alone, List.take_zero, List.foldl_nil, Engine.register_eq_touch, Engine.touch,
    Engine.named_update (sound.enroll name s.registered) found, if_pos rfl]

/-- One more batch of a stream is merged into its table. -/
lemma named_alone_succ (sound : e.Sound) {p : Report} (next : s.reports[n]? = some p) :
    (s.alone name (n + 1) e).named name =
      ((s.alone name n e).named name).map (·.merge p.batch p.now p.first) := by
  have found := Engine.registry_enroll e name s.registered name
  rw [if_pos rfl, ← Engine.handle_register, ← registry_alone (n := n)] at found
  have further : s.alone name (n + 1) e = (s.alone name n e).process
      (e.register name s.registered).2.1 p.batch p.now p.first := by
    rw [alone, List.take_add_one, next, List.foldl_append, ← alone]
    rfl
  rw [further, Engine.process, Engine.named_update (sound_alone sound) found, if_pos rfl]

end Stream

/-- What a name has at a place of its stream: the registered handle, and the table that the stream
alone leads to. -/
inductive Agrees (plan : String → Option Stream) (e f : Engine) (name : String) :
    Progress → Prop where
  | waiting : f.named name = e.named name → Agrees plan e f name .waiting
  | entered {s h} : plan name = some s → f.registry.get? name = some h →
    f.named name = (e.enroll name s.registered).1.named name →
    Agrees plan e f name (.entered h)
  | reporting {s h n} : plan name = some s → f.registry.get? name = some h →
    f.named name = (s.alone name n e).named name →
    Agrees plan e f name (.reporting h n)

namespace Agrees

variable {plan : String → Option Stream} {e f g : Engine} {name : String} {p : Progress}

/-- What is not seen under a name does not matter to it. -/
lemma frame (a : Agrees plan e f name p) (table : g.named name = f.named name)
    (registry : g.registry.get? name = f.registry.get? name) : Agrees plan e g name p := by
  cases a with
  | waiting same => exact .waiting (table.trans same)
  | entered planned found same =>
    exact .entered planned (registry.trans found) (table.trans same)
  | reporting planned found same =>
    exact .reporting planned (registry.trans found) (table.trans same)

/-- The connections under a name are those that its stream alone leads to. -/
lemma exists_produced (a : Agrees plan e f name p) (sound : e.Sound) {t : Table}
    (there : f.named name = some t) :
    ∃ u, produced plan e name p.merged = some u ∧ t.connections = u.connections := by
  cases a with
  | waiting same =>
    rw [there] at same
    cases planned : plan name with
    | none =>
      rw [produced_of_unplanned planned, ← same]
      exact ⟨t, rfl, rfl⟩
    | some s =>
      -- the stream alone has touched the table already, which changes no connection
      refine ⟨t.touch s.registered, ?_, rfl⟩
      rw [produced_of_planned planned, Progress.merged, Stream.named_alone_zero sound,
        Engine.named_enroll sound, if_pos rfl, ← same]
      rfl
  | @entered s h planned found same =>
    refine ⟨t.touch s.registered, ?_, rfl⟩
    rw [produced_of_planned planned, Progress.merged, Stream.named_alone_zero sound, ← same, there]
    rfl
  | reporting planned found same =>
    refine ⟨t, ?_, rfl⟩
    rw [produced_of_planned planned, Progress.merged, ← same, there]

/-- A stream that reports has the table that it alone leads to. -/
lemma exists_alone {s : Stream} {h : Handle} {n : Nat} (a : Agrees plan e f name (.reporting h n))
    (sound : f.Sound) (planned : plan name = some s) :
    ∃ t, f.named name = some t ∧ (s.alone name n e).named name = some t := by
  cases a with
  | reporting planned' found same =>
    cases planned.symm.trans planned'
    obtain ⟨t, -, there⟩ := sound.exists_named found
    exact ⟨t, there, same ▸ there⟩

/-- A name without a stream has the table that it had. -/
lemma named_of_unplanned (a : Agrees plan e f name p) (unplanned : plan name = none) :
    f.named name = e.named name := by
  cases a with
  | waiting same => exact same
  | entered planned _ _ => cases unplanned.symm.trans planned
  | reporting planned _ _ => cases unplanned.symm.trans planned

end Agrees

namespace Advance

variable {plan : String → Option Stream} {e f g : Engine} {name : String} {s : Stream}
  {p q : Progress}

/-- A step of a stream keeps the engine sound. -/
lemma sound (st : Advance name s f p g q) (sound : f.Sound) : g.Sound := by
  cases st with
  | enter => exact sound.enroll name s.registered
  | touch => exact sound.update _ _
  | merge _ => exact sound.update _ _

/-- A step of a stream takes no batch back. -/
lemma merged_le (st : Advance name s f p g q) : p.merged ≤ q.merged := by
  cases st with
  | enter => exact le_refl _
  | touch => exact le_refl _
  | merge _ => exact Nat.le_succ _

/-- A step of a stream takes no registration back. -/
lemma registry (st : Advance name s f p g q) {n : String} {h : Handle}
    (found : f.registry.get? n = some h) : g.registry.get? n = some h := by
  cases st with
  | enter =>
    rw [Engine.registry_enroll]
    split
    · next same =>
      subst same
      rw [Engine.enroll_of_known found]
    · exact found
  | touch => exact found
  | merge _ => exact found

/-- A step of a stream takes its own name from one place to the next. -/
lemma agrees (st : Advance name s f p g q) (a : Agrees plan e f name p) (sound : e.Sound)
    (sound' : f.Sound) (planned : plan name = some s) : Agrees plan e g name q := by
  cases st with
  | enter =>
    cases a with
    | waiting same =>
      have found := Engine.registry_enroll f name s.registered name
      rw [if_pos rfl] at found
      refine .entered planned found ?_
      rw [Engine.named_enroll sound', Engine.named_enroll sound, if_pos rfl, if_pos rfl, same]
  | touch =>
    cases a with
    | entered planned' found same =>
      cases planned.symm.trans planned'
      refine .reporting planned found ?_
      rw [Engine.touch, Engine.named_update sound' found, if_pos rfl, same,
        Stream.named_alone_zero sound]
  | merge next =>
    cases a with
    | reporting planned' found same =>
      cases planned.symm.trans planned'
      refine .reporting planned found ?_
      rw [Engine.process, Engine.named_update sound' found, if_pos rfl, same,
        Stream.named_alone_succ sound next]

/-- A step of a stream is not seen under another name. -/
lemma agrees_of_ne (st : Advance name s f p g q) (own : Agrees plan e f name p) (sound : f.Sound)
    {n : String} (other : n ≠ name) {r : Progress} (a : Agrees plan e f n r) :
    Agrees plan e g n r := by
  cases st with
  | enter =>
    refine a.frame ?_ ?_
    · rw [Engine.named_enroll sound, if_neg other]
    · rw [Engine.registry_enroll, if_neg other]
  | touch =>
    cases own with
    | entered _ found _ =>
      refine a.frame ?_ rfl
      rw [Engine.touch, Engine.named_update sound found, if_neg other]
  | merge _ =>
    cases own with
    | reporting _ found _ =>
      refine a.frame ?_ rfl
      rw [Engine.process, Engine.named_update sound found, if_neg other]

end Advance

/-- A copy of a table has the connections after some prefix of its stream: all the batches that were
merged when the cycle began, and none that is not merged yet. -/
def Copied (plan : String → Option Stream) (e : Engine) (began merged : String → Nat)
    (name : String) (t : Table) : Prop :=
  ∃ k, (began name ≤ k ∧ k ≤ merged name) ∧
    ∃ u, produced plan e name k = some u ∧ t.connections = u.connections

/-- The copies that a cycle has made of the listed tables, and the handles of those to come. -/
inductive Follows (plan : String → Option Stream) (e f : Engine) (began merged : String → Nat)
    (names : List String) : Cycle → Prop where
  | copying {done rest left copied} : names = done ++ rest →
    List.Forall₂ (Copied plan e began merged) done copied →
    List.Forall₂ (fun name h => f.registry.get? name = some h) rest left →
    Follows plan e f began merged names (.copying left copied)
  | complete {c all copied} : c.snapshot? = some all →
    List.Forall₂ (Copied plan e began merged) names copied → all = (combine copied).entries →
    Follows plan e f began merged names c

/-- A cycle works on the same connections after a step. -/
lemma Cycle.snapshot?_step {c : Cycle} {all : List (Connection × Timestamp)}
    (complete : c.snapshot? = some all) (f : Engine) (r : Resolver) :
    (c.step f r).1.snapshot? = some all := by
  cases c with
  | copying left copied => cases complete
  | resolving _ left g =>
    cases left with
    | nil => exact complete
    | cons entry left =>
      rw [Cycle.step]
      split
      · exact complete
      · exact complete
  | looking _ left g source entry => exact complete

namespace Follows

variable {plan : String → Option Stream} {e f g : Engine} {began merged later : String → Nat}
  {names : List String} {c : Cycle}

/-- A cycle that begins has all tables left to copy, each under the handle of its name. -/
lemma start : Follows plan e f began merged f.names (.start f) := by
  have split : f.names = [] ++ f.names := rfl
  refine .copying split .nil ?_
  rw [Engine.names, Keyed.keys, Keyed.values, List.forall₂_map_left_iff, List.forall₂_map_right_iff,
    List.forall₂_same]
  exact fun entry listed => Keyed.mem_entries_iff.mp listed

/-- Neither new registrations nor batches matter to the copies that a cycle has made. -/
lemma mono (a : Follows plan e f began merged names c)
    (kept : ∀ {name h}, f.registry.get? name = some h → g.registry.get? name = some h)
    (more : ∀ name, merged name ≤ later name) : Follows plan e g began later names c := by
  have grow : ∀ name t, Copied plan e began merged name t → Copied plan e began later name t :=
    fun name t ⟨k, bounds, same⟩ => ⟨k, ⟨bounds.1, bounds.2.trans (more name)⟩, same⟩
  cases a with
  | copying split copies left => exact .copying split (copies.imp grow) (left.imp fun _ _ => kept)
  | complete done copies same => exact .complete done (copies.imp grow) same

/-- A step of a cycle copies the next table as it is now. -/
lemma step (a : Follows plan e f began merged names c)
    (present : ∀ name h, f.registry.get? name = some h →
      ∃ t, f.table? h = some t ∧ Copied plan e began merged name t) (r : Resolver) :
    Follows plan e f began merged names (c.step f r).1 := by
  cases a with
  | @copying done rest left copied split copies left' =>
    cases left' with
    | nil =>
      rw [List.append_nil] at split
      exact .complete rfl (split ▸ copies) rfl
    | @cons name h rest left found left' =>
      obtain ⟨t, there, copy⟩ := present name h found
      have split' : names = (done ++ [name]) ++ rest := by
        rw [split, List.append_assoc, List.singleton_append]
      -- the handle stands for one table, which is as the stream of its name left it
      refine .copying split' ?_ left'
      rw [there]
      exact List.rel_append copies (.cons copy .nil)
  | complete done copies same => exact .complete (Cycle.snapshot?_step done f r) copies same

end Follows

/-- A cycle has listed no name twice, no batch was taken back since it began, and its copies are of
the tables that it listed. -/
structure Tracked (plan : String → Option Stream) (e f : Engine) (merged : String → Nat)
    (x : Watched) : Prop where
  distinct : x.names.Nodup
  began : ∀ name, x.began name ≤ merged name
  follows : Follows plan e f x.began merged x.names x.cycle

/-- What is tracked stays so while registrations and batches are only added. -/
lemma Tracked.mono {plan : String → Option Stream} {e f g : Engine} {merged later : String → Nat}
    {x : Watched} (a : Tracked plan e f merged x)
    (kept : ∀ {name h}, f.registry.get? name = some h → g.registry.get? name = some h)
    (more : ∀ name, merged name ≤ later name) : Tracked plan e g later x where
  distinct := a.distinct
  began name := (a.began name).trans (more name)
  follows := a.follows.mono kept more

/-- What every step keeps: each name has what its stream alone leads to, and each cycle has copied
only such tables. -/
structure Consistent (plan : String → Option Stream) (e : Engine) (w : World) : Prop where
  sound : w.engine.Sound
  agrees : ∀ name, Agrees plan e w.engine name (w.progress name)
  tracked : ∀ x ∈ w.cycles, Tracked plan e w.engine w.merged x

namespace Consistent

variable {plan : String → Option Stream} {e : Engine} {w v : World}

/-- The world is consistent before anything begins. -/
lemma start (sound : e.Sound) : Consistent plan e (.start e) where
  sound := sound
  agrees _ := .waiting rfl
  tracked _ mem := absurd mem List.not_mem_nil

/-- The table under a registered handle is there, and a copy of it has all batches so far. -/
lemma present (a : Consistent plan e w) (sound : e.Sound) {x : Watched} (mem : x ∈ w.cycles)
    (name : String) (h : Handle) (found : w.engine.registry.get? name = some h) :
    ∃ t, w.engine.table? h = some t ∧ Copied plan e x.began w.merged name t := by
  obtain ⟨t, there, named⟩ := a.sound.exists_named found
  exact ⟨t, there, w.merged name, ⟨(a.tracked x mem).began name, le_refl _⟩,
    (a.agrees name).exists_produced sound named⟩

/-- Every step keeps the tables and the copies right. -/
lemma step (a : Consistent plan e w) (sound : e.Sound) (st : Step plan w v) :
    Consistent plan e v := by
  cases st with
  | @stream name s p f q planned place advance =>
    have more : ∀ n, w.merged n ≤ (Function.update w.progress name q n).merged := by
      intro n
      by_cases same : n = name
      · rw [same, Function.update_self, World.merged, place]
        exact advance.merged_le
      · rw [Function.update_of_ne same]
        exact le_refl _
    -- the name of the stream goes on to its next place, and no other name sees the step
    have own := place ▸ a.agrees name
    have agrees : ∀ n, Agrees plan e f n (Function.update w.progress name q n) := by
      intro n
      by_cases same : n = name
      · rw [same, Function.update_self]
        exact advance.agrees own sound a.sound planned
      · rw [Function.update_of_ne same]
        exact advance.agrees_of_ne own a.sound same (a.agrees n)
    exact ⟨advance.sound a.sound, agrees,
      fun x mem => (a.tracked x mem).mono advance.registry more⟩
  | begin =>
    refine ⟨a.sound, a.agrees, fun x mem => ?_⟩
    obtain rfl | mem := List.mem_cons.mp mem
    · exact ⟨w.engine.registry.distinct, fun _ => le_refl _, .start⟩
    · exact a.tracked x mem
  | @cycle x xs ys r split =>
    have mem : x ∈ w.cycles := split ▸ List.mem_append_right xs List.mem_cons_self
    have tracked := a.tracked x mem
    refine ⟨a.sound, a.agrees, fun y mem' => ?_⟩
    obtain before | rest := List.mem_append.mp mem'
    · exact a.tracked y (split ▸ List.mem_append_left _ before)
    · obtain rfl | after := List.mem_cons.mp rest
      · exact ⟨tracked.distinct, tracked.began, tracked.follows.step (a.present sound mem) r⟩
      · exact a.tracked y (split ▸ List.mem_append_right xs (List.mem_cons_of_mem x after))
  | @publish x n g xs ys split result =>
    have same : (w.engine.conclude n g).1.registry = w.engine.registry :=
      Engine.registry_publish w.engine g
    refine ⟨a.sound.conclude n g, fun name => ?_, fun y mem => ?_⟩
    · exact (a.agrees name).frame (Engine.named_conclude _ n g name) (by rw [same])
    · have mem' : y ∈ w.cycles := by
        rw [split]
        exact (List.sublist_cons_self x ys).append_left xs |>.mem mem
      exact (a.tracked y mem').mono (by rw [same]; exact id) fun _ => le_refl _

/-- Every run keeps the tables and the copies right. -/
lemma steps (sound : e.Sound) (run : Relation.ReflTransGen (Step plan) (.start e) w) :
    Consistent plan e w := by
  induction run with
  | refl => exact .start sound
  | tail _ st ih => exact ih.step sound st

end Consistent

/-- What holds at some number for each of several names holds at the numbers of one function. -/
lemma exists_numbers {α : Type} {R : String → Nat → α → Prop} {names : List String} {as : List α}
    (distinct : names.Nodup) (each : List.Forall₂ (fun name a => ∃ k, R name k a) names as) :
    ∃ k : String → Nat, List.Forall₂ (fun name a => R name (k name) a) names as := by
  induction each with
  | nil => exact ⟨fun _ => 0, .nil⟩
  | @cons name a names as here each ih =>
    obtain ⟨new, distinct⟩ := List.nodup_cons.mp distinct
    obtain ⟨n, here⟩ := here
    obtain ⟨k, there⟩ := ih distinct
    refine ⟨Function.update k name n, .cons ?_ ?_⟩
    · rwa [Function.update_self]
    · have others : ∀ m ∈ names, m ≠ name := fun m mem same => new (same ▸ mem)
      refine ((List.forall₂_and_left _ _).mpr ⟨others, there⟩).imp fun m b ⟨other, r⟩ => ?_
      rwa [Function.update_of_ne other]

/-- A cycle that has copied all tables works on the newest evidence in the tables that the streams
of the listed names lead to, each after some prefix. -/
lemma Tracked.exists_prefixes {plan : String → Option Stream} {e f : Engine} {merged : String → Nat}
    {x : Watched} {all : List (Connection × Timestamp)} (a : Tracked plan e f merged x)
    (complete : x.cycle.snapshot? = some all) :
    ∃ k : String → Nat, (∀ name ∈ x.names, x.began name ≤ k name ∧ k name ≤ merged name) ∧
      ∀ c, Newest {ts | ∃ name ∈ x.names, ∃ t, produced plan e name (k name) = some t ∧
        t.connections.get? c = some ts} (Keyed.find c all) := by
  obtain ⟨names, began, cycle⟩ := x
  cases a.follows with
  | copying _ _ _ => cases complete
  | @complete _ all' copied complete' copies same =>
    cases complete'.symm.trans complete
    obtain ⟨k, copies⟩ := exists_numbers a.distinct copies
    obtain ⟨bounds, copies⟩ := (List.forall₂_and_left _ _).mp copies
    refine ⟨k, bounds, fun c => ?_⟩
    have newest := newest_combine copied c
    have evidence : ∀ ts, (∃ name ∈ names, ∃ t, produced plan e name (k name) = some t ∧
        t.connections.get? c = some ts) ↔ ∃ t ∈ copied, t.connections.get? c = some ts := by
      intro ts
      refine exists_mem_iff_of_forall₂ copies fun name t ⟨u, alone, same⟩ => ?_
      rw [alone, same]
      simp
    rw [same]
    simp only [evidence]
    exact newest

/-- All streams are at their ends. -/
def World.Ended (plan : String → Option Stream) (w : World) : Prop :=
  ∀ name s, plan name = some s → ∃ h, w.progress name = .reporting h s.reports.length

/-- However streams and cycles take their steps, once the streams have ended each name has the table
that its stream alone leads to, and the snapshot has the newest evidence in these tables. A cycle
that has copied all tables works on the newest evidence in the tables that it listed, each as its
stream alone leads to after some number of batches: no fewer than were merged when the cycle began,
and no more than are merged by now. -/
theorem steps_alone (plan : String → Option Stream) {e : Engine} (reachable : e.Reachable)
    {w : World} (run : Relation.ReflTransGen (Step plan) (.start e) w) :
    (w.Ended plan →
      (∀ name s, plan name = some s → ∃ t, w.engine.named name = some t ∧
        (s.alone name s.reports.length e).named name = some t) ∧
      (∀ name, plan name = none → w.engine.named name = e.named name) ∧
      ∀ c, Newest {ts | ∃ name t, w.engine.named name = some t ∧ t.connections.get? c = some ts}
        (w.engine.snapshot.get? c)) ∧
    ∀ x ∈ w.cycles, ∀ all, x.cycle.snapshot? = some all →
      ∃ k : String → Nat, (∀ name ∈ x.names, x.began name ≤ k name ∧ k name ≤ w.merged name) ∧
        ∀ c, Newest {ts | ∃ name ∈ x.names, ∃ t, produced plan e name (k name) = some t ∧
          t.connections.get? c = some ts} (Keyed.find c all) := by
  have consistent := Consistent.steps reachable.sound run
  refine ⟨fun ended => ⟨fun name s planned => ?_, fun name unplanned =>
    (consistent.agrees name).named_of_unplanned unplanned, Engine.newest_snapshot_named w.engine⟩,
    fun x mem all complete => (consistent.tracked x mem).exists_prefixes complete⟩
  obtain ⟨h, place⟩ := ended name s planned
  have agrees := consistent.agrees name
  rw [place] at agrees
  exact agrees.exists_alone consistent.sound planned

/-- A cycle that copies a table before its first batch works on nothing, while the table has a
connection in the end. -/
theorem steps_alone_overtaken :
    let o : Observation := ⟨some "web", some (.v4 ⟨10, 0, 1, 1⟩),
      some (.v4 ⟨10, 0, 0, 5⟩ 443), some .tcp, some .client, none⟩
    let s : Stream := ⟨.zero, [⟨⟨.zero, [o]⟩, .clamp 5, true⟩]⟩
    let plan := fun name => if name = "h" then some s else none
    let e := Engine.new ⟨1⟩ none
    ∃ w, e.Reachable ∧ Relation.ReflTransGen (Step plan) (.start e) w ∧ w.Ended plan ∧
      (∃ t, w.engine.named "h" = some t ∧ (s.alone "h" 1 e).named "h" = some t ∧
        t.connections.size = 1) ∧
      ∃ x ∈ w.cycles, x.cycle.snapshot? = some [] ∧ ∃ k : String → Nat,
        (∀ name ∈ x.names, x.began name ≤ k name ∧ k name ≤ w.merged name) ∧
        ∀ c, Newest {ts | ∃ name ∈ x.names, ∃ t, produced plan e name (k name) = some t ∧
          t.connections.get? c = some ts} none := by
  intro o s plan e
  have planned : plan "h" = some s := if_pos rfl
  have reachable : e.Reachable := .new _ _
  let r : Resolver := ⟨fun _ => none, fun _ => []⟩
  have entered : Relation.ReflTransGen (Step plan) (.start e) _ :=
    .single (.stream planned rfl .enter)
  have registered := entered.tail (.stream (p := .entered 0) planned rfl .touch)
  have copied := (registered.tail .begin).tail (.cycle [] [] r rfl)
  have merged := copied.tail (.stream (p := .reporting 0 0) planned rfl (.merge rfl))
  have run := merged.tail (.cycle [] [] r rfl)
  obtain ⟨whole, cut⟩ := steps_alone plan reachable run
  have ended : ∀ v : World, v.progress "h" = .reporting 0 1 → v.Ended plan := by
    intro v place name s' found
    by_cases same : name = "h"
    · subst same
      cases planned.symm.trans found
      exact ⟨0, place⟩
    · cases (if_neg same).symm.trans found
  obtain ⟨t, there, alone⟩ := (whole (ended _ rfl)).1 "h" s planned
  refine ⟨_, reachable, run, ended _ rfl, ⟨t, there, alone, ?_⟩, _, List.mem_cons_self, rfl,
    cut _ List.mem_cons_self [] rfl⟩
  cases there
  rfl

end FlowGraph
