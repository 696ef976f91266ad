import FlowGraph.Proofs.Engine.Registry
import Mathlib.Data.List.Basic
import Mathlib.Data.List.Induction

/-!
# Handles that outlive the registry

A handle is good for ever, but what it leads to counts only while a name is registered for it, and
stopping takes all names away. A table that has lost its name never gets one again, so that engines
which differ in such a table alone cannot be told apart by what they publish (`Detached`).
`Engine.history_lifecycle` says of every run of operations which registrations give the same
table, which names there are, what batches through old handles do, and when cycles can be started.
-/

namespace FlowGraph

open Traffic Flows Entity Journal

/-- What can be done with an engine; a table is meant by its handle. -/
inductive Operation where
  | register (name : String) (now : Micros)
  | process (h : Handle) (b : Batch) (now : Micros) (first : Bool)
  | touch (h : Handle) (now : Micros)
  | enrich (r : Resolver)
  | start
  | stop

/-- The name was registered by one of the operations, and none that follows it is a stop. -/
def RegisteredBy (ops : List Operation) (name : String) : Prop :=
  ∃ before now after, ops = before ++ .register name now :: after ∧ .stop ∉ after

/-- One more operation registers its own name, and keeps the others unless it is a stop. -/
lemma registeredBy_concat {ops : List Operation} {op : Operation} {name : String} :
    RegisteredBy (ops ++ [op]) name ↔
      (∃ now, op = .register name now) ∨ op ≠ .stop ∧ RegisteredBy ops name := by
  constructor
  · intro registered
    obtain ⟨before, now, after, whole, quiet⟩ := registered
    rcases List.eq_nil_or_concat after with empty | ⟨rest, last, more⟩
    · subst empty
      have same := (List.append_inj' whole rfl).2
      exact .inl ⟨now, List.head_eq_of_cons_eq same⟩
    · rw [List.concat_eq_append] at more
      subst more
      have split : ops ++ [op] = (before ++ .register name now :: rest) ++ [last] := by
        rw [whole, List.append_assoc, List.cons_append]
      obtain ⟨front, back⟩ := List.append_inj' split rfl
      have same : op = last := List.head_eq_of_cons_eq back
      rw [List.mem_append, not_or] at quiet
      refine .inr ⟨?_, before, now, rest, front, quiet.1⟩
      intro stops
      apply quiet.2
      rw [← same, stops]
      exact List.mem_cons_self
  · intro registered
    rcases registered with ⟨now, rfl⟩ | ⟨goesOn, before, now, after, rfl, quiet⟩
    · exact ⟨ops, now, [], rfl, List.not_mem_nil⟩
    · refine ⟨before, now, after ++ [op], by simp, ?_⟩
      rw [List.mem_append, not_or, List.mem_singleton]
      exact ⟨quiet, goesOn.symm⟩

namespace Engine

/-- The engine after an operation. A start that fails leaves it as it is. -/
def perform (e : Engine) : Operation → Engine
  | .register name now => (e.register name now).1
  | .process h b now first => e.process h b now first
  | .touch h now => e.touch h now
  | .enrich r => (e.enrich r).1
  | .start =>
    match e.start with
    | .ok (next, _) => next
    | .error _ => e
  | .stop => e.stop

/-- The engine after some operations. -/
def performAll (e : Engine) (ops : List Operation) : Engine := ops.foldl perform e

/-- One of the operations registered a name and gave the handle for it. -/
def Issued (e : Engine) (ops : List Operation) (h : Handle) : Prop :=
  ∃ before name now after, ops = before ++ .register name now :: after ∧
    ((e.performAll before).register name now).2.1 = h

variable {e f : Engine} {h k : Handle} {name : String} {now : Micros} {op : Operation}
  {ops : List Operation}

/-- Operations are performed one after the other. -/
lemma performAll_append (e : Engine) (xs ys : List Operation) :
    e.performAll (xs ++ ys) = (e.performAll xs).performAll ys := List.foldl_append

/-- The first operation leads to where the others begin. -/
lemma performAll_cons (e : Engine) (op : Operation) (ops : List Operation) :
    e.performAll (op :: ops) = (e.perform op).performAll ops := rfl

/-- The last operation begins where the others lead. -/
lemma performAll_concat (e : Engine) (ops : List Operation) (op : Operation) :
    e.performAll (ops ++ [op]) = (e.performAll ops).perform op := by
  rw [performAll_append]
  rfl

/-! ### Starting -/

/-- Starting takes an idle engine with a period to running, and nothing else anywhere. -/
lemma perform_start (e : Engine) :
    e.perform .start =
      if e.life = .idle ∧ e.period.nanos ≠ 0 then { e with life := .running } else e := by
  rw [perform, start]
  cases alive : e.life with
  | idle => by_cases zero : e.period.nanos = 0 <;> simp [zero]
  | running => simp
  | stopped => simp

/-- Starting fails after a stop, and before the first start if there is no period. -/
lemma start_eq_error_iff :
    (∃ reason, e.start = .error reason) ↔
      e.life = .stopped ∨ e.life = .idle ∧ e.period.nanos = 0 := by
  rw [start]
  cases alive : e.life with
  | idle => by_cases zero : e.period.nanos = 0 <;> simp [zero]
  | running => simp
  | stopped => simp

/-- Starting leaves the registry as it is, whether it fails or not. -/
lemma registry_perform_start (e : Engine) : (e.perform .start).registry = e.registry := by
  rw [perform_start]
  split <;> rfl

/-- Starting leaves the tables as they are, whether it fails or not. -/
lemma tables_perform_start (e : Engine) : (e.perform .start).tables = e.tables := by
  rw [perform_start]
  split <;> rfl

/-- Starting leaves the published graph as it is, whether it fails or not. -/
lemma published_perform_start (e : Engine) : (e.perform .start).published = e.published := by
  rw [perform_start]
  split <;> rfl

/-! ### What a step keeps -/

/-- An operation leads from an engine that can be reached to another one. -/
lemma Reachable.perform (r : Reachable e) (op : Operation) : Reachable (e.perform op) := by
  cases op with
  | register name now => exact r.register name now
  | process h b now first => exact r.process h b now first
  | touch h now => exact r.touch h now
  | enrich resolver => exact r.conclude e.snapshot.entries.length _
  | start =>
    rw [Engine.perform]
    split
    · next next events started => exact r.start started
    · exact r
  | stop => exact r.stop

/-- Any number of operations lead to an engine that can be reached. -/
lemma Reachable.performAll (r : Reachable e) (ops : List Operation) :
    Reachable (e.performAll ops) := by
  induction ops generalizing e with
  | nil => exact r
  | cons op rest ih => exact ih (r.perform op)

/-- The sign of life that comes with a registration does not matter to the registry. -/
lemma register_registry (e : Engine) (name : String) (now : Micros) :
    (e.register name now).1.registry = (e.enroll name now).1.registry := by
  rw [register_eq_touch]
  rfl

/-- A registration leaves the published graph as it is. -/
lemma published_register (e : Engine) (name : String) (now : Micros) :
    (e.register name now).1.published = e.published := by
  rw [register]
  split <;> rfl

/-- A registered name keeps its handle until a stop. -/
lemma registry_perform_of_known (known : e.registry.get? name = some h) (goesOn : op ≠ .stop) :
    (e.perform op).registry.get? name = some h := by
  cases op with
  | register n now =>
    rw [perform, register_registry, registry_enroll]
    split
    · next same =>
      subst same
      rw [enroll_of_known known]
    · exact known
  | process _ _ _ _ => exact known
  | touch _ _ => exact known
  | enrich r =>
    rw [perform, registry_enrich]
    exact known
  | start =>
    rw [registry_perform_start]
    exact known
  | stop => exact absurd rfl goesOn

/-- A registered name keeps its handle through all operations other than stops. -/
lemma registry_performAll_of_known (known : e.registry.get? name = some h) (goesOn : .stop ∉ ops) :
    (e.performAll ops).registry.get? name = some h := by
  induction ops generalizing e with
  | nil => exact known
  | cons op rest ih =>
    rw [List.mem_cons, not_or] at goesOn
    exact ih (registry_perform_of_known known (Ne.symm goesOn.1)) goesOn.2

/-- A name is never entered for a table that was made before. -/
lemma nameless_perform (made : h < e.tables.length)
    (nameless : ∀ name, e.registry.get? name ≠ some h) (op : Operation) (name : String) :
    (e.perform op).registry.get? name ≠ some h := by
  cases op with
  | register n now =>
    rw [perform, register_registry, registry_enroll]
    split
    · next same =>
      subst same
      cases found : e.registry.get? name with
      | some k =>
        rw [enroll_of_known found, ← found]
        exact nameless name
      | none =>
        rw [enroll_of_new found]
        intro equal
        exact made.ne (Option.some.inj equal).symm
    · exact nameless name
  | process _ _ _ _ => exact nameless name
  | touch _ _ => exact nameless name
  | enrich r =>
    rw [perform, registry_enrich]
    exact nameless name
  | start =>
    rw [registry_perform_start]
    exact nameless name
  | stop =>
    intro entered
    cases entered

/-- An operation enters its own name, and keeps the others unless it is a stop. -/
lemma mem_names_perform :
    name ∈ (e.perform op).names ↔
      (∃ now, op = .register name now) ∨ op ≠ .stop ∧ name ∈ e.names := by
  simp only [names, Keyed.mem_keys_iff]
  cases op with
  | register n now =>
    rw [perform, register_registry]
    simp only [registry_enroll]
    by_cases same : name = n
    · simp [same]
    · simp [same, Ne.symm same]
  | process _ _ _ _ => simp [perform, process]
  | touch _ _ => simp [perform, touch]
  | enrich r => simp [perform]
  | start => simp [registry_perform_start]
  | stop => simp [perform, stop]

/-- No operation takes a table away, a stop neither. -/
lemma length_le_perform (e : Engine) (op : Operation) :
    e.tables.length ≤ (e.perform op).tables.length := by
  cases op with
  | register name now =>
    rw [perform, register_eq_touch, touch, length_update]
    cases found : e.registry.get? name with
    | some h => rw [enroll_of_known found]
    | none =>
      rw [enroll_of_new found, List.length_append]
      exact Nat.le_add_right _ _
  | process h b now first => exact (length_update ..).ge
  | touch h now => exact (length_update ..).ge
  | enrich r => rw [perform, tables_enrich]
  | start => rw [tables_perform_start]
  | stop => exact le_refl _

/-- Tables are only added, whatever is done. -/
lemma length_le_performAll (e : Engine) (ops : List Operation) :
    e.tables.length ≤ (e.performAll ops).tables.length := by
  induction ops generalizing e with
  | nil => exact le_refl _
  | cons op rest ih => exact (length_le_perform e op).trans (ih _)

/-! ### Handles -/

/-- A registered name is the only one that gives its handle. -/
lemma handle_register_eq_iff (s : e.Sound) {m n : String} (known : e.registry.get? m = some h)
    (now : Micros) : h = (e.register n now).2.1 ↔ m = n := by
  rw [handle_register]
  cases found : e.registry.get? n with
  | some k =>
    rw [enroll_of_known found]
    constructor
    · rintro rfl
      exact s.own known found
    · rintro rfl
      exact Option.some.inj (known.symm.trans found)
  | none =>
    rw [enroll_of_new found]
    constructor
    · intro same
      exact absurd same (s.made known).ne
    · rintro rfl
      cases known.symm.trans found

/-- Registering a name leaves the connections of every table as they are. -/
lemma connections_register {t : Table} (there : e.table? h = some t) (name : String)
    (now : Micros) :
    ∃ u, (e.register name now).1.table? h = some u ∧ u.connections = t.connections := by
  obtain ⟨made, -⟩ := List.getElem?_eq_some_iff.mp there
  rw [register_eq_touch, touch, table?_update, table?_enroll made, there]
  split
  · exact ⟨t.touch now, rfl, rfl⟩
  · exact ⟨t, rfl, rfl⟩

/-- A handle that was given stands for a table that was made. -/
lemma Issued.made (s : Reachable e) (issued : e.Issued ops h) :
    h < (e.performAll ops).tables.length := by
  obtain ⟨before, name, now, after, rfl, rfl⟩ := issued
  rw [performAll_append, performAll_cons]
  refine Nat.lt_of_lt_of_le ?_ (length_le_performAll _ after)
  have sound := (s.performAll before).sound.register name now
  have entered : ((e.performAll before).register name now).1.registry.get? name =
      some ((e.performAll before).register name now).2.1 := by
    rw [register_registry, registry_enroll, if_pos rfl, handle_register]
  exact sound.made entered

/-! ### Engines that differ in their tables -/

/-- A relation between the tables under a handle that is kept when the same is done to both. -/
structure Lasting (R : Handle → Table → Table → Prop) : Prop where
  refl : ∀ k t, R k t t
  merge : ∀ {k t u}, R k t u → ∀ b now first, R k (t.merge b now first) (u.merge b now first)
  touch : ∀ {k t u}, R k t u → ∀ now, R k (t.touch now) (u.touch now)

/-- The engines have the same registry and, under each handle, tables that are related. -/
structure Alike (R : Handle → Table → Table → Prop) (e f : Engine) : Prop where
  registry : f.registry = e.registry
  tables : ∀ k, Option.Rel (R k) (e.table? k) (f.table? k)

namespace Alike

variable {R : Handle → Table → Table → Prop}

/-- An engine is like itself. -/
lemma refl (l : Lasting R) (e : Engine) : Alike R e e := by
  refine ⟨rfl, fun k => ?_⟩
  cases e.table? k with
  | none => exact .none
  | some t => exact .some (l.refl k t)

/-- Engines that are alike have made as many tables. -/
lemma length (a : Alike R e f) : f.tables.length = e.tables.length := by
  have same : ∀ k, e.tables.length ≤ k ↔ f.tables.length ≤ k := by
    intro k
    have related := a.tables k
    rw [← List.getElem?_eq_none_iff, ← List.getElem?_eq_none_iff, ← table?, ← table?]
    generalize e.table? k = t, f.table? k = u at related
    cases related with
    | none => rfl
    | some _ => simp
  exact le_antisymm ((same _).mp (le_refl _)) ((same _).mpr (le_refl _))

/-- Nothing but the tables and the registry matters to whether engines are alike. -/
lemma of_tables {e' f' : Engine} (a : Alike R e f) (tables : e'.tables = e.tables)
    (registry : e'.registry = e.registry) (tables' : f'.tables = f.tables)
    (registry' : f'.registry = f.registry) : Alike R e' f' := by
  refine ⟨?_, fun k => ?_⟩
  · rw [registry, registry', a.registry]
  · rw [table?, table?, tables, tables']
    exact a.tables k

/-- A change of one table is a change of both engines if it keeps the relation. -/
lemma update (a : Alike R e f) {h : Handle} {g : Table → Table}
    (keeps : ∀ t u, R h t u → R h (g t) (g u)) : Alike R (e.update h g) (f.update h g) := by
  refine ⟨a.registry, fun k => ?_⟩
  have related := a.tables k
  rw [table?_update, table?_update]
  by_cases same : k = h
  · subst same
    rw [if_pos rfl, if_pos rfl]
    generalize e.table? k = t, f.table? k = u at related
    cases related with
    | none => exact .none
    | some r => exact .some (keeps _ _ r)
  · rwa [if_neg same, if_neg same]

/-- A table may be changed in one of the engines if it stays related to the other. -/
lemma update_left (a : Alike R e f) {h : Handle} {g : Table → Table}
    (keeps : ∀ t u, e.table? h = some t → R h t u → R h (g t) u) : Alike R (e.update h g) f := by
  refine ⟨a.registry, fun k => ?_⟩
  have related := a.tables k
  rw [table?_update]
  by_cases same : k = h
  · subst same
    rw [if_pos rfl]
    generalize there : e.table? k = t, f.table? k = u at related
    cases related with
    | none => exact .none
    | some r => exact .some (keeps _ _ there r)
  · rwa [if_neg same]

/-- A name is entered under the same handle in both engines. -/
lemma enroll (l : Lasting R) (a : Alike R e f) (name : String) (now : Micros) :
    Alike R (e.enroll name now).1 (f.enroll name now).1 ∧
      (f.enroll name now).2 = (e.enroll name now).2 := by
  have same : f.registry.get? name = e.registry.get? name := by rw [a.registry]
  cases found : e.registry.get? name with
  | some k =>
    rw [enroll_of_known found, enroll_of_known (same.trans found)]
    exact ⟨a, rfl⟩
  | none =>
    rw [enroll_of_new found, enroll_of_new (same.trans found)]
    refine ⟨⟨?_, fun k => ?_⟩, a.length⟩
    · rw [a.registry, a.length]
    · rw [table?, table?, List.getElem?_append, List.getElem?_append, a.length]
      split
      · exact a.tables k
      · cases [Table.new name now][k - e.tables.length]? with
        | none => exact .none
        | some t => exact .some (l.refl k t)

/-- Whatever is done to both engines keeps them alike. -/
lemma perform (l : Lasting R) (a : Alike R e f) (op : Operation) :
    Alike R (e.perform op) (f.perform op) := by
  cases op with
  | register name now =>
    obtain ⟨entered, same⟩ := a.enroll l name now
    rw [Engine.perform, Engine.perform, register_eq_touch, register_eq_touch, same]
    exact entered.update fun t u r => l.touch r now
  | process h b now first => exact a.update fun t u r => l.merge r b now first
  | touch h now => exact a.update fun t u r => l.touch r now
  | enrich r =>
    exact a.of_tables (tables_enrich e r) (registry_enrich e r) (tables_enrich f r)
      (registry_enrich f r)
  | start =>
    exact a.of_tables (tables_perform_start e) (registry_perform_start e) (tables_perform_start f)
      (registry_perform_start f)
  | stop => exact ⟨rfl, a.tables⟩

end Alike

/-! ### Detached tables -/

/-- The engines differ at most in the table under a handle that no name has. -/
structure Detached (h : Handle) (e f : Engine) : Prop where
  made : h < e.tables.length
  nameless : ∀ name, e.registry.get? name ≠ some h
  registry : f.registry = e.registry
  length : f.tables.length = e.tables.length
  others : ∀ k, k ≠ h → f.table? k = e.table? k
  published : f.published = e.published

namespace Detached

/-- An engine does not differ from itself in the table under a handle that no name has. -/
lemma refl (made : h < e.tables.length) (nameless : ∀ name, e.registry.get? name ≠ some h) :
    Detached h e e := ⟨made, nameless, rfl, rfl, fun _ _ => rfl, rfl⟩

/-- A snapshot does not show a table that no name is registered for. -/
lemma snapshot (d : Detached h e f) : f.snapshot = e.snapshot := by
  have same : f.registered = e.registered := by
    rw [registered, registered, d.registry]
    apply List.filterMap_congr
    intro k listed
    apply d.others
    -- a table that is listed has a name
    rintro rfl
    obtain ⟨⟨name, _⟩, mem, rfl⟩ := List.mem_map.mp listed
    exact d.nameless name (Keyed.mem_entries_iff.mp mem)
  rw [Engine.snapshot, Engine.snapshot, same]

/-- The detached table may be changed in one of the engines. -/
lemma update_right (d : Detached h e f) (change : Table → Table) :
    Detached h e (f.update h change) := by
  refine ⟨d.made, d.nameless, d.registry, (length_update ..).trans d.length, ?_, d.published⟩
  intro k other
  rw [table?_update, if_neg other]
  exact d.others k other

/-- Engines that differ in a detached table have the same tables under all other handles. -/
lemma alike (d : Detached h e f) : Alike (fun k t u => k ≠ h → u = t) e f := by
  refine ⟨d.registry, fun k => ?_⟩
  have same := d.others k
  by_cases made : k < e.tables.length
  · have made' : k < f.tables.length := d.length ▸ made
    rw [table?, table?, List.getElem?_eq_getElem made, List.getElem?_eq_getElem made'] at same ⊢
    exact .some fun other => Option.some.inj (same other)
  · have unmade : f.tables.length ≤ k := d.length ▸ Nat.le_of_not_lt made
    rw [table?, table?, List.getElem?_eq_none (Nat.le_of_not_lt made), List.getElem?_eq_none unmade]
    exact .none

/-- Engines with the same tables under all other handles differ in a detached table at most, if no
name has its handle and they have published the same. -/
lemma of_alike (a : Alike (fun k t u => k ≠ h → u = t) e f) (made : h < e.tables.length)
    (nameless : ∀ name, e.registry.get? name ≠ some h) (published : f.published = e.published) :
    Detached h e f := by
  refine ⟨made, nameless, a.registry, a.length, fun k other => ?_, published⟩
  have related := a.tables k
  generalize e.table? k = t, f.table? k = u at related ⊢
  cases related with
  | none => rfl
  | some same => rw [same other]

/-- What an operation publishes is the same with either table. -/
lemma published_perform (d : Detached h e f) (op : Operation) :
    (f.perform op).published = (e.perform op).published := by
  cases op with
  | register name now =>
    rw [Engine.perform, Engine.perform, published_register, published_register, d.published]
  | process k b now first => exact d.published
  | touch k now => exact d.published
  | enrich r => rw [Engine.perform, Engine.perform, published_enrich, published_enrich, d.snapshot]
  | start => rw [published_perform_start, published_perform_start, d.published]
  | stop => exact d.published

/-- No operation makes a difference between the engines but in the detached table. -/
lemma perform (d : Detached h e f) (op : Operation) : Detached h (e.perform op) (f.perform op) := by
  have lasting : Lasting fun k t u => k ≠ h → u = t :=
    ⟨fun _ _ _ => rfl, fun same b now first other => congrArg (·.merge b now first) (same other),
      fun same now other => congrArg (·.touch now) (same other)⟩
  exact of_alike (d.alike.perform lasting op) (d.made.trans_le (length_le_perform e op))
    (nameless_perform d.made d.nameless op) (d.published_perform op)

/-- No run makes a difference between the engines but in the detached table. -/
lemma performAll (d : Detached h e f) (ops : List Operation) :
    Detached h (e.performAll ops) (f.performAll ops) := by
  induction ops generalizing e f with
  | nil => exact d
  | cons op rest ih => exact ih (d.perform op)

end Detached

/-! ### Whole runs -/

/-- What a run leads to that starts with a new engine. -/
def history (period : Period) (sink : Option Sink) (ops : List Operation) : Engine :=
  (Engine.new period sink).performAll ops

variable {period : Period} {sink : Option Sink}

/-- A run may be cut in two, the second part of which begins where the first one leads. -/
lemma history_append (period : Period) (sink : Option Sink) (xs ys : List Operation) :
    history period sink (xs ++ ys) = (history period sink xs).performAll ys := performAll_append ..

/-- The last operation of a run begins where the others lead. -/
lemma history_concat (period : Period) (sink : Option Sink) (ops : List Operation)
    (op : Operation) : history period sink (ops ++ [op]) = (history period sink ops).perform op :=
  performAll_concat ..

/-- Every run leads to an engine that can be reached. -/
lemma reachable_history (period : Period) (sink : Option Sink) (ops : List Operation) :
    Reachable (history period sink ops) := (Reachable.new period sink).performAll ops

/-- The names are those that were registered since the last stop. -/
lemma mem_names_history : name ∈ (history period sink ops).names ↔ RegisteredBy ops name := by
  induction ops using List.reverseRecOn with
  | nil =>
    constructor
    · intro mem
      cases mem
    · rintro ⟨before, now, after, whole, -⟩
      exact absurd whole.symm (by simp)
  | append_singleton ops op ih => rw [history_concat, mem_names_perform, registeredBy_concat, ih]

/-- The life of an engine changes by a stop, and by a start when it is idle and has a period. -/
lemma life_perform (e : Engine) (op : Operation) :
    (e.perform op).period = e.period ∧
      (e.perform op).life =
        match op with
        | .start => if e.life = .idle ∧ e.period.nanos ≠ 0 then .running else e.life
        | .stop => .stopped
        | _ => e.life := by
  cases op with
  | register name now =>
    rw [perform, register]
    split <;> exact ⟨rfl, rfl⟩
  | process h b now first => exact ⟨rfl, rfl⟩
  | touch h now => exact ⟨rfl, rfl⟩
  | enrich r =>
    rw [perform, enrich, conclude, publish]
    split <;> exact ⟨rfl, rfl⟩
  | start =>
    rw [perform_start]
    split <;> exact ⟨rfl, rfl⟩
  | stop => exact ⟨rfl, rfl⟩

/-- An engine is stopped by a stop, and never runs without a period. -/
lemma life_history (period : Period) (sink : Option Sink) (ops : List Operation) :
    (history period sink ops).period = period ∧
      ((history period sink ops).life = .stopped ↔ .stop ∈ ops) ∧
      ((history period sink ops).life = .running → period.nanos ≠ 0) := by
  induction ops using List.reverseRecOn with
  | nil => exact ⟨rfl, by simp [history, performAll, new], by simp [history, performAll, new]⟩
  | append_singleton ops op ih =>
    obtain ⟨same, stopped, running⟩ := ih
    obtain ⟨period', life⟩ := life_perform (history period sink ops) op
    rw [history_concat, period', life, same, List.mem_append, List.mem_singleton, ← stopped]
    refine ⟨rfl, ?_⟩
    cases op with
    | start =>
      dsimp only
      by_cases starts : (history period sink ops).life = .idle ∧ period.nanos ≠ 0
      · rw [if_pos starts, starts.1]
        simp [starts.2]
      · rw [if_neg starts]
        simpa using running
    | stop => simp
    | _ => simpa using running

/-- Starting fails after a stop, and without a period. -/
lemma start_history_eq_error_iff :
    (∃ reason, (history period sink ops).start = .error reason) ↔
      .stop ∈ ops ∨ period.nanos = 0 := by
  obtain ⟨same, stopped, running⟩ := life_history period sink ops
  rw [start_eq_error_iff, stopped, same]
  constructor
  · rintro (ended | ⟨-, zero⟩)
    · exact .inl ended
    · exact .inr zero
  · rintro (ended | zero)
    · exact .inl ended
    · rw [← stopped]
      cases alive : (history period sink ops).life with
      | idle => exact .inr ⟨rfl, zero⟩
      | running => exact absurd zero (running alive)
      | stopped => exact .inl rfl

/-- A batch through a handle that was given before a stop makes no difference but to its own table,
whatever was done since the stop and whatever is done after the batch. -/
lemma detached_history {before between after : List Operation}
    (issued : (Engine.new period sink).Issued before h) (b : Batch) (now : Micros) (first : Bool) :
    Detached h (history period sink (before ++ .stop :: (between ++ after)))
      (history period sink (before ++ .stop :: (between ++ .process h b now first :: after))) := by
  have made : h < (history period sink before).tables.length :=
    Issued.made (.new period sink) issued
  have stopped : Detached h (history period sink before).stop (history period sink before).stop :=
    .refl made nofun
  -- the engines are the same up to the batch, and it is written into one of them
  have written := (stopped.performAll between).update_right (·.merge b now first)
  rw [history_append, history_append, performAll_cons, performAll_cons, performAll_append,
    performAll_append, performAll_cons]
  exact written.performAll after

/-- A name that was not registered since the last stop gets a table of its own, under a handle that
was not given before. -/
lemma register_history_of_new (fresh : ¬ RegisteredBy ops name) (now : Micros) :
    let r := (history period sink ops).register name now
    ¬ (Engine.new period sink).Issued ops r.2.1 ∧ r.1.table? r.2.1 = some (.new name now) := by
  have absent : (history period sink ops).registry.get? name = none := by
    have unnamed : name ∉ (history period sink ops).names := mem_names_history.not.mpr fresh
    rw [names, ← Keyed.get?_isSome] at unnamed
    exact Option.not_isSome_iff_eq_none.mp unnamed
  have handle : ((history period sink ops).register name now).2.1 =
      (history period sink ops).tables.length := by
    rw [handle_register, enroll_of_new absent]
  refine ⟨?_, ?_⟩
  · intro issued
    have made := Issued.made (.new period sink) issued
    rw [handle] at made
    exact Nat.lt_irrefl _ made
  · have sound := (reachable_history period sink ops).sound
    rw [register_eq_touch, handle_register, touch, table?_update, if_pos rfl,
      table?_handle_enroll sound, named, absent]
    rfl

/-- After any run: between stops, registrations give the same table for the same name only, and
leave all connections as they are. The names are those registered since the last stop. A batch
changes the table under its own handle, and if this handle was given before a stop, neither a
snapshot nor a published graph ever shows the batch; a name that is registered again has a new and
empty table. A stop leaves the published graph, and cycles can be started unless there was a stop or
there is no period. -/
theorem history_lifecycle (period : Period) (sink : Option Sink) (ops : List Operation) :
    let e := history period sink ops
    (∀ before m s between, ops = before ++ .register m s :: between → .stop ∉ between →
      ∀ n t, ((history period sink before).register m s).2.1 = (e.register n t).2.1 ↔ m = n) ∧
    (∀ name now h t, e.table? h = some t →
      ∃ u, (e.register name now).1.table? h = some u ∧ u.connections = t.connections) ∧
    (∀ name, name ∈ e.names ↔ RegisteredBy ops name) ∧ e.names.Nodup ∧
    (∀ h b now first,
      let next := e.process h b now first
      (∀ k, next.table? k = if k = h then (e.table? k).map (·.merge b now first) else e.table? k) ∧
      next.names = e.names ∧ next.published = e.published) ∧
    (∀ before between h b now first after, (Engine.new period sink).Issued before h →
      ops = before ++ .stop :: (between ++ .process h b now first :: after) →
      let without := history period sink (before ++ .stop :: (between ++ after))
      e.snapshot = without.snapshot ∧ e.published = without.published) ∧
    (∀ name now, ¬ RegisteredBy ops name →
      let r := e.register name now
      ¬ (Engine.new period sink).Issued ops r.2.1 ∧ r.1.table? r.2.1 = some (.new name now)) ∧
    e.stop.published = e.published ∧
    ((∃ reason, e.start = .error reason) ↔ .stop ∈ ops ∨ period.nanos = 0) := by
  intro e
  have sound : e.Sound := (reachable_history period sink ops).sound
  refine ⟨?_, ?_, ?_, ?_, ?_, ?_, ?_, rfl, start_history_eq_error_iff⟩
  · intro before m s between whole quiet n t
    apply handle_register_eq_iff sound
    -- the first registration is still there
    have entered : ((history period sink before).perform (.register m s)).registry.get? m =
        some ((history period sink before).register m s).2.1 := by
      rw [perform, register_registry, registry_enroll, if_pos rfl, handle_register]
    have kept := registry_performAll_of_known entered quiet
    rwa [← performAll_cons, ← history_append, ← whole] at kept
  · intro name now h t there
    exact connections_register there name now
  · intro name
    exact mem_names_history
  · exact e.registry.distinct
  · intro h b now first
    exact ⟨fun k => table?_update e h k _, rfl, rfl⟩
  · intro before between h b now first after issued whole
    have detached : Detached h (history period sink (before ++ .stop :: (between ++ after))) e := by
      show Detached h _ (history period sink ops)
      rw [whole]
      exact detached_history issued b now first
    exact ⟨detached.snapshot, detached.published⟩
  · intro name now fresh
    exact register_history_of_new fresh now

/-- A batch with one connection, which is open. -/
def openBatch : Batch :=
  ⟨.zero, [⟨some "web", some (.v4 ⟨10, 0, 1, 1⟩), some (.v4 ⟨10, 0, 0, 5⟩ 443), some .tcp,
    some .client, none⟩]⟩

/-- A collector is registered, and again after a stop, when a batch comes through its old handle. -/
def staleOperations : List Operation :=
  [.register "h" .zero, .stop, .register "h" .zero, .process 0 openBatch .zero true]

/-- The batch is in the old table, and in no snapshot. -/
theorem history_lifecycle_stale :
    (Engine.new ⟨1⟩ none).Issued [.register "h" .zero] 0 ∧
      (∃ t, (history ⟨1⟩ none staleOperations).table? 0 = some t ∧ t.connections.size = 1) ∧
      (history ⟨1⟩ none staleOperations).snapshot =
        (history ⟨1⟩ none [.register "h" .zero, .stop, .register "h" .zero]).snapshot ∧
      (history ⟨1⟩ none staleOperations).names = ["h"] := by
  have issued : (Engine.new ⟨1⟩ none).Issued [.register "h" .zero] 0 :=
    ⟨[], "h", .zero, [], rfl, rfl⟩
  obtain ⟨-, -, -, -, -, unseen, -, -, -⟩ := history_lifecycle ⟨1⟩ none staleOperations
  have same :=
    unseen [.register "h" .zero] [.register "h" .zero] 0 openBatch .zero true [] issued rfl
  exact ⟨issued, ⟨_, rfl, rfl⟩, same.1, rfl⟩

end Engine

end FlowGraph
