import FlowGraph.Engine
import FlowGraph.Proofs.Engine.Publication
import FlowGraph.Proofs.Traffic.Merge

/-!
# Registered tables

What the operations of the engine do to the table under a handle (`table?`) and to the table that a
name is registered for (`named`). Every engine that can be reached is sound: a registered name has
a table, and no two names have the same one, so that what is done to one leaves the others alone.
Registering is entering a name and then a sign of life (`register_eq_touch`).
-/

namespace FlowGraph.Engine

open Traffic Flows Journal

/-- Every registered name has a table of its own. -/
structure Sound (e : Engine) : Prop where
  made : ∀ {name h}, e.registry.get? name = some h → h < e.tables.length
  own : ∀ {m n h}, e.registry.get? m = some h → e.registry.get? n = some h → m = n

/-- Enters a name into the registry at a time, with a new table if the name is new. -/
def enroll (e : Engine) (name : String) (now : Micros) : Engine × Handle :=
  match e.registry.get? name with
  | some h => (e, h)
  | none =>
    ({ e with
        tables := e.tables ++ [.new name now]
        registry := e.registry.insert name e.tables.length }, e.tables.length)

/-- The engines that operations lead to from a new one. -/
inductive Reachable : Engine → Prop where
  | new (period : Period) (sink : Option Sink) : Reachable (.new period sink)
  | register {e} (name : String) (now : Micros) :
    Reachable e → Reachable (e.register name now).1
  | process {e} (h : Handle) (b : Batch) (now : Micros) (first : Bool) :
    Reachable e → Reachable (e.process h b now first)
  | touch {e} (h : Handle) (now : Micros) : Reachable e → Reachable (e.touch h now)
  | conclude {e} (connections : Nat) (g : Graph) :
    Reachable e → Reachable (e.conclude connections g).1
  | ask {e} : Reachable e → Reachable e.ask
  | start {e next events} : Reachable e → e.start = .ok (next, events) → Reachable next
  | stop {e} : Reachable e → Reachable e.stop

/-- A registered name has the table under its handle. -/
lemma Sound.exists_named {e : Engine} (s : e.Sound) {name : String} {h : Handle}
    (found : e.registry.get? name = some h) :
    ∃ t, e.table? h = some t ∧ e.named name = some t := by
  obtain ⟨t, there⟩ : ∃ t, e.table? h = some t := ⟨_, List.getElem?_eq_getElem (s.made found)⟩
  refine ⟨t, there, ?_⟩
  rw [named, found, Option.bind_some, there]

/-! ### The table under a handle -/

/-- A change of a table is seen under its own handle alone. -/
lemma table?_update (e : Engine) (h k : Handle) (f : Table → Table) :
    (e.update h f).table? k = if k = h then (e.table? k).map f else e.table? k := by
  rw [table?, update, List.getElem?_modify]
  by_cases same : h = k
  · simp [same, table?]
  · simp [same, Ne.symm same, table?]

/-- A change of a table leaves the registry as it is. -/
@[simp] lemma registry_update (e : Engine) (h : Handle) (f : Table → Table) :
    (e.update h f).registry = e.registry := rfl

/-- A change of a table leaves the others where they are. -/
@[simp] lemma length_update (e : Engine) (h : Handle) (f : Table → Table) :
    (e.update h f).tables.length = e.tables.length := List.length_modify ..

/-- A name that is registered has its handle already, and nothing is entered. -/
lemma enroll_of_known {e : Engine} {name : String} {h : Handle}
    (known : e.registry.get? name = some h) (now : Micros) : e.enroll name now = (e, h) := by
  rw [enroll, known]

/-- A new name gets a new table behind all others. -/
lemma enroll_of_new {e : Engine} {name : String} (absent : e.registry.get? name = none)
    (now : Micros) :
    e.enroll name now =
      ({ e with
          tables := e.tables ++ [.new name now]
          registry := e.registry.insert name e.tables.length }, e.tables.length) := by
  rw [enroll, absent]

/-- Registering a name is entering it and then a sign of life. -/
lemma register_eq_touch (e : Engine) (name : String) (now : Micros) :
    (e.register name now).1 = (e.enroll name now).1.touch (e.enroll name now).2 now := by
  cases found : e.registry.get? name with
  | some h => rw [register, enroll_of_known found, found, touch]
  | none =>
    -- the new table has its sign of life already
    have touched : (e.tables ++ [Table.new name now]).modify e.tables.length (·.touch now) =
        e.tables ++ [Table.new name now] := by
      rw [List.modify_eq_take_drop]
      simp [Table.touch, Table.new]
    rw [register, enroll_of_new found, found, touch, update, touched]

/-- Registering a name gives the handle under which it is entered. -/
lemma handle_register (e : Engine) (name : String) (now : Micros) :
    (e.register name now).2.1 = (e.enroll name now).2 := by
  cases found : e.registry.get? name with
  | some h => rw [register, enroll_of_known found, found]
  | none => rw [register, enroll_of_new found, found]

/-- An entered name has its handle, and the others keep theirs. -/
lemma registry_enroll (e : Engine) (name : String) (now : Micros) (n : String) :
    (e.enroll name now).1.registry.get? n =
      if n = name then some (e.enroll name now).2 else e.registry.get? n := by
  cases found : e.registry.get? name with
  | some h =>
    rw [enroll_of_known found]
    split
    · next same => rw [same, found]
    · rfl
  | none => rw [enroll_of_new found, Keyed.get?_insert]

/-- Entering a name leaves every table that was made as it is. -/
lemma table?_enroll {e : Engine} {h : Handle} (made : h < e.tables.length) (name : String)
    (now : Micros) : (e.enroll name now).1.table? h = e.table? h := by
  cases found : e.registry.get? name with
  | some k => rw [enroll_of_known found]
  | none => rw [enroll_of_new found, table?, table?, List.getElem?_append_left made]

/-- An entered name has the table that it had, or else a new one. -/
lemma table?_handle_enroll {e : Engine} (s : e.Sound) (name : String) (now : Micros) :
    (e.enroll name now).1.table? (e.enroll name now).2 =
      some ((e.named name).getD (.new name now)) := by
  cases found : e.registry.get? name with
  | some h =>
    obtain ⟨t, there, named⟩ := s.exists_named found
    rw [enroll_of_known found, there, named, Option.getD_some]
  | none =>
    rw [enroll_of_new found, named, found, table?]
    simp

/-- Registering a name is a contact. -/
lemma last_register {e : Engine} {name : String} {now : Micros} {t : Table}
    (found : (e.register name now).1.table? (e.register name now).2.1 = some t) :
    t.last = now := by
  rw [register_eq_touch, handle_register, touch, table?_update, if_pos rfl,
    Option.map_eq_some_iff] at found
  obtain ⟨u, -, rfl⟩ := found
  rfl

/-- A registered name has a table. -/
lemma exists_table_register {e : Engine} (s : e.Sound) (name : String) (now : Micros) :
    ∃ t, (e.register name now).1.table? (e.register name now).2.1 = some t := by
  rw [register_eq_touch, handle_register, touch, table?_update, if_pos rfl,
    table?_handle_enroll s]
  exact ⟨_, rfl⟩

/-! ### The table that a name is registered for -/

/-- A change of the table of one name is seen under this name alone. -/
lemma named_update {e : Engine} (s : e.Sound) {name : String} {h : Handle}
    (found : e.registry.get? name = some h) (f : Table → Table) (n : String) :
    (e.update h f).named n = if n = name then (e.named n).map f else e.named n := by
  rw [named, registry_update, named]
  by_cases same : n = name
  · rw [if_pos same, same, found, Option.bind_some, Option.bind_some, table?_update, if_pos rfl]
  · rw [if_neg same]
    cases other : e.registry.get? n with
    | none => rfl
    | some k =>
      have differs : k ≠ h := by
        rintro rfl
        exact same (s.own other found)
      rw [Option.bind_some, Option.bind_some, table?_update, if_neg differs]

/-- Entering a name makes a new table if the name has none, and changes no other. -/
lemma named_enroll {e : Engine} (s : e.Sound) (name : String) (now : Micros) (n : String) :
    (e.enroll name now).1.named n =
      if n = name then some ((e.named n).getD (.new name now)) else e.named n := by
  rw [named, registry_enroll]
  by_cases same : n = name
  · rw [if_pos same, if_pos same, Option.bind_some, table?_handle_enroll s, same]
  · rw [if_neg same, if_neg same, named]
    cases found : e.registry.get? n with
    | none => rfl
    | some h => rw [Option.bind_some, Option.bind_some, table?_enroll (s.made found)]

/-- A publication changes no table of a name. -/
@[simp] lemma named_conclude (e : Engine) (connections : Nat) (g : Graph) (n : String) :
    (e.conclude connections g).1.named n = e.named n := by
  have same : (e.publish g).1.table? = e.table? := by
    funext h
    rw [table?, tables_publish, table?]
  rw [named, conclude, registry_publish, same, named]

/-! ### Soundness -/

namespace Sound

variable {e : Engine}

/-- A sound engine stays sound while it has at least its tables and no other registrations. -/
lemma of_registry {f : Engine} (s : e.Sound) (same : f.registry = e.registry)
    (more : e.tables.length ≤ f.tables.length) : f.Sound where
  made found := (s.made (same ▸ found)).trans_le more
  own a b := s.own (same ▸ a) (same ▸ b)

/-- In a new engine no name is registered. -/
lemma new (period : Period) (sink : Option Sink) : (Engine.new period sink).Sound where
  made found := by cases found
  own found := by cases found

/-- A change of a table keeps the engine sound. -/
lemma update (s : e.Sound) (h : Handle) (f : Table → Table) : (e.update h f).Sound :=
  s.of_registry rfl (length_update e h f).ge

/-- Entering a name keeps the engine sound: its handle is its own. -/
lemma enroll (s : e.Sound) (name : String) (now : Micros) : (e.enroll name now).1.Sound := by
  cases found : e.registry.get? name with
  | some h => rwa [enroll_of_known found]
  | none =>
    rw [enroll_of_new found]
    constructor
    · intro n h entered
      rw [Keyed.get?_insert] at entered
      rw [List.length_append, List.length_singleton]
      split at entered
      · cases entered
        exact Nat.lt_succ_self _
      · exact Nat.lt_succ_of_lt (s.made entered)
    · intro m n h first second
      rw [Keyed.get?_insert] at first second
      -- the new handle is beyond those of all other names
      split at first
      · next same =>
        split at second
        · next same' => rw [same, same']
        · cases first
          exact absurd (s.made second) (Nat.lt_irrefl _)
      · split at second
        · cases second
          exact absurd (s.made first) (Nat.lt_irrefl _)
        · exact s.own first second

/-- Registering a name keeps the engine sound. -/
lemma register (s : e.Sound) (name : String) (now : Micros) : (e.register name now).1.Sound := by
  rw [register_eq_touch]
  exact (s.enroll name now).update _ _

/-- The end of a cycle keeps the engine sound. -/
lemma conclude (s : e.Sound) (connections : Nat) (g : Graph) :
    (e.conclude connections g).1.Sound :=
  s.of_registry (registry_publish e g) (congrArg List.length (tables_publish e g)).ge

end Sound

/-- An engine that can be reached is sound. -/
lemma Reachable.sound {e : Engine} (r : Reachable e) : e.Sound := by
  induction r with
  | new period sink => exact .new period sink
  | register name now _ ih => exact ih.register name now
  | process h b now first _ ih => exact ih.update h _
  | touch h now _ ih => exact ih.update h _
  | conclude connections g _ ih => exact ih.conclude connections g
  | ask _ ih => exact ih.of_registry rfl (le_refl _)
  | @start e next events _ started ih =>
    rw [Engine.start] at started
    split at started
    · cases started
      exact ih
    · cases started
    · split at started
      · cases started
      · cases started
        exact ih.of_registry rfl (le_refl _)
  | stop _ _ => exact ⟨nofun, nofun⟩

end FlowGraph.Engine
