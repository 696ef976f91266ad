import FlowGraph.Proofs.Traffic.Merge

/-!
# The history of a table

A table that was called any number of times is a function of the calls. Which connections it has,
and what it has for each, hangs on three of them: the last call that mentions the connection
(`LastMention`), the last reconnect after it, and the call right before this reconnect, at whose
time the collector was last heard from. `Table.run_new_history` says so for every list of calls.
-/

namespace FlowGraph.Traffic

/-- What can be asked of a table. -/
inductive Call where
  | process (b : Batch) (now : Micros) (first : Bool)
  | touch (now : Micros)

namespace Call

/-- The time that a call gives. -/
def time : Call → Micros
  | process _ now _ => now
  | touch now => now

/-- The call brings an observation that names the connection. -/
def Mentions (c : Connection) : Call → Prop
  | process b _ _ => ∃ o ∈ b.observations, o.Names c
  | touch _ => False

/-- The call is the first batch after a pause. -/
def Reconnects : Call → Prop
  | process _ _ first => first = true
  | touch _ => False

/-- A batch mentions no connection that none of its observations names. -/
lemma not_mentions_process {b : Batch} {now : Micros} {first : Bool} {c : Connection} :
    ¬ (process b now first).Mentions c ↔ ∀ o ∈ b.observations, ¬ o.Names c := by
  simp [Mentions]

end Call

/-- The time that the last call gives, or an earlier contact if there is no call. -/
def lastTime (contact : Micros) (calls : List Call) : Micros :=
  (calls.getLast?.map Call.time).getD contact

/-- The last mention of a connection in a list of calls: an observation of a batch, such that no
later one of the batch and no call after it names the connection. -/
structure LastMention (c : Connection) (calls : List Call) (b : Batch) (now : Micros)
    (o : Observation) (after : List Call) : Prop where
  called : ∃ before first, calls = before ++ .process b now first :: after
  names : o.Names c
  placed : ∃ xs ys, b.observations = xs ++ o :: ys ∧ ∀ p ∈ ys, ¬ p.Names c
  latest : ∀ call ∈ after, ¬ call.Mentions c

namespace Table

/-- The table after a call. -/
def call (t : Table) : Call → Table
  | .process b now first => t.merge b now first
  | .touch now => t.touch now

/-- The table after a list of calls. -/
def run (t : Table) (calls : List Call) : Table := calls.foldl call t

/-- Calls are made one after the other. -/
lemma run_append (t : Table) (xs ys : List Call) : t.run (xs ++ ys) = (t.run xs).run ys :=
  List.foldl_append

/-- The first call leads to where the others begin. -/
lemma run_cons (t : Table) (x : Call) (xs : List Call) : t.run (x :: xs) = (t.call x).run xs := rfl

/-- Every call is a contact, at the time that it gives. -/
lemma last_call (t : Table) (x : Call) : (t.call x).last = x.time := by
  cases x <;> rfl

/-- The last contact is the last call. -/
lemma last_run (t : Table) (calls : List Call) : (t.run calls).last = lastTime t.last calls := by
  induction calls generalizing t with
  | nil => rfl
  | cons x xs ih =>
    rw [run_cons, ih, last_call, lastTime, lastTime, List.getLast?_cons]
    cases xs.getLast? <;> rfl

/-- A call drops no connection, and adds those that it mentions. -/
lemma mem_keys_call {t : Table} {x : Call} {c : Connection} :
    c ∈ (t.call x).connections.keys ↔ c ∈ t.connections.keys ∨ x.Mentions c := by
  cases x with
  | process b now first => exact mem_keys_merge
  | touch now => simp [call, touch, Call.Mentions]

/-- The calls add the connections that they mention. -/
lemma mem_keys_run {t : Table} {calls : List Call} {c : Connection} :
    c ∈ (t.run calls).connections.keys ↔
      c ∈ t.connections.keys ∨ ∃ x ∈ calls, x.Mentions c := by
  induction calls generalizing t with
  | nil => simp [run]
  | cons x xs ih =>
    rw [run_cons, ih, mem_keys_call, or_assoc]
    simp

/-- A call that neither mentions a connection nor reconnects keeps what is known of it. -/
lemma get?_call {t : Table} {x : Call} {c : Connection} (unmentioned : ¬ x.Mentions c)
    (stays : ¬ x.Reconnects) : (t.call x).connections.get? c = t.connections.get? c := by
  cases x with
  | process b now first =>
    have later : ¬ first = true := stays
    rw [call, get?_merge_of_unnamed (Call.not_mentions_process.mp unmentioned), if_neg later]
  | touch now => rfl

/-- Calls that neither mention a connection nor reconnect keep what is known of it. -/
lemma get?_run {t : Table} {calls : List Call} {c : Connection}
    (unmentioned : ∀ x ∈ calls, ¬ x.Mentions c) (stays : ∀ x ∈ calls, ¬ x.Reconnects) :
    (t.run calls).connections.get? c = t.connections.get? c := by
  induction calls generalizing t with
  | nil => rfl
  | cons x xs ih =>
    rw [List.forall_mem_cons] at unmentioned stays
    rw [run_cons, ih unmentioned.2 stays.2, get?_call unmentioned.1 stays.1]

/-- A known connection that a reconnect does not mention is closed at the last contact, and stays so
while no call mentions it or reconnects. -/
lemma get?_run_reconnect {t : Table} {b : Batch} {now : Micros} {rest : List Call}
    {c : Connection} (known : c ∈ t.connections.keys)
    (unmentioned : ∀ x ∈ .process b now true :: rest, ¬ x.Mentions c)
    (stays : ∀ x ∈ rest, ¬ x.Reconnects) :
    (t.run (.process b now true :: rest)).connections.get? c = some (.closed t.last) := by
  obtain ⟨ts, found⟩ := Keyed.mem_keys_iff.mp known
  rw [List.forall_mem_cons, Call.not_mentions_process] at unmentioned
  rw [run_cons, get?_run unmentioned.2 stays, call, get?_merge_of_unnamed unmentioned.1,
    if_pos rfl, found, Option.map_some]

end Table

namespace LastMention

variable {c : Connection} {calls after : List Call} {b : Batch} {now : Micros} {o : Observation}

/-- The observation is the last one of its batch that names the connection. -/
lemma last? (m : LastMention c calls b now o after) : b.last? c = some o :=
  Batch.last?_eq_some_iff.mpr ⟨m.names, m.placed⟩

/-- The calls up to the last mention leave its evidence, and its time as the last contact. -/
lemma run (m : LastMention c calls b now o after) (t : Table) :
    ∃ u : Table, t.run calls = u.run after ∧ u.last = now ∧
      u.connections.get? c = some (o.evidence (b.ahead now)) := by
  obtain ⟨before, first, rfl⟩ := m.called
  refine ⟨(t.run before).merge b now first, ?_, rfl, Table.get?_merge_of_last m.last? _ _ _⟩
  rw [Table.run_append, Table.run_cons, Table.call]

end LastMention

/-- A mentioned connection has a last mention. -/
lemma exists_lastMention {c : Connection} {calls : List Call}
    (mentioned : ∃ x ∈ calls, x.Mentions c) :
    ∃ b now o after, LastMention c calls b now o after := by
  induction calls with
  | nil => simp at mentioned
  | cons x xs ih =>
    -- the first call counts only if none of the others mentions the connection
    by_cases later : ∃ y ∈ xs, y.Mentions c
    · obtain ⟨b, now, o, after, m⟩ := ih later
      obtain ⟨before, first, rfl⟩ := m.called
      exact ⟨b, now, o, after, ⟨x :: before, first, rfl⟩, m.names, m.placed, m.latest⟩
    · have here : x.Mentions c := by
        obtain ⟨y, mem, mentions⟩ := mentioned
        rcases List.mem_cons.mp mem with rfl | mem
        · exact mentions
        · exact absurd ⟨y, mem, mentions⟩ later
      cases x with
      | touch now => exact here.elim
      | process b now first =>
        obtain ⟨o, last⟩ := Batch.exists_last?_iff.mpr here
        obtain ⟨names, placed⟩ := Batch.last?_eq_some_iff.mp last
        exact ⟨b, now, o, xs, ⟨[], first, rfl⟩, names, placed, fun y mem mentions =>
          later ⟨y, mem, mentions⟩⟩

/-- The connections of a table, what it has for each and its last contact, read off the calls that
were made since the table was new. -/
theorem Table.run_new_history (name : String) (created : Micros) (calls : List Call) :
    (∀ c, c ∈ ((new name created).run calls).connections.keys ↔ ∃ x ∈ calls, x.Mentions c) ∧
    (∀ c, (∃ x ∈ calls, x.Mentions c) → ∃ b now o after, LastMention c calls b now o after) ∧
    (∀ c b now o after, LastMention c calls b now o after →
      ((∀ x ∈ after, ¬ x.Reconnects) →
        (o.closed? = none →
          ((new name created).run calls).connections.get? c = some .stillOpen) ∧
        (∀ t, o.closed? = some t →
          ((new name created).run calls).connections.get? c =
            some (.closed (t.shift (now.since b.time))))) ∧
      (∀ between b' now' rest, after = between ++ .process b' now' true :: rest →
        (∀ x ∈ rest, ¬ x.Reconnects) →
        ((new name created).run calls).connections.get? c =
          some (.closed (lastTime now between)))) ∧
    ((new name created).run calls).last = lastTime created calls := by
  refine ⟨fun c => ?_, fun c => exists_lastMention, fun c b now o after m => ?_, last_run _ _⟩
  · rw [mem_keys_run]
    simp [new, Keyed.keys, Keyed.empty]
  · obtain ⟨u, whole, contact, found⟩ := m.run (new name created)
    rw [whole]
    refine ⟨fun stays => ?_, ?_⟩
    · rw [get?_run m.latest stays, found, Observation.evidence]
      refine ⟨fun isOpen => by rw [isOpen], fun t closed => ?_⟩
      rw [closed, Batch.ahead]
    · rintro between b' now' rest rfl stays
      -- the connection is there when the reconnect comes, which closes it at the contact before
      have known : c ∈ (u.run between).connections.keys :=
        mem_keys_run.mpr (.inl (Keyed.mem_keys_iff.mpr ⟨_, found⟩))
      have unmentioned := (List.forall_mem_append.mp m.latest).2
      rw [run_append, get?_run_reconnect known unmentioned stays, last_run, contact]

/-- A connection that was open before a sign of life and a reconnect is closed at the sign of
life. -/
theorem Table.run_reconnected_closed :
    let o : Observation := ⟨some "web", some (.v4 ⟨10, 0, 1, 1⟩),
      some (.v4 ⟨10, 0, 0, 5⟩ 443), some .tcp, some .client, none⟩
    let c : Connection := ⟨.v4 ⟨10, 0, 1, 1⟩, "web", ⟨.v4 ⟨10, 0, 0, 5⟩, 443, .tcp⟩⟩
    let calls := [Call.process ⟨.zero, [o]⟩ (.clamp 5) true, .touch (.clamp 7),
      .process ⟨.zero, []⟩ (.clamp 9) true]
    ((new "h" .zero).run calls).connections.get? c = some (.closed (.clamp 7)) := by
  intro o c calls
  have m : LastMention c calls ⟨.zero, [o]⟩ (.clamp 5) o
      [.touch (.clamp 7), .process ⟨.zero, []⟩ (.clamp 9) true] :=
    { called := ⟨[], true, rfl⟩
      names := ⟨rfl, by decide⟩
      placed := ⟨[], [], rfl, by simp⟩
      latest := by simp [Call.Mentions] }
  exact ((run_new_history "h" .zero calls).2.2.1 c _ _ o _ m).2 [.touch (.clamp 7)] _ _ [] rfl
    (by simp)

end FlowGraph.Traffic
