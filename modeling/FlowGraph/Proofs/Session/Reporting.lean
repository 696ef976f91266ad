import FlowGraph.Proofs.Engine.Registry
import FlowGraph.Proofs.Session.Reading
import FlowGraph.Session.Collector

/-!
# What a collector's session does

A stream of bytes is read as requests up to the first frame that is no request (`Reading`), and what
a session does to the engine is said by these requests alone: nothing if they do not start with a
greeting, and else the registration and one batch after the other, of which the first is marked as
the first. `Collector.session_effect` says so for every stream.
-/

namespace FlowGraph

open Json Traffic

/-- The batches of a session taken into the table under a handle, where only the first may mark the
start of the session. -/
def Engine.processAll (e : Engine) (h : Handle) (first : Bool) : List (Micros × Batch) → Engine
  | [] => e
  | (now, b) :: rest => (e.process h b now first).processAll h false rest

namespace Session

/-- Requests with the times at which they are taken. -/
def timed (clock : Nat → Micros) (requests : List Request) : List (Micros × Request) :=
  requests.mapIdx fun i request => (clock i, request)

/-- The batches among requests, each with its time. -/
def reports (requests : List (Micros × Request)) : List (Micros × Batch) :=
  requests.filterMap fun
    | (now, .update b) => some (now, b)
    | (_, .hello _) => none

/-- The first request is taken at the first time, and the others at those after it. -/
lemma timed_cons (clock : Nat → Micros) (request : Request) (rest : List Request) :
    timed clock (request :: rest) = (clock 0, request) :: timed (fun i => clock (i + 1)) rest :=
  List.mapIdx_cons

namespace Collector

variable {ending : Ending} {e : Engine} {h : Handle} {first : Bool} {now : Micros}
  {frame : Bytes} {rest : List (Micros × Bytes)}

/-- A batch of a session is taken into its table. -/
lemma run_update {b : Batch} (decoded : decode Request.reader frame = .ok (.update b)) :
    (run ending e (.reporting h first) ((now, frame) :: rest)).1 =
      (run ending (e.process h b now first) (.reporting h false) rest).1 := by
  simp only [run, receive, decoded, step]

/-- A further greeting leaves the session and the engine as they are. -/
lemma run_hello {name : String} (decoded : decode Request.reader frame = .ok (.hello name)) :
    (run ending e (.reporting h first) ((now, frame) :: rest)).1 =
      (run ending e (.reporting h first) rest).1 := by
  simp only [run, receive, decoded, step]

/-- A frame that is no request ends the session and leaves the engine as it is. -/
lemma run_error {phase : Phase} {reason : ReadError}
    (undecodable : decode Request.reader frame = .error reason) :
    (run ending e phase ((now, frame) :: rest)).1 = e := by
  rw [run, receive, undecodable]

/-- A session that has its table takes its batches into it, up to the first frame that is no
request. -/
lemma run_reporting (e : Engine) (first : Bool) (clock : Nat → Micros) (contents : List Bytes) :
    (run ending e (.reporting h first) (contents.mapIdx fun i f => (clock i, f))).1 =
      e.processAll h first (reports (timed clock (readable Request.reader contents))) := by
  -- the mark is cleared by the first batch, and the times move on with every frame
  induction contents generalizing e first clock with
  | nil => rfl
  | cons frame more ih =>
    rw [List.mapIdx_cons]
    cases read : decode Request.reader frame with
    | error reason =>
      rw [run_error read, readable_of_error read]
      rfl
    | ok request =>
      rw [readable_of_ok read, timed_cons]
      cases request with
      | hello name => exact (run_hello read).trans (ih ..)
      | update b => exact (run_update read).trans (ih ..)

/-- A session that starts with a greeting registers the name and takes the batches. -/
lemma run_greeting (e : Engine) (clock : Nat → Micros) {host : String} {frame : Bytes}
    (decoded : decode Request.reader frame = .ok (.hello host)) (more : List Bytes) :
    (run ending e .greeting ((frame :: more).mapIdx fun i f => (clock i, f))).1 =
      (e.register host (clock 0)).1.processAll (e.register host (clock 0)).2.1 true
        (reports (timed (fun i => clock (i + 1)) (readable Request.reader more))) := by
  simp only [List.mapIdx_cons, run, receive, decoded, step]
  exact run_reporting ..

/-- A session has its table after its first batch. -/
lemma exists_table_after_greeting (reachable : e.Reachable) (host : String) (now now' : Micros)
    (b : Batch) :
    ∃ t, ((e.register host now).1.process (e.register host now).2.1 b now' true).table?
      (e.register host now).2.1 = some t := by
  obtain ⟨t, there⟩ := Engine.exists_table_register reachable.sound host now
  rw [Engine.process, Engine.table?_update, if_pos rfl, there]
  exact ⟨_, rfl⟩

/-- Right after the first batch of a session every connection of the table that the batch does not
name is closed at the greeting. -/
lemma closed_at_greeting {e : Engine} {host : String} {now now' : Micros} {b : Batch} {t : Table}
    (found : ((e.register host now).1.process (e.register host now).2.1 b now' true).table?
      (e.register host now).2.1 = some t) {c : Connection} (known : c ∈ t.connections.keys)
    (unnamed : ∀ o ∈ b.observations, ¬ o.Names c) :
    t.connections.get? c = some (.closed now) := by
  rw [Engine.process, Engine.table?_update, if_pos rfl, Option.map_eq_some_iff] at found
  obtain ⟨u, there, rfl⟩ := found
  obtain ⟨ts, had⟩ := Keyed.mem_keys_iff.mp known
  rw [Table.get?_merge_of_unnamed unnamed, if_pos rfl] at had ⊢
  rw [Option.map_eq_some_iff] at had
  obtain ⟨us, before, -⟩ := had
  rw [before, Option.map_some, Engine.last_register there]

/-- Every stream has a reading, and a session does to the engine what the requests of the reading
say: nothing if they do not start with a greeting, and else the registration, and one batch after
the other into the table, the first of which closes everything that it does not name. -/
theorem session_effect (e : Engine) (clock : Nat → Micros) (stream : Bytes) :
    (∃ good requests rest tail, Reading Request.reader stream good requests rest tail) ∧
    (∀ good requests rest tail, Reading Request.reader stream good requests rest tail →
      (requests = [] → (session e clock stream).1 = e) ∧
      (∀ b more, requests = .update b :: more → (session e clock stream).1 = e) ∧
      ∀ host more, requests = .hello host :: more →
        let r := e.register host (clock 0)
        let batches := reports (timed (fun i => clock (i + 1)) more)
        (session e clock stream).1 = r.1.processAll r.2.1 true batches ∧
        ∀ now b later, batches = (now, b) :: later →
          (e.Reachable → ∃ t, (r.1.process r.2.1 b now true).table? r.2.1 = some t) ∧
          ∀ t, (r.1.process r.2.1 b now true).table? r.2.1 = some t →
            ∀ c ∈ t.connections.keys, (∀ o ∈ b.observations, ¬ o.Names c) →
              t.connections.get? c = some (.closed (clock 0))) ∧
    (∀ ending f h first now name frame later,
      decode Request.reader frame = .ok (.hello name) →
      (run ending f (.reporting h first) ((now, frame) :: later)).1 =
        (run ending f (.reporting h first) later).1) := by
  refine ⟨exists_reading Request.reader stream, fun good requests rest tail reading => ?_,
    fun ending f h first now name frame later => run_hello⟩
  have read := reading.readable
  have unfolded : session e clock stream = run (frames stream).2 e .greeting
      ((frames stream).1.mapIdx fun i f => (clock i, f)) := rfl
  rw [unfolded]
  generalize (frames stream).1 = contents at read
  cases contents with
  | nil =>
    cases read
    refine ⟨fun _ => rfl, ?_, ?_⟩
    · rintro - - ⟨⟩
    · rintro - - ⟨⟩
  | cons frame more =>
    cases decoded : decode Request.reader frame with
    | error reason =>
      rw [readable_of_error decoded] at read
      subst read
      refine ⟨fun _ => ?_, ?_, ?_⟩
      · rw [List.mapIdx_cons, run_error decoded]
      · rintro - - ⟨⟩
      · rintro - - ⟨⟩
    | ok request =>
      rw [readable_of_ok decoded] at read
      subst read
      refine ⟨?_, fun b others same => ?_, fun host others same => ?_⟩
      · rintro ⟨⟩
      · cases same
        simp only [List.mapIdx_cons, run, receive, decoded, step]
      · cases same
        exact ⟨run_greeting e clock decoded more, fun now b later _ =>
          ⟨fun reachable => exists_table_after_greeting reachable host (clock 0) now b,
            fun t found c known unnamed => closed_at_greeting found known unnamed⟩⟩

end Collector

end Session

end FlowGraph
