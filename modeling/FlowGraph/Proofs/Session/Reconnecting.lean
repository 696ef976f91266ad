import FlowGraph.Proofs.Engine.Registry
import FlowGraph.Proofs.Traffic.History
import FlowGraph.Session.Collector
import Mathlib.Logic.Function.Basic

/-!
# Collectors that come again

Any number of sessions talk to one engine, their requests in any order (`Server.run`). To the table
of one host this is a list of calls (`Server.calls`): a sign of life for each greeting with its
name, and a batch for each report of a session that greeted so. When a collector comes again, the
first batch of the new session closes what it does not name at the last of these calls, and that is
the greeting itself unless another session of the host is heard after it.
-/

namespace FlowGraph.Session

open Traffic Journal

/-- A request of a session, taken at a time of the engine's clock. -/
structure Arrival where
  session : Nat
  now : Micros
  request : Request

/-- An engine with the sessions that talk to it, each as far as it is; one that failed is over. -/
structure Server where
  engine : Engine
  phase : Nat → Option Collector.Phase

namespace Server

/-- The server on which no session has greeted yet. -/
def idle (e : Engine) : Server := ⟨e, fun _ => some .greeting⟩

/-- The server after a request. -/
def take (s : Server) (a : Arrival) : Server :=
  match s.phase a.session with
  | none => s
  | some phase =>
    match Collector.step a.now s.engine phase a.request with
    | .ok (next, phase) => ⟨next, Function.update s.phase a.session (some phase)⟩
    | .error _ => { s with phase := Function.update s.phase a.session none }

/-- The server after some requests. -/
def run (s : Server) (as : List Arrival) : Server := as.foldl take s

/-- What a request asks of the table of a host. -/
def call? (host : String) (s : Server) (a : Arrival) : Option Call :=
  match s.phase a.session, a.request with
  | some .greeting, .hello name => if name = host then some (.touch a.now) else none
  | some (.reporting h first), .update b =>
    if s.engine.registry.get? host = some h then some (.process b a.now first) else none
  | _, _ => none

/-- What some requests ask of the table of a host, in their order. -/
def calls (host : String) : Server → List Arrival → List Call
  | _, [] => []
  | s, a :: rest => (s.call? host a).toList ++ calls host (s.take a) rest

/-- Requests are taken one after the other. -/
lemma run_append (s : Server) (xs ys : List Arrival) : s.run (xs ++ ys) = (s.run xs).run ys :=
  List.foldl_append

/-- The first request leads to where the others begin. -/
lemma run_cons (s : Server) (a : Arrival) (rest : List Arrival) :
    s.run (a :: rest) = (s.take a).run rest := rfl

/-! ### One request -/

variable {s : Server} {a : Arrival} {host name : String} {h : Handle} {first : Bool} {b : Batch}

/-- The requests that change the engine: greetings, and batches of sessions that have greeted. All
others leave the engine alone and ask nothing of any table. -/
lemma take_cases (s : Server) (a : Arrival) :
    (∃ name, s.phase a.session = some .greeting ∧ a.request = .hello name ∧
      s.take a = ⟨(s.engine.register name a.now).1, Function.update s.phase a.session
        (some (.reporting (s.engine.register name a.now).2.1 true))⟩) ∨
    (∃ h first b, s.phase a.session = some (.reporting h first) ∧ a.request = .update b ∧
      s.take a = ⟨s.engine.process h b a.now first,
        Function.update s.phase a.session (some (.reporting h false))⟩) ∨
    ((s.take a).engine = s.engine ∧ (∀ host, s.call? host a = none) ∧
      ∀ h first, s.phase a.session = some (.reporting h first) →
        (s.take a).phase a.session = some (.reporting h first)) := by
  obtain ⟨i, now, request⟩ := a
  cases phase : s.phase i with
  | none => exact .inr (.inr ⟨by simp [take, phase], by simp [call?, phase], by simp⟩)
  | some p =>
    cases p with
    | greeting =>
      cases request with
      | hello name => exact .inl ⟨name, rfl, rfl, by simp [take, phase, Collector.step]⟩
      | update b =>
        exact .inr (.inr ⟨by simp [take, phase, Collector.step], by simp [call?, phase], by simp⟩)
    | reporting h first =>
      cases request with
      | hello name =>
        refine .inr (.inr ⟨by simp [take, phase, Collector.step], by simp [call?, phase], ?_⟩)
        intro k mark same
        rw [← same]
        simp [take, phase, Collector.step]
      | update b =>
        exact .inr (.inl ⟨h, first, b, rfl, rfl, by simp [take, phase, Collector.step]⟩)

/-- A request is taken in its own session only. -/
lemma phase_take_of_ne {i : Nat} (other : i ≠ a.session) : (s.take a).phase i = s.phase i := by
  rw [take]
  split
  · rfl
  · split
    · exact Function.update_of_ne other ..
    · exact Function.update_of_ne other ..

/-- A request keeps the engine sound. -/
lemma sound_take (sound : s.engine.Sound) (a : Arrival) : (s.take a).engine.Sound := by
  obtain ⟨name, -, -, taken⟩ | ⟨h, first, b, -, -, taken⟩ | ⟨same, -, -⟩ := take_cases s a
  · rw [taken]
    exact sound.register name a.now
  · rw [taken]
    exact sound.update h _
  · rwa [same]

/-- A registered name keeps its handle. -/
lemma registry_take (found : s.engine.registry.get? host = some h) (a : Arrival) :
    (s.take a).engine.registry.get? host = some h := by
  obtain ⟨name, -, -, taken⟩ | ⟨k, first, b, -, -, taken⟩ | ⟨same, -, -⟩ := take_cases s a
  · rw [taken, Engine.register_eq_touch, Engine.touch, Engine.registry_update,
      Engine.registry_enroll]
    split
    · next same =>
      subst same
      rw [Engine.enroll_of_known found]
    · exact found
  · rw [taken]
    exact found
  · rwa [same]

/-- The table of a host takes the call that a request makes, and is else left as it is. -/
lemma named_take {t : Table} (sound : s.engine.Sound) (found : s.engine.named host = some t)
    (a : Arrival) :
    (s.take a).engine.named host = some (t.run (s.call? host a).toList) := by
  obtain ⟨name, phase, request, taken⟩ | ⟨h, first, b, phase, request, taken⟩ | ⟨same, silent, -⟩ :=
    take_cases s a
  · have entered : (s.engine.enroll name a.now).1.registry.get? name =
        some (s.engine.enroll name a.now).2 := by
      rw [Engine.registry_enroll, if_pos rfl]
    rw [taken, Engine.register_eq_touch, Engine.touch,
      Engine.named_update (sound.enroll name a.now) entered, Engine.named_enroll sound, call?,
      phase, request]
    by_cases own : name = host
    · subst own
      simp [found, Table.run, Table.call]
    · simp [own, Ne.symm own, found, Table.run]
  · rw [taken, Engine.process, call?, phase, request]
    by_cases own : s.engine.registry.get? host = some h
    · rw [Engine.named_update sound own, found]
      simp [own, Table.run, Table.call]
    · -- the batch goes to the table of another host
      have apart : (s.engine.update h (·.merge b a.now first)).named host =
          s.engine.named host := by
        rw [Engine.named, Engine.registry_update, Engine.named]
        cases entry : s.engine.registry.get? host with
        | none => rfl
        | some k =>
          have differs : k ≠ h := by
            rintro rfl
            exact own entry
          rw [Option.bind_some, Option.bind_some, Engine.table?_update, if_neg differs]
      rw [apart, found]
      simp [own, Table.run]
  · rw [same, found, silent]
    rfl

/-! ### Any number of requests -/

/-- Any number of requests keep the engine sound. -/
lemma sound_run (sound : s.engine.Sound) (as : List Arrival) : (s.run as).engine.Sound := by
  induction as generalizing s with
  | nil => exact sound
  | cons a rest ih => exact ih (sound_take sound a)

/-- A registered name keeps its handle, however many requests come. -/
lemma registry_run (found : s.engine.registry.get? host = some h) (as : List Arrival) :
    (s.run as).engine.registry.get? host = some h := by
  induction as generalizing s with
  | nil => exact found
  | cons a rest ih => exact ih (registry_take found a)

/-- The table of a host takes the calls that the requests make. -/
lemma named_run {t : Table} (sound : s.engine.Sound) (found : s.engine.named host = some t)
    (as : List Arrival) : (s.run as).engine.named host = some (t.run (s.calls host as)) := by
  induction as generalizing s t with
  | nil => exact found
  | cons a rest ih =>
    rw [run_cons, ih (sound_take sound a) (named_take sound found a), calls, Table.run_append]

/-- A session that sends no batch keeps its table and still marks its next batch as the first. -/
lemma reporting_run {i : Nat} (phase : s.phase i = some (.reporting h first)) {as : List Arrival}
    (silent : ∀ a ∈ as, a.session = i → ∀ b, a.request ≠ .update b) :
    (s.run as).phase i = some (.reporting h first) := by
  induction as generalizing s with
  | nil => exact phase
  | cons a rest ih =>
    rw [List.forall_mem_cons] at silent
    refine ih ?_ silent.2
    by_cases own : i = a.session
    · subst own
      obtain ⟨name, greeting, -, -⟩ | ⟨k, mark, b, -, request, -⟩ | ⟨-, -, stays⟩ := take_cases s a
      · rw [phase] at greeting
        cases greeting
      · exact absurd request (silent.1 rfl b)
      · exact stays h first phase
    · rw [phase_take_of_ne own, phase]

/-- Each call comes at the time of a request. -/
lemma exists_arrival_of_mem_calls {as : List Arrival} {x : Call} (mem : x ∈ s.calls host as) :
    ∃ a ∈ as, a.now = x.time := by
  induction as generalizing s with
  | nil => cases mem
  | cons a rest ih =>
    rcases List.mem_append.mp mem with here | later
    · rw [Option.mem_toList] at here
      refine ⟨a, List.mem_cons_self, ?_⟩
      obtain ⟨name, phase, request, -⟩ | ⟨k, mark, b, phase, request, -⟩ | ⟨-, silent, -⟩ :=
        take_cases s a
      · rw [call?, phase, request, Option.ite_none_right_eq_some] at here
        obtain ⟨-, same⟩ := here
        cases same
        rfl
      · rw [call?, phase, request, Option.ite_none_right_eq_some] at here
        obtain ⟨-, same⟩ := here
        cases same
        rfl
      · rw [silent] at here
        cases here
    · obtain ⟨y, there, time⟩ := ih later
      exact ⟨y, List.mem_cons_of_mem a there, time⟩

/-- A session that has greeted and sends no batch is not heard by its table. -/
lemma calls_of_silent {i : Nat} (phase : s.phase i = some (.reporting h first))
    {as : List Arrival} (alone : ∀ a ∈ as, a.session = i)
    (silent : ∀ a ∈ as, a.session = i → ∀ b, a.request ≠ .update b) : s.calls host as = [] := by
  induction as generalizing s with
  | nil => rfl
  | cons a rest ih =>
    rw [List.forall_mem_cons] at alone silent
    obtain ⟨rfl, alone⟩ := alone
    obtain ⟨quiet, silent⟩ := silent
    obtain ⟨name, greeting, -, -⟩ | ⟨k, mark, b, -, request, -⟩ | ⟨-, nothing, stays⟩ :=
      take_cases s a
    · rw [phase] at greeting
      cases greeting
    · exact absurd request (quiet rfl b)
    · rw [calls, nothing, ih (stays h first phase) alone silent]
      rfl

end Server

/-! ### The first batch of a new session -/

/-- A run in which a session of a host begins and sends its first batch. -/
structure Resumption where
  host : String
  before : List Arrival
  session : Nat
  greeted : Micros
  between : List Arrival
  reported : Micros
  batch : Batch

namespace Resumption

/-- The request with which the session begins. -/
def greeting (r : Resumption) : Arrival := ⟨r.session, r.greeted, .hello r.host⟩

/-- The first batch of the session. -/
def report (r : Resumption) : Arrival := ⟨r.session, r.reported, .update r.batch⟩

/-- All requests of the run. -/
def arrivals (r : Resumption) : List Arrival :=
  r.before ++ r.greeting :: (r.between ++ [r.report])

/-- The server when the session begins. -/
def start (r : Resumption) (e : Engine) : Server := (Server.idle e).run r.before

/-- The server when the session has greeted. -/
def met (r : Resumption) (e : Engine) : Server := (r.start e).take r.greeting

/-- Times do not decrease along the run, the session has not greeted before, and it sends no batch
before its first. -/
structure Valid (r : Resumption) (e : Engine) : Prop where
  ordered : r.arrivals.Pairwise fun x y => x.now ≤ y.now
  greets : (r.start e).phase r.session = some .greeting
  silent : ∀ a ∈ r.between, a.session = r.session → ∀ b, a.request ≠ .update b

/-- The connection is open in the table of the host when the session begins, and the first batch
does not name it. -/
structure Stale (r : Resumption) (e : Engine) (c : Connection) : Prop where
  wasOpen : ∃ t, (r.start e).engine.named r.host = some t ∧
    t.connections.get? c = some .stillOpen
  unnamed : ∀ o ∈ r.batch.observations, ¬ o.Names c

/-- The time of the last batch among the calls of a table. -/
def lastBatch? (calls : List Call) : Option Micros :=
  (calls.filterMap fun
    | .process _ now _ => some now
    | .touch _ => none).getLast?

/-- The table of the host has the connection as closed at a time after the run. -/
def ClosedAt (r : Resumption) (e : Engine) (c : Connection) (t : Micros) : Prop :=
  ∃ u, ((Server.idle e).run r.arrivals).engine.named r.host = some u ∧
    u.connections.get? c = some (.closed t)

variable {r : Resumption} {e : Engine} {c : Connection}

/-- After the greeting the session has the table of the host, which was just heard of. -/
lemma met_reporting (v : r.Valid e) (sound : e.Sound) {t : Table}
    (found : (r.start e).engine.named r.host = some t) :
    ∃ h, (r.met e).phase r.session = some (.reporting h true) ∧
      (r.met e).engine.registry.get? r.host = some h ∧
      (r.met e).engine.named r.host = some (t.touch r.greeted) := by
  have started : (r.start e).engine.Sound := Server.sound_run sound r.before
  have named := Server.named_take started found r.greeting
  obtain ⟨name, -, request, taken⟩ | ⟨h, first, b, phase, -, -⟩ | ⟨-, silent, -⟩ :=
    Server.take_cases (r.start e) r.greeting
  · cases request
    refine ⟨((r.start e).engine.register r.host r.greeted).2.1, ?_, ?_, ?_⟩
    · rw [met, taken]
      exact Function.update_self ..
    · rw [met, taken, Engine.register_eq_touch, Engine.touch, Engine.registry_update,
        Engine.registry_enroll, if_pos rfl, Engine.handle_register]
      rfl
    · rw [met, named, Server.call?, greeting, v.greets]
      simp [Table.run, Table.call]
  · rw [greeting, v.greets] at phase
    cases phase
  · have asked := silent r.host
    rw [Server.call?, greeting, v.greets] at asked
    simp at asked

/-- The first batch closes a stale connection at the last call that the table had. -/
lemma closedAt_last_call (v : r.Valid e) (sound : e.Sound) (st : r.Stale e c) :
    r.ClosedAt e c (lastTime r.greeted ((r.met e).calls r.host r.between)) := by
  obtain ⟨t, found, isOpen⟩ := st.wasOpen
  obtain ⟨h, phase, entered, named⟩ := met_reporting v sound found
  have metSound : (r.met e).engine.Sound :=
    Server.sound_take (Server.sound_run sound r.before) r.greeting
  have reporting := Server.reporting_run phase v.silent
  have registered := Server.registry_run entered r.between
  have asked : ((r.met e).run r.between).call? r.host r.report =
      some (.process r.batch r.reported true) := by
    rw [Server.call?, report, reporting]
    simp [registered]
  have whole : (Server.idle e).run r.arrivals = ((r.met e).run r.between).take r.report := by
    rw [arrivals, Server.run_append, Server.run_cons, Server.run_append]
    rfl
  have last := Server.named_take (Server.sound_run metSound r.between)
    (Server.named_run metSound named r.between) r.report
  rw [asked] at last
  refine ⟨_, whole ▸ last, ?_⟩
  have known : c ∈ ((t.touch r.greeted).run
      ((r.met e).calls r.host r.between)).connections.keys :=
    Table.mem_keys_run.mpr (.inl (Keyed.mem_keys_iff.mpr ⟨_, isOpen⟩))
  -- the batch is all that is left to run
  have unmentioned : ∀ x ∈ [Call.process r.batch r.reported true], ¬ x.Mentions c := by
    rw [List.forall_mem_singleton, Call.not_mentions_process]
    exact st.unnamed
  rw [Option.toList_some, Table.get?_run_reconnect known unmentioned (by simp), Table.last_run]
  rfl

/-- The last call of a run is not before the greeting and not after the first batch. -/
lemma lastTime_between (v : r.Valid e) :
    r.greeted ≤ lastTime r.greeted ((r.met e).calls r.host r.between) ∧
      lastTime r.greeted ((r.met e).calls r.host r.between) ≤ r.reported := by
  have ordered := v.ordered
  rw [arrivals, List.pairwise_append, List.pairwise_cons, List.pairwise_append] at ordered
  obtain ⟨-, ⟨after, -, -, until_⟩, -⟩ := ordered
  rw [lastTime]
  cases last : ((r.met e).calls r.host r.between).getLast? with
  | none =>
    have ended := after r.report (List.mem_append_right _ (List.mem_singleton_self _))
    exact ⟨Int.le_refl _, ended⟩
  | some x =>
    obtain ⟨a, there, time⟩ := Server.exists_arrival_of_mem_calls (List.mem_of_getLast? last)
    rw [Option.map_some, Option.getD_some, ← time]
    exact ⟨after a (List.mem_append_left _ there),
      until_ a there r.report (List.mem_singleton_self _)⟩

/-- When a session of a host begins, its first batch closes every connection that was open and that
it does not name, at the time of the last greeting or batch before it that the table of the host
was told of. That is the greeting of the session, unless another session is heard in between. -/
theorem closed_at_last_contact (reachable : e.Reachable) (v : r.Valid e) (st : r.Stale e c) :
    ∃ t, r.ClosedAt e c t ∧ t = lastTime r.greeted ((r.met e).calls r.host r.between) ∧
      r.greeted ≤ t ∧ t ≤ r.reported ∧
      ((∀ a ∈ r.between, a.session = r.session) → t = r.greeted) := by
  obtain ⟨later, sooner⟩ := lastTime_between v
  refine ⟨_, closedAt_last_call v reachable.sound st, rfl, later, sooner, fun alone => ?_⟩
  obtain ⟨t, found, -⟩ := st.wasOpen
  obtain ⟨h, phase, -, -⟩ := met_reporting v reachable.sound found
  rw [Server.calls_of_silent phase alone v.silent]
  rfl

/-- A collector that reports a connection at 200 us, is not heard for a while, and comes again at
500 us with a batch that does not name the connection. -/
def afterSilence : Resumption where
  host := "h"
  before := [⟨0, .clamp 100, .hello "h"⟩, ⟨0, .clamp 200, .update ⟨.clamp 200, [⟨some "web",
    some (.v4 ⟨10, 0, 1, 1⟩), some (.v4 ⟨10, 0, 0, 5⟩ 443), some .tcp, some .client, none⟩]⟩⟩]
  session := 1
  greeted := .clamp 500
  between := []
  reported := .clamp 600
  batch := ⟨.clamp 600, []⟩

/-- The connection that is reported before the silence. -/
def reportedOnce : Connection := ⟨.v4 ⟨10, 0, 1, 1⟩, "web", ⟨.v4 ⟨10, 0, 0, 5⟩, 443, .tcp⟩⟩

/-- The requests are in the order of their times, and the new session has nothing before and between
its own two. -/
lemma afterSilence_valid : afterSilence.Valid (.new ⟨1⟩ none) where
  ordered := by decide
  greets := rfl
  silent := by simp [afterSilence]

/-- The connection was open when the session began, and the batch does not name it. -/
lemma afterSilence_stale : afterSilence.Stale (.new ⟨1⟩ none) reportedOnce where
  wasOpen := ⟨_, rfl, rfl⟩
  unnamed := by simp [afterSilence]

/-- The connection is closed at the greeting of the new session, after the silence. -/
theorem closed_at_last_contact_after_silence :
    afterSilence.Valid (.new ⟨1⟩ none) ∧ afterSilence.Stale (.new ⟨1⟩ none) reportedOnce ∧
      afterSilence.ClosedAt (.new ⟨1⟩ none) reportedOnce (.clamp 500) := by
  obtain ⟨t, closed, -, -, -, alone⟩ :=
    closed_at_last_contact (.new ⟨1⟩ none) afterSilence_valid afterSilence_stale
  have greeted : t = .clamp 500 := alone (by simp [afterSilence])
  exact ⟨afterSilence_valid, afterSilence_stale, greeted ▸ closed⟩

/-- A stale connection may be closed later than at the last batch before its session: a greeting is
a contact, too. -/
theorem exists_closed_after_last_batch :
    ¬ ∀ (period : Period) (sink : Option Sink) (r : Resumption) (c : Connection),
      r.Valid (.new period sink) → r.Stale (.new period sink) c →
      (∀ a ∈ r.arrivals, ∀ name, a.request = .hello name → name = r.host) →
      ∃ t, r.ClosedAt (.new period sink) c t ∧
        ∀ last, lastBatch? ((Server.idle (.new period sink)).calls r.host r.before) = some last →
          t ≤ last := by
  intro bound
  obtain ⟨t, ⟨u, there, closed⟩, early⟩ :=
    bound ⟨1⟩ none afterSilence reportedOnce afterSilence_valid afterSilence_stale
      (by simp [afterSilence, arrivals, greeting, report])
  have early : t ≤ .clamp 200 := early (.clamp 200) rfl
  cases there
  cases closed
  exact absurd early (by decide)

end Resumption

end FlowGraph.Session
