import FlowGraph.Proofs.Json.Row
import Mathlib

/-!
# What batches are read from

A batch is read strictly, and the observations in it are not. `decode_batch_iff` says for every
document which batch is read from it, if one is: the time must be there once and be an integer of
the range (`Header`), every element that has the shape of an observation gives one, and each part of
an observation is what is read from its own value, without regard to anything else
(`Observation.ofValue`).
-/

namespace FlowGraph

open Json

namespace Json.Value

/-- What an observation takes for a field: the last value of the key in an object, or the item at
the place of the field in an array. -/
def part? (name : String) (place : Nat) : Value → Option Value
  | object ms => (valuesAt name ms).getLast?
  | array items => items[place]?
  | _ => none

/-- An observation is read from objects, and from arrays with no more items than it has parts. -/
def isObservation : Value → Bool
  | object _ => true
  | array items => items.length ≤ 6
  | _ => false

end Json.Value

namespace Traffic

/-- The observation that a document gives: each part is read by itself, or missing. -/
def Observation.ofValue (v : Value) : Observation where
  container := (v.part? "container_id" 0).bind (·.as? Reader.string)
  localAddress := (v.part? "local_address" 1).bind (·.as? Reader.address)
  remote := (v.part? "remote_address" 2).bind (·.as? Reader.socket)
  protocol := (v.part? "protocol" 3).bind (·.as? Net.Protocol.reader)
  role := (v.part? "role" 4).bind (·.as? Role.reader)
  closeTime := (v.part? "close_timestamp" 5).bind (·.as? Reader.micros)

/-- The document is a batch with a time and some elements: an object that has the time once and the
elements at most once, or an array of the time and, if there are more items, the elements. -/
inductive Batch.Header : Value → Micros → List Value → Prop where
  | object {ms : List (String × Value)} {time : Micros} {items : List Value} :
    valuesAt "time" ms = [.int time.us] → valuesAt "updated" ms = [.array items] →
      Header (.object ms) time items
  | timeOnly {ms : List (String × Value)} {time : Micros} :
    valuesAt "time" ms = [.int time.us] → valuesAt "updated" ms = [] → Header (.object ms) time []
  | pair (time : Micros) (items : List Value) :
    Header (.array [.int time.us, .array items]) time items
  | single (time : Micros) : Header (.array [.int time.us]) time []

end Traffic

/-! ### Rows of parts that may be of no use -/

namespace Json.Row

variable {α σ τ : Type} {name : String} {read : Reader α} {rest : Row σ τ} {b : Option α} {t : τ}

/-- A part is read from the last value of its key. -/
lemma reads_lenient_iff {ms : List (String × Value)} :
    (field name read.lenient (some none) rest).Reads .document
        (Value.draftMembers (lastOfEach (Value.settledMembers ms))) (b, t) ↔
      b = (valuesAt name ms).getLast?.bind (·.as? read) ∧
        rest.Reads .document (Value.draftMembers (lastOfEach (Value.settledMembers ms))) t := by
  -- settling comes before reading, so that no key is met twice
  have last : draftsAt name (Value.draftMembers (lastOfEach (Value.settledMembers ms))) =
      ((valuesAt name ms).getLast?.map (·.settled.draft)).toList := by
    rw [Value.draftsAt_draftMembers, valuesAt_lastOfEach, Value.settledMembers_eq, valuesAt_map,
      List.getLast?_map]
    cases (valuesAt name ms).getLast? <;> rfl
  rw [Reads, last]
  refine and_congr_left fun _ => ?_
  cases (valuesAt name ms).getLast? with
  | none =>
    constructor
    · rintro ⟨a, slot, given⟩
      cases slot
      cases given
      rfl
    · rintro rfl
      exact ⟨none, .blank, rfl⟩
  | some v =>
    have here := Value.lenient_settled read v
    constructor
    · rintro ⟨a, slot, given⟩
      cases slot with
      | filled found =>
        rw [here] at found
        cases found
        cases given
        rfl
    · rintro rfl
      exact ⟨_, .filled here, rfl⟩

/-- A part is read from the item at its place. -/
lemma listed_lenient_iff {items : List Value} {place : Nat} :
    (field name read.lenient (some none) rest).Listed .document (b, t)
        ((items.drop place).map (·.settled.draft)) ↔
      b = items[place]?.bind (·.as? read) ∧
        rest.Listed .document t ((items.drop (place + 1)).map (·.settled.draft)) := by
  rw [← List.tail_drop, ← List.head?_drop]
  cases items.drop place with
  | nil =>
    simp only [List.map_nil, Listed, Option.some.injEq, List.head?_nil, Option.bind_none,
      List.tail_nil, eq_comm]
  | cons v more =>
    simp only [List.map_cons, Listed, Value.lenient_settled, Except.ok.injEq, List.head?_cons,
      Option.bind_some, List.tail_cons, eq_comm]

end Json.Row

namespace Traffic

/-! ### Observations -/

namespace Observation

/-- The parts of an observation as its row has them. -/
def parts (o : Observation) : Option String × Option Net.Address × Option Net.SocketAddress ×
    Option Net.Protocol × Option Role × Option Micros × Unit :=
  (o.container, o.localAddress, o.remote, o.protocol, o.role, o.closeTime, ())

/-- An observation is read as its parts. -/
lemma reader_eq_ok_iff_row {src : Source} {d : Draft} {o : Observation} :
    reader src d = .ok o ↔ row.read "struct Record" src d = .ok o.parts := by
  rw [reader, Row.readAs, map_eq_ok]
  constructor
  · rintro ⟨t, given, rfl⟩
    exact given
  · intro given
    exact ⟨_, given, rfl⟩

/-- In an object that was settled each part has one value left, the last one. -/
lemma reads_settledMembers_iff {ms : List (String × Value)} {o : Observation} :
    row.Reads .document (Value.draftMembers (lastOfEach (Value.settledMembers ms))) o.parts ↔
      o = ofValue (.object ms) := by
  obtain ⟨container, localAddress, remote, protocol, role, closeTime⟩ := o
  simp only [parts, row, Row.reads_lenient_iff]
  simp only [Row.Reads, and_true, ofValue, Value.part?, Observation.mk.injEq]

/-- In an array that was settled each part has the item at its place, and there are six places. -/
lemma listed_settledItems_iff {items : List Value} {o : Observation} :
    row.Listed .document o.parts (items.map fun v => v.settled.draft) ↔
      items.length ≤ 6 ∧ o = ofValue (.array items) := by
  obtain ⟨container, localAddress, remote, protocol, role, closeTime⟩ := o
  have start : items.map (fun v => v.settled.draft) =
      (items.drop 0).map fun v => v.settled.draft := rfl
  rw [start]
  simp only [parts, row, Row.listed_lenient_iff, Row.Listed, List.map_eq_nil_iff,
    List.drop_eq_nil_iff, ofValue, Value.part?, Observation.mk.injEq]
  tauto

/-- Which observation is read from a document, if one is. -/
theorem reader_eq_ok {v : Value} {o : Observation} :
    reader .document v.settled.draft = .ok o ↔ v.isObservation = true ∧ o = ofValue v := by
  have distinct : row.names.Nodup := by decide
  rw [reader_eq_ok_iff_row]
  cases v with
  | object ms =>
    rw [Value.settled, Value.draft, Row.read_object_eq_ok distinct]
    constructor
    · rintro ⟨-, -, inside, into, given⟩
      cases into
      exact ⟨rfl, reads_settledMembers_iff.mp given⟩
    · rintro ⟨-, given⟩
      exact ⟨rfl, fun m mem => Row.admits_draftMembers row mem, .document, rfl,
        reads_settledMembers_iff.mpr given⟩
  | array items =>
    rw [Value.settled, Value.draft, Value.settledItems_eq, Value.draftItems_eq, List.map_map,
      Row.read_array_eq_ok, Value.isObservation, decide_eq_true_iff, ← listed_settledItems_iff]
    constructor
    · rintro ⟨-, inside, into, given⟩
      cases into
      exact given
    · intro given
      exact ⟨rfl, .document, rfl, given⟩
  | _ =>
    constructor
    · intro given
      obtain ⟨ms, stop, same⟩ | ⟨ds, stop, same⟩ := Row.object_or_array_of_read given
      · cases same
      · cases same
    · rintro ⟨⟨⟩, -⟩

/-- What comes of trying the elements of a batch. -/
def attempts (items : List Value) : List (Except ReadError Observation) :=
  items.map fun v => reader .document v.settled.draft

/-- The elements are tried one after the other. -/
lemma attempts_cons (v : Value) (rest : List Value) :
    attempts (v :: rest) = reader .document v.settled.draft :: attempts rest := rfl

/-- The observations that are read from some elements, each by itself. -/
lemma filterMap_attempts (items : List Value) :
    (attempts items).filterMap Except.toOption =
      (items.filter Value.isObservation).map ofValue := by
  induction items with
  | nil => rfl
  | cons v rest ih =>
    rw [attempts_cons, List.filterMap_cons, List.filter_cons, ih]
    by_cases shape : v.isObservation = true
    · rw [if_pos shape, reader_eq_ok.mpr ⟨shape, rfl⟩]
      rfl
    · have refused : (reader .document v.settled.draft).toOption = none := by
        rw [Option.eq_none_iff_forall_ne_some]
        intro o given
        exact shape (reader_eq_ok.mp (toOption_eq_some_iff.mp given)).1
      rw [if_neg shape, refused]

/-- Elements are tried if they are whole documents, and then each of them by itself. -/
lemma attempt_list_eq_ok {src : Source} {d : Draft}
    {as : List (Except ReadError Observation)} :
    attempt.list src d = .ok as ↔ ∃ items inside, d = (Value.array items).draft ∧
      src.inside = .ok inside ∧ (∀ v ∈ items, v.Fits inside.room) ∧ as = attempts items := by
  have one : ∀ inside d a, attempt inside d = .ok a ↔ ∃ v : Value, d = v.draft ∧
      v.Fits inside.room ∧ a = reader .document v.settled.draft := by
    intro inside d a
    simp only [attempt, bind_eq_ok, pure_eq_ok, Reader.value_eq_ok]
    constructor
    · rintro ⟨v, whole, rfl⟩
      exact ⟨v, Draft.eq_draft_of_strict whole, Value.fits_of_strict whole, rfl⟩
    · rintro ⟨v, rfl, fits, rfl⟩
      exact ⟨v, fits, rfl⟩
  simp only [Reader.list_eq_ok, one]
  constructor
  · rintro ⟨ds, inside, rfl, into, each⟩
    suffices ∃ items : List Value, ds = items.map Value.draft ∧
        (∀ v ∈ items, v.Fits inside.room) ∧ as = attempts items by
      obtain ⟨items, rfl, fit, rfl⟩ := this
      exact ⟨items, inside, by rw [Value.draft, Value.draftItems_eq], into, fit, rfl⟩
    -- the elements are put together along with the attempts
    induction each with
    | nil => exact ⟨[], rfl, List.forall_mem_nil _, rfl⟩
    | cons first _ ih =>
      obtain ⟨v, rfl, fits, rfl⟩ := first
      obtain ⟨items, rfl, fit, rfl⟩ := ih
      exact ⟨v :: items, rfl, List.forall_mem_cons.mpr ⟨fits, fit⟩, rfl⟩
  · rintro ⟨items, inside, rfl, into, fit, rfl⟩
    refine ⟨items.map Value.draft, inside, by rw [Value.draft, Value.draftItems_eq], into, ?_⟩
    rw [List.forall₂_map_left_iff, attempts, List.forall₂_map_right_iff, List.forall₂_same]
    exact fun v mem => ⟨v, rfl, fit v mem, rfl⟩

end Observation

/-! ### Batches -/

namespace Batch

/-- A batch is read as its time and the attempts to read its elements. -/
lemma reader_eq_ok_iff_row {src : Source} {d : Draft} {b : Batch} :
    reader src d = .ok b ↔ ∃ attempts, row.read "struct Info" src d = .ok (b.time, attempts, ()) ∧
      b.observations = attempts.filterMap Except.toOption := by
  rw [reader, Row.readAs, map_eq_ok]
  constructor
  · rintro ⟨⟨time, attempts, ⟨⟩⟩, given, rfl⟩
    exact ⟨attempts, given, rfl⟩
  · rintro ⟨attempts, given, same⟩
    obtain ⟨time, observations⟩ := b
    cases same
    exact ⟨_, given, rfl⟩

/-- A time is given by the only member, if it is an integer of the range. -/
lemma slot_time_iff {src : Source} {ds : List Draft} {time : Micros} :
    (∃ a, Slot (Reader.micros src) ds a ∧ a.or none = some time) ↔
      ds = [(Value.int time.us).draft] := by
  constructor
  · rintro ⟨a, slot, given⟩
    cases slot with
    | blank => cases given
    | filled found =>
      cases given
      rw [Reader.micros_eq_ok.mp found]
      rfl
  · rintro rfl
    exact ⟨some time, .filled (Reader.micros_eq_ok.mpr rfl), rfl⟩

/-- Elements are given by the only member, if it is an array of whole documents; there are none if
there is no member. -/
lemma slot_attempts_iff (src : Source) {ds : List Draft}
    {as : List (Except ReadError Observation)} :
    (∃ a, Slot (Observation.attempt.list src) ds a ∧ a.or (some []) = some as) ↔
      (ds = [] ∧ as = []) ∨ ∃ items inside, ds = [(Value.array items).draft] ∧
        src.inside = .ok inside ∧ (∀ v ∈ items, v.Fits inside.room) ∧
        as = Observation.attempts items := by
  constructor
  · rintro ⟨a, slot, given⟩
    cases slot with
    | blank =>
      cases given
      exact .inl ⟨rfl, rfl⟩
    | filled found =>
      cases given
      obtain ⟨items, inside, rfl, into, fit, rfl⟩ := Observation.attempt_list_eq_ok.mp found
      exact .inr ⟨items, inside, rfl, into, fit, rfl⟩
  · rintro (⟨rfl, rfl⟩ | ⟨items, inside, rfl, into, fit, rfl⟩)
    · exact ⟨none, .blank, rfl⟩
    · have found := Observation.attempt_list_eq_ok.mpr ⟨items, inside, rfl, into, fit, rfl⟩
      exact ⟨_, .filled found, rfl⟩

/-- What is read from an object: its time, and the attempts to read its elements. The elements are
two levels deep in the text. -/
lemma row_read_object {ms : List (Key × Draft)} {stop : ObjectStop} {time : Micros}
    {as : List (Except ReadError Observation)} :
    row.read "struct Info" .top (.object ms stop) = .ok (time, as, ()) ↔
      stop = .closed ∧ (∀ m ∈ ms, row.Admits m) ∧
      draftsAt "time" ms = [(Value.int time.us).draft] ∧
      ((draftsAt "updated" ms = [] ∧ as = []) ∨
        ∃ items, draftsAt "updated" ms = [(Value.array items).draft] ∧
          (∀ v ∈ items, v.Fits (some 125)) ∧ as = Observation.attempts items) := by
  have distinct : row.names.Nodup := by decide
  rw [Row.read_object_eq_ok distinct]
  constructor
  · rintro ⟨ends, admitted, inside, into, given⟩
    cases into
    simp only [row, Row.Reads, slot_time_iff, slot_attempts_iff, and_true] at given
    obtain ⟨time, ⟨missing, rfl⟩ | ⟨items, inside, updated, into, fit, rfl⟩⟩ := given
    · exact ⟨ends, admitted, time, .inl ⟨missing, rfl⟩⟩
    · cases into
      exact ⟨ends, admitted, time, .inr ⟨items, updated, fit, rfl⟩⟩
  · rintro ⟨ends, admitted, time, ⟨missing, rfl⟩ | ⟨items, updated, fit, rfl⟩⟩
    · have elements := (slot_attempts_iff (.text 126)).mpr (.inl ⟨missing, rfl⟩)
      exact ⟨ends, admitted, .text 126, rfl, slot_time_iff.mpr time, elements, trivial⟩
    · have elements := (slot_attempts_iff (.text 126)).mpr
        (.inr ⟨items, .text 125, updated, rfl, fit, rfl⟩)
      exact ⟨ends, admitted, .text 126, rfl, slot_time_iff.mpr time, elements, trivial⟩

/-- What is read from an array: its first item is the time, and the second has the elements. -/
lemma row_read_array {ds : List Draft} {stop : ListStop} {time : Micros}
    {as : List (Except ReadError Observation)} :
    row.read "struct Info" .top (.array ds stop) = .ok (time, as, ()) ↔
      stop = .closed ∧ ((ds = [(Value.int time.us).draft] ∧ as = []) ∨
        ∃ items, ds = [(Value.int time.us).draft, (Value.array items).draft] ∧
          (∀ v ∈ items, v.Fits (some 125)) ∧ as = Observation.attempts items) := by
  rw [Row.read_array_eq_ok]
  constructor
  · rintro ⟨ends, inside, into, given⟩
    cases into
    obtain _ | ⟨d, _ | ⟨e, _ | ⟨f, rest⟩⟩⟩ := ds
    · cases given.1
    · obtain ⟨first, absent, -⟩ := given
      rw [Reader.micros_eq_ok] at first
      cases absent
      exact ⟨ends, .inl ⟨congrArg (· :: []) first, rfl⟩⟩
    · obtain ⟨first, second, -⟩ := given
      rw [Reader.micros_eq_ok] at first
      obtain ⟨items, inside, rfl, into, fit, rfl⟩ := Observation.attempt_list_eq_ok.mp second
      cases into
      exact ⟨ends, .inr ⟨items, congrArg (· :: _) first, fit, rfl⟩⟩
    · cases given.2.2
  · rintro ⟨ends, ⟨rfl, rfl⟩ | ⟨items, rfl, fit, rfl⟩⟩
    · exact ⟨ends, .text 126, rfl, Reader.micros_eq_ok.mpr rfl, rfl, rfl⟩
    · have into : (Source.text 126).inside = .ok (.text 125) := rfl
      have second := Observation.attempt_list_eq_ok.mpr ⟨items, .text 125, rfl, into, fit, rfl⟩
      exact ⟨ends, .text 126, rfl, Reader.micros_eq_ok.mpr rfl, second, rfl⟩

/-- If there is one draft, and it is that of a document, there is this one document. -/
lemma map_draft_eq_singleton_iff {vs : List Value} {w : Value} :
    vs.map Value.draft = [w.draft] ↔ vs = [w] := by
  rw [← List.map_singleton, Value.map_draft_injective.eq_iff]

/-- The draft is that of a batch with a time and some elements. What stands under other keys may be
broken, as long as it can be passed over. -/
inductive Written : Draft → Micros → List Value → Prop where
  | object {ms : List (Key × Draft)} {time : Micros} {items : List Value} :
    (∀ m ∈ ms, row.Admits m) → draftsAt "time" ms = [(Value.int time.us).draft] →
      draftsAt "updated" ms = [(Value.array items).draft] →
      Written (.object ms .closed) time items
  | timeOnly {ms : List (Key × Draft)} {time : Micros} :
    (∀ m ∈ ms, row.Admits m) → draftsAt "time" ms = [(Value.int time.us).draft] →
      draftsAt "updated" ms = [] → Written (.object ms .closed) time []
  | pair (time : Micros) (items : List Value) :
    Written (.array [(Value.int time.us).draft, (Value.array items).draft] .closed) time items
  | single (time : Micros) : Written (.array [(Value.int time.us).draft] .closed) time []

/-- Which batch is read from a draft, if one is. -/
theorem reader_eq_ok {d : Draft} {b : Batch} :
    reader .top d = .ok b ↔ ∃ items, Written d b.time items ∧ (∀ v ∈ items, v.Fits (some 125)) ∧
      b.observations = (items.filter Value.isObservation).map Observation.ofValue := by
  rw [reader_eq_ok_iff_row]
  constructor
  · rintro ⟨as, given, read⟩
    obtain ⟨ms, stop, rfl⟩ | ⟨ds, stop, rfl⟩ := Row.object_or_array_of_read given
    · obtain ⟨rfl, admitted, time, ⟨missing, rfl⟩ | ⟨items, updated, fit, rfl⟩⟩ :=
        row_read_object.mp given
      · exact ⟨[], .timeOnly admitted time missing, List.forall_mem_nil _, read⟩
      · rw [Observation.filterMap_attempts] at read
        exact ⟨items, .object admitted time updated, fit, read⟩
    · obtain ⟨rfl, ⟨rfl, rfl⟩ | ⟨items, rfl, fit, rfl⟩⟩ := row_read_array.mp given
      · exact ⟨[], .single b.time, List.forall_mem_nil _, read⟩
      · rw [Observation.filterMap_attempts] at read
        exact ⟨items, .pair b.time items, fit, read⟩
  · obtain ⟨time, observations⟩ := b
    rintro ⟨items, written, fit, rfl⟩
    cases written with
    | object admitted time updated =>
      refine ⟨_, row_read_object.mpr ⟨rfl, admitted, time, .inr ⟨items, updated, fit, rfl⟩⟩, ?_⟩
      exact (Observation.filterMap_attempts items).symm
    | timeOnly admitted time missing =>
      exact ⟨[], row_read_object.mpr ⟨rfl, admitted, time, .inl ⟨missing, rfl⟩⟩, rfl⟩
    | pair time items =>
      refine ⟨_, row_read_array.mpr ⟨rfl, .inr ⟨items, rfl, fit, rfl⟩⟩, ?_⟩
      exact (Observation.filterMap_attempts items).symm
    | single time => exact ⟨[], row_read_array.mpr ⟨rfl, .inl ⟨rfl, rfl⟩⟩, rfl⟩

/-- What a document has for a batch stands in its draft, too. -/
lemma Header.written {v : Value} {time : Micros} {items : List Value}
    (header : Header v time items) : Written v.draft time items := by
  cases header with
  | object time updated =>
    refine .object (fun m mem => Row.admits_draftMembers row mem) ?_ ?_
    · rw [Value.draftsAt_draftMembers, time]
      rfl
    · rw [Value.draftsAt_draftMembers, updated]
      rfl
  | timeOnly time missing =>
    refine .timeOnly (fun m mem => Row.admits_draftMembers row mem) ?_ ?_
    · rw [Value.draftsAt_draftMembers, time]
      rfl
    · rw [Value.draftsAt_draftMembers, missing]
      rfl
  | pair time items => exact .pair time items
  | single time => exact .single time

/-- In a whole document that is what the document itself has. -/
lemma written_draft_iff {v : Value} {time : Micros} {items : List Value} :
    Written v.draft time items ↔ Header v time items := by
  refine ⟨fun written => ?_, Header.written⟩
  generalize same : v.draft = d at written
  cases written with
  | object _ time updated =>
    cases v with
    | object ms =>
      cases same
      rw [Value.draftsAt_draftMembers, map_draft_eq_singleton_iff] at time updated
      exact .object time updated
    | _ => cases same
  | timeOnly _ time missing =>
    cases v with
    | object ms =>
      cases same
      rw [Value.draftsAt_draftMembers, map_draft_eq_singleton_iff] at time
      rw [Value.draftsAt_draftMembers, List.map_eq_nil_iff] at missing
      exact .timeOnly time missing
    | _ => cases same
  -- an array is the draft of one document only
  | pair time items =>
    have whole : v.draft = (Value.array [.int time.us, .array items]).draft := same
    rw [Value.draft_injective whole]
    exact .pair time items
  | single time =>
    have whole : v.draft = (Value.array [.int time.us]).draft := same
    rw [Value.draft_injective whole]
    exact .single time

/-- A document has one list of elements. -/
lemma Header.elements_unique {v : Value} {time time' : Micros} {items items' : List Value}
    (header : Header v time items) (header' : Header v time' items') : items = items' := by
  cases header with
  | object _ updated =>
    cases header' with
    | object _ updated' =>
      cases updated.symm.trans updated'
      rfl
    | timeOnly _ missing => cases updated.symm.trans missing
  | timeOnly _ missing =>
    cases header' with
    | object _ updated' => cases missing.symm.trans updated'
    | timeOnly _ _ => rfl
  | pair time items =>
    generalize same : Value.array [Value.int time.us, .array items] = w at header'
    cases header' with
    | pair _ _ =>
      simp only [Value.array.injEq, List.cons.injEq] at same
      exact same.2.1
    | single _ => simp at same
    | _ => cases same
  | single time =>
    generalize same : Value.array [Value.int time.us] = w at header'
    cases header' with
    | pair _ _ => simp at same
    | single _ => rfl
    | _ => cases same

/-- The elements of a document lie two levels deeper than the document. -/
lemma Header.fit {v : Value} {time : Micros} {items : List Value} (header : Header v time items)
    (fits : v.Fits (some 127)) : ∀ w ∈ items, w.Fits (some 125) := by
  cases header with
  | @object ms _ _ _ updated =>
    obtain ⟨inside, into, members⟩ := Value.fits_object_iff.mp fits
    cases into
    have there : ("updated", Value.array items) ∈ ms := mem_of_mem_valuesAt (by simp [updated])
    obtain ⟨inside, into, each⟩ := Value.fits_array_iff.mp (members _ there)
    cases into
    exact each
  | timeOnly _ _ => exact List.forall_mem_nil _
  | pair time items =>
    obtain ⟨inside, into, parts⟩ := Value.fits_array_iff.mp fits
    cases into
    obtain ⟨inside, into, each⟩ := Value.fits_array_iff.mp (parts (.array items) (by simp))
    cases into
    exact each
  | single time => exact List.forall_mem_nil _

end Batch

end Traffic

end FlowGraph
