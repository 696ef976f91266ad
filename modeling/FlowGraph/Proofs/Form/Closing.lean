import FlowGraph.Proofs.Form.Batch
import FlowGraph.Proofs.Traffic.Merge

/-!
# What the close time of an element comes to

A connection that a batch speaks of is left open exactly if the last element for it has no close
time other than zero, and a close time that cannot be read is none, as much as one that is absent
(`merge_decoded`). So a connection may be left open by an element that has something else than zero
under `close_timestamp` (`exists_open_despite_close_time`).
-/

namespace FlowGraph

open Json

/-- An integer of the range is what can be read as a count of microseconds. -/
lemma Json.Value.as?_micros_eq_some_iff {v : Value} {t : Micros} :
    v.as? Reader.micros = some t ↔ v = .int t.us := by
  rw [Value.as?, toOption_eq_some_iff, Reader.micros_eq_ok]
  constructor
  · intro same
    cases v with
    | number n =>
      cases same
      rfl
    | _ => cases same
  · rintro rfl
    rfl

/-- Whether the number is zero, in whatever way it is written. -/
def Json.Number.isZero : Number → Bool
  | integer n => n == 0
  | real x => x.isZero

namespace Traffic

/-! ### Elements -/

/-- The element counts for the connection. -/
def Speaks (v : Value) (c : Connection) : Prop :=
  v.isObservation = true ∧ (Observation.ofValue v).Names c

/-- The last of the elements that counts for the connection. -/
def LastFor (items : List Value) (c : Connection) (v : Value) : Prop :=
  Speaks v c ∧ ∃ before after, items = before ++ v :: after ∧ ∀ w ∈ after, ¬ Speaks w c

/-- The close time of the element is an integer of the range, under its key or at its place. -/
def ClosesAt (v : Value) (t : Micros) : Prop := v.part? "close_timestamp" 5 = some (.int t.us)

/-- An observation has the close time that its document shows. -/
lemma closeTime_ofValue_eq_some_iff {v : Value} {t : Micros} :
    (Observation.ofValue v).closeTime = some t ↔ ClosesAt v t := by
  simp only [Observation.ofValue, Option.bind_eq_some_iff, Value.as?_micros_eq_some_iff,
    exists_eq_right, ClosesAt]

/-- Among elements some of which count for a connection there is a last one. -/
lemma exists_lastFor {items : List Value} {c : Connection} {w : Value} (mem : w ∈ items)
    (speaks : Speaks w c) : ∃ v, LastFor items c v := by
  induction items generalizing w with
  | nil => cases mem
  | cons u rest ih =>
    -- if nothing after the first element counts, then the first is the last
    by_cases later : ∃ x ∈ rest, Speaks x c
    · obtain ⟨x, there, speaks⟩ := later
      obtain ⟨v, counts, before, after, rfl, silent⟩ := ih there speaks
      exact ⟨v, counts, u :: before, after, rfl, silent⟩
    · have silent : ∀ x ∈ rest, ¬ Speaks x c := by simpa using later
      obtain rfl | there := List.mem_cons.mp mem
      · exact ⟨w, speaks, [], rest, rfl, silent⟩
      · exact absurd speaks (silent w there)

/-! ### The observations of elements -/

section

variable {items : List Value} {b : Batch} {c : Connection}
  (read : b.observations = (items.filter Value.isObservation).map Observation.ofValue)

include read

/-- The last element for a connection gives the last observation that names it. -/
lemma last?_of_lastFor {v : Value} (last : LastFor items c v) :
    b.last? c = some (.ofValue v) := by
  obtain ⟨⟨shape, names⟩, before, after, rfl, silent⟩ := last
  refine Batch.last?_eq_some_iff.mpr ⟨names, (before.filter Value.isObservation).map .ofValue,
    (after.filter Value.isObservation).map .ofValue, ?_, ?_⟩
  · rw [read, List.filter_append, List.filter_cons_of_pos shape, List.map_append, List.map_cons]
  · intro o mem
    obtain ⟨w, kept, rfl⟩ := List.mem_map.mp mem
    obtain ⟨there, whole⟩ := List.mem_filter.mp kept
    exact fun names => silent w there ⟨whole, names⟩

/-- Where no element is the last for a connection, no observation names it. -/
lemma unnamed_of_not_lastFor (unset : ∀ v, ¬ LastFor items c v) :
    ∀ o ∈ b.observations, ¬ o.Names c := by
  intro o mem names
  rw [read] at mem
  obtain ⟨w, kept, rfl⟩ := List.mem_map.mp mem
  obtain ⟨there, whole⟩ := List.mem_filter.mp kept
  obtain ⟨v, last⟩ := exists_lastFor there ⟨whole, names⟩
  exact unset v last

end

/-- From a text that a batch is read from, the elements of the batch, and what they come to. What
no element counts for stays as it was, or is closed at the last contact before a pause; and what
some element counts for has the close time of the last one, or is open if this has no close time
other than zero that can be read. -/
theorem merge_decoded {s : Bytes} {b : Batch} (read : decode Batch.reader s = .ok b) :
    ∃ items, Batch.Written (Document.scan s).root b.time items ∧
      ∀ (t : Table) (now : Micros) (first : Bool) (c : Connection),
        ((∀ v, ¬ LastFor items c v) →
          (t.merge b now first).connections.get? c =
            if first then (t.connections.get? c).map fun _ => .closed t.last
              else t.connections.get? c) ∧
        ∀ v, LastFor items c v →
          ((t.merge b now first).connections.get? c = some .stillOpen ↔
            ∀ u, ClosesAt v u → u = .zero) ∧
          ∀ u, ClosesAt v u → u ≠ .zero →
            (t.merge b now first).connections.get? c =
              some (.closed (u.shift (now.since b.time))) := by
  obtain ⟨root, -⟩ := decode_eq_ok.mp read
  obtain ⟨items, written, -, observed⟩ := Batch.reader_eq_ok.mp root
  refine ⟨items, written, fun t now first c => ⟨fun unset => ?_, fun v last => ?_⟩⟩
  · exact Table.get?_merge_of_unnamed (unnamed_of_not_lastFor observed unset) t now first
  · have entry := Table.get?_merge_of_last (last?_of_lastFor observed last) t now first
    rw [entry, Option.some.injEq, evidence_eq_stillOpen_iff]
    refine ⟨?_, fun u closes nonzero => ?_⟩
    · exact forall_congr' fun u => by rw [closeTime_ofValue_eq_some_iff]
    · rw [evidence_of_closeTime (closeTime_ofValue_eq_some_iff.mpr closes) nonzero, Batch.ahead]

/-- An element for a connection of a container, with something for its close time. -/
def elementOf (container : String) (closeTime : Value) : Value :=
  .array [.string container, .string "1.2.3.4", .string "5.6.7.8:9", .string "TCP",
    .string "Client", closeTime]

/-- The connection of which such an element speaks. -/
def connectionOf (container : String) : Connection :=
  ⟨.v4 ⟨1, 2, 3, 4⟩, container, ⟨.v4 ⟨5, 6, 7, 8⟩, 9, .tcp⟩⟩

/-- Two elements, the first of which has a word for its close time. -/
def misreadElements : List Value :=
  [elementOf "web" (.string "yesterday"), elementOf "db" (.int 50)]

/-- A text of these elements in a batch. -/
def misreadText : Bytes := bytesOfText <|
  "[100,[[\"web\",\"1.2.3.4\",\"5.6.7.8:9\",\"TCP\",\"Client\",\"yesterday\"]," ++
    "[\"db\",\"1.2.3.4\",\"5.6.7.8:9\",\"TCP\",\"Client\",50]]]"

/-- The batch that comes of the text. -/
def misreadBatch : Batch := ⟨.clamp 100, misreadElements.map .ofValue⟩

/-- The text is decoded, although a close time in it is none. -/
lemma decode_misreadText : decode Batch.reader misreadText = .ok misreadBatch := by cbv

/-- What stands in the text are the two elements under their time. -/
lemma root_misreadText :
    (Document.scan misreadText).root = (Value.array [.int 100, .array misreadElements]).draft := by
  cbv

/-- The first element is the last one for its connection, since the other one speaks of another. -/
lemma lastFor_misread :
    LastFor misreadElements (connectionOf "web") (elementOf "web" (.string "yesterday")) := by
  refine ⟨⟨by cbv, by cbv, by cbv⟩, [], [elementOf "db" (.int 50)], rfl, fun w mem speaks => ?_⟩
  have other : (Observation.ofValue (elementOf "db" (.int 50))).connection? =
      some (connectionOf "db") := by cbv
  obtain rfl := List.mem_singleton.mp mem
  exact absurd (other.symm.trans speaks.2.2) (by decide)

/-- In whatever table the batch comes to, the one connection is open and the other is closed. -/
theorem merge_decoded_misread : decode Batch.reader misreadText = .ok misreadBatch ∧
    ∀ (t : Table) (first : Bool),
      (t.merge misreadBatch (.clamp 200) first).connections.get? (connectionOf "web") =
        some .stillOpen ∧
      (t.merge misreadBatch (.clamp 200) first).connections.get? (connectionOf "db") =
        some (.closed (.clamp 150)) := by
  obtain ⟨items, written, comes⟩ := merge_decoded decode_misreadText
  rw [root_misreadText, Batch.written_draft_iff] at written
  obtain rfl := written.elements_unique (.pair (.clamp 100) _)
  refine ⟨decode_misreadText, fun t first => ⟨?_, ?_⟩⟩
  · obtain ⟨openIff, -⟩ := (comes t (.clamp 200) first _).2 _ lastFor_misread
    refine openIff.mpr fun u closes => ?_
    cases closes
  · have last : LastFor misreadElements (connectionOf "db") (elementOf "db" (.int 50)) :=
      ⟨⟨by cbv, by cbv, by cbv⟩, [_], [], rfl, List.forall_mem_nil _⟩
    obtain ⟨-, closed⟩ := (comes t (.clamp 200) first _).2 _ last
    exact closed (.clamp 50) rfl (by decide)

/-- An entry may be open although its element has something else than null or a zero for the close
time. -/
theorem exists_open_despite_close_time :
    ¬ ∀ (s : Bytes) (b : Batch) (items : List Value), decode Batch.reader s = .ok b →
      Batch.Written (Document.scan s).root b.time items →
      ∀ (t : Table) (now : Micros) (first : Bool) (c : Connection) (v : Value),
        LastFor items c v → (t.merge b now first).connections.get? c = some .stillOpen →
        ∀ w, v.part? "close_timestamp" 5 = some w →
          w = .null ∨ ∃ n : Number, w = .number n ∧ n.isZero = true := by
  intro zero
  have written : Batch.Written (Document.scan misreadText).root misreadBatch.time
      misreadElements := by
    rw [root_misreadText, Batch.written_draft_iff]
    exact .pair (.clamp 100) _
  have entry : ((Table.new "h" .zero).merge misreadBatch .zero false).connections.get?
      (connectionOf "web") = some .stillOpen := by cbv
  obtain null | ⟨n, number, -⟩ := zero misreadText misreadBatch _ decode_misreadText written
    (.new "h" .zero) .zero false _ _ lastFor_misread entry (.string "yesterday") rfl
  · cases null
  · cases number

end Traffic

end FlowGraph
