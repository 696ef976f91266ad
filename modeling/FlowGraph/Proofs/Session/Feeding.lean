import FlowGraph.Proofs.Json.Reading
import FlowGraph.Proofs.Session.Reading
import FlowGraph.Session.Feed
import Mathlib

/-!
# What an entity feed does

The frames of a stream are read as lists of objects up to the first one that is no such list
(`Reading`). A session leaves the directory of the last of these lists, and the directory that
was there before if there is none; what comes after has no part in it (`Feed.session_directory`).
One object that cannot be read is enough for a frame to be no list of objects.
-/

namespace FlowGraph.Session

open Json Entity

namespace Feed

variable {ending ending' : Ending} {d : Directory} {stream tail frame : Bytes}
  {good rest : List Bytes} {lists : List (List Object)}

/-! ### The steps of a session -/

/-- The directory after some lists of objects, each of which replaces what was there. -/
def after (d : Directory) : List (List Object) → Directory
  | [] => d
  | objects :: more => after (.ofObjects objects) more

/-- After some lists of objects the directory is that of the last one. -/
lemma after_concat (d : Directory) (earlier : List (List Object)) (objects : List Object) :
    after d (earlier ++ [objects]) = .ofObjects objects := by
  induction earlier generalizing d with
  | nil => rfl
  | cons first more ih => exact ih (.ofObjects first)

/-- Nothing of two lists is ever put together. -/
lemma after_eq_or (d : Directory) (lists : List (List Object)) :
    after d lists = d ∨ ∃ objects ∈ lists, after d lists = .ofObjects objects := by
  rcases List.eq_nil_or_concat lists with rfl | ⟨earlier, objects, rfl⟩
  · exact .inl rfl
  · exact .inr ⟨objects, by simp, by rw [List.concat_eq_append, after_concat]⟩

/-- A frame that is a list of objects replaces the directory, and the session goes on. -/
lemma run_ok {objects : List Object} (decoded : decode Object.listReader frame = .ok objects) :
    (run ending d (frame :: rest)).1 = (run ending (.ofObjects objects) rest).1 ∧
      (run ending d (frame :: rest)).2.2 = (run ending (.ofObjects objects) rest).2.2 := by
  rw [run, decoded]
  exact ⟨rfl, rfl⟩

/-- A frame that is no list of objects ends the session and leaves the directory as it is. -/
lemma run_error {reason : ReadError}
    (undecodable : decode Object.listReader frame = .error reason) :
    run ending d (frame :: rest) = (d, [], some (.frame reason)) := by
  rw [run, undecodable]

/-- Frames that are lists of objects replace the directory one after the other. -/
lemma run_append (decoded : Gives Object.listReader good lists) (d : Directory)
    (rest : List Bytes) :
    (run ending d (good ++ rest)).1 = (run ending (after d lists) rest).1 ∧
      (run ending d (good ++ rest)).2.2 = (run ending (after d lists) rest).2.2 := by
  induction decoded generalizing d with
  | nil => exact ⟨rfl, rfl⟩
  | cons first _ ih =>
    rw [List.cons_append, (run_ok first).1, (run_ok first).2]
    exact ih _

/-- What follows a frame that is no list of objects has no effect, nor has the end of the
stream. -/
lemma run_undecodable {reason : ReadError}
    (undecodable : decode Object.listReader frame = .error reason) (d : Directory)
    (good later later' : List Bytes) :
    run ending d (good ++ frame :: later) = run ending' d (good ++ frame :: later') := by
  induction good generalizing d with
  | nil => rw [List.nil_append, List.nil_append, run_error undecodable, run_error undecodable]
  | cons first more ih =>
    rw [List.cons_append, List.cons_append, run, run]
    cases decode Object.listReader first with
    | error _ => rfl
    | ok objects => simp only [ih]

/-- A frame is no list of objects if it has an item that is no object. -/
lemma decode_ne_ok {ds : List Draft} {stop : ListStop} {o : Draft}
    (root : (Document.scan frame).root = .array ds stop) (mem : o ∈ ds)
    (broken : ∀ object, Object.reader (.text 126) o ≠ .ok object) (objects : List Object) :
    decode Object.listReader frame ≠ .ok objects := by
  intro decoded
  obtain ⟨read, -⟩ := decode_eq_ok.mp decoded
  rw [root] at read
  obtain ⟨inside, object, into, given⟩ := Reader.exists_of_list_eq_ok read mem
  cases into
  exact broken object given

/-! ### Readings -/

/-- A session leaves the directory that the lists of the reading make. -/
lemma directory_of_reading (r : Reading Object.listReader stream good lists rest tail)
    (d : Directory) : (session d stream).1 = after d lists := by
  rw [session, r.frames, (run_append r.decoded d rest).1]
  cases rest with
  | nil => rfl
  | cons frame later =>
    obtain ⟨reason, undecodable⟩ := r.exists_error
    rw [run_error undecodable]

/-- While a stream is received, the directory is the one from before or that of one list. -/
lemma directory_of_prefix (r : Reading Object.listReader stream good lists rest tail)
    (d : Directory) {start : Bytes} (begins : start <+: stream) : (session d start).1 = d ∨
      ∃ objects ∈ lists, (session d start).1 = .ofObjects objects := by
  obtain ⟨end', rfl⟩ := begins
  obtain ⟨good', lists', rest', tail', s⟩ := exists_reading Object.listReader start
  obtain ⟨more, same⟩ := frames_append start end'
  have part : lists' <+: lists := by
    rw [← s.readable, ← r.readable, same]
    exact readable_prefix ..
  rw [directory_of_reading s]
  rcases after_eq_or d lists' with before | ⟨objects, mem, last⟩
  · exact .inl before
  · exact .inr ⟨objects, part.subset mem, last⟩

/-- Every stream has a reading. A session leaves the directory as it was if the reading has no list,
and else the directory of its last list alone; and while the stream is received, it is never more
than the directory of one list. The frame after the lists ends the session, and what follows it is
without effect. One item that is no object keeps a frame from being a list. -/
theorem session_directory (d : Directory) (stream : Bytes) :
    (∃ good lists rest tail, Reading Object.listReader stream good lists rest tail) ∧
    (∀ good lists rest tail, Reading Object.listReader stream good lists rest tail →
      (lists = [] → (session d stream).1 = d) ∧
      (∀ earlier objects, lists = earlier ++ [objects] →
        (session d stream).1 = .ofObjects objects) ∧
      (∀ start, start <+: stream → (session d start).1 = d ∨
        ∃ objects ∈ lists, (session d start).1 = .ofObjects objects) ∧
      ∀ frame later, rest = frame :: later →
        (∃ reason, decode Object.listReader frame = .error reason ∧
          (session d stream).2.2 = some (.frame reason)) ∧
        ∀ other, session d ((good ++ [frame]).flatMap framed ++ other) = session d stream) ∧
    ∀ frame ds stop o, (Document.scan frame).root = .array ds stop → o ∈ ds →
      (∀ object, Object.reader (.text 126) o ≠ .ok object) →
      ∀ objects, decode Object.listReader frame ≠ .ok objects := by
  refine ⟨exists_reading Object.listReader stream, ?_, fun frame ds stop o => decode_ne_ok⟩
  intro good lists rest tail r
  refine ⟨?_, ?_, fun start => directory_of_prefix r d, ?_⟩
  · rintro rfl
    exact directory_of_reading r d
  · rintro earlier objects rfl
    rw [directory_of_reading r d, after_concat]
  · rintro frame later rfl
    have fit : ∀ content ∈ good ++ [frame], content.length ≤ maxLength := by
      intro content mem
      have there : content ∈ good ++ frame :: later := by
        rw [List.append_cons]
        exact List.mem_append_left later mem
      exact r.fit content there
    obtain ⟨reason, undecodable⟩ := r.exists_error
    refine ⟨⟨reason, undecodable, ?_⟩, fun other => ?_⟩
    · rw [session, r.frames, (run_append r.decoded d _).2, run_error undecodable]
    · rw [session, session, r.frames, frames_flatMap_framed fit, List.append_assoc,
        List.singleton_append]
      exact run_undecodable undecodable d good _ later

/-- A pod with a container. -/
def podObjects : List Object :=
  [.pod ⟨"p", "n", "w", .pod (.v4 ⟨10, 0, 0, 1⟩), [⟨"x", "c", []⟩]⟩]

/-- The pod as a text. -/
def podText : String :=
  "[\"Pod\",\"p\",\"n\",\"w\",\x7b\"kind\":\"Pod\",\"ip\":\"10.0.0.1\"\x7d,[[\"x\",\"c\"]]]"

/-- A frame of the pod, all of it in ASCII. -/
def podFrame : Bytes := ("[" ++ podText ++ "]").toList.map byte

/-- The pod again, and then one without its parts. -/
def brokenFrame : Bytes := ("[" ++ podText ++ ",[\"Pod\"]]").toList.map byte

/-- A frame of no objects. -/
def emptyFrame : Bytes := "[]".toList.map byte

/-- The three frames, one after the other. -/
def brokenStream : Bytes := [podFrame, brokenFrame, emptyFrame].flatMap framed

set_option maxRecDepth 1024 in
/-- The broken frame is the first one that is no list of objects. -/
lemma reading_brokenStream :
    Reading Object.listReader brokenStream [podFrame] [podObjects] [brokenFrame, emptyFrame]
      [] where
  whole := (List.append_nil _).symm
  fit := by
    have pod : podFrame.length ≤ maxLength := by cbv
    have broken : brokenFrame.length ≤ maxLength := by cbv
    have empty : emptyFrame.length ≤ maxLength := by cbv
    exact List.forall_mem_cons.mpr ⟨pod, List.forall_mem_cons.mpr ⟨broken,
      List.forall_mem_cons.mpr ⟨empty, List.forall_mem_nil _⟩⟩⟩
  closing := .ended
  decoded := by
    -- evaluating a text takes equations of byte arrays that only the whole of Mathlib brings in
    have decoded : decode Object.listReader podFrame = .ok podObjects := by cbv
    exact .cons decoded .nil
  longest := by
    have undecodable : (decode Object.listReader brokenFrame).toOption = none := by cbv
    intro frame later same objects decoded
    cases same
    rw [decoded] at undecodable
    cases undecodable

/-- Whatever was there before, the pod of the first frame is there in the end, and its workload is
what is answered for its container, although an empty list comes after the broken frame. The pod has
no ports, so no endpoint is served any more. -/
theorem session_directory_broken :
    Reading Object.listReader brokenStream [podFrame] [podObjects] [brokenFrame, emptyFrame] [] ∧
      ∀ d, (session d brokenStream).1 = .ofObjects podObjects ∧
        (session d brokenStream).1.workload? "c" = some "w" ∧
        (∀ e, (session d brokenStream).1.lookups e = []) ∧
        ∃ reason, (session d brokenStream).2.2 = some (.frame reason) := by
  refine ⟨reading_brokenStream, fun d => ?_⟩
  obtain ⟨-, left, -⟩ := session_directory d brokenStream
  obtain ⟨-, last, -, ends⟩ := left _ _ _ _ reading_brokenStream
  obtain ⟨⟨reason, -, failed⟩, -⟩ := ends brokenFrame [emptyFrame] rfl
  have directory := last [] podObjects rfl
  have workload : (Directory.ofObjects podObjects).workload? "c" = some "w" := by decide
  have lookups : ∀ e, (Directory.ofObjects podObjects).lookups e = [] := fun _ => rfl
  refine ⟨directory, ?_, fun e => ?_, reason, failed⟩
  · rw [directory, workload]
  · rw [directory, lookups]

end Feed

end FlowGraph.Session
