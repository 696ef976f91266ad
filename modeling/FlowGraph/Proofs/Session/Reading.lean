import FlowGraph.Form.Request
import FlowGraph.Proofs.Session.Framing
import Mathlib.Data.List.Forall2

/-!
# What can be read of a stream

The frames of a stream are read as values up to the first frame that cannot be read. Every stream
has such a reading (`exists_reading`), whatever the reader, and its values are those that are read
from the frames of the stream (`Reading.readable`). Of more frames no fewer values are read
(`readable_prefix`).
-/

namespace FlowGraph.Session

open Json

variable {α : Type} {read : Reader α} {frame : Bytes} {good : List Bytes} {values : List α}

/-- The frames are read as values, one by one. -/
def Gives (read : Reader α) (contents : List Bytes) (values : List α) : Prop :=
  List.Forall₂ (fun content a => decode read content = .ok a) contents values

/-- A stream is made of frames and an end that has none. The first frames are read as values, and
the one after them, if there is one, cannot be read. -/
structure Reading (read : Reader α) (stream : Bytes) (good : List Bytes) (values : List α)
    (rest : List Bytes) (tail : Bytes) : Prop where
  whole : stream = (good ++ rest).flatMap framed ++ tail
  fit : ∀ content ∈ good ++ rest, content.length ≤ maxLength
  closing : Stuck tail
  decoded : Gives read good values
  longest : ∀ frame later, rest = frame :: later → ∀ a, decode read frame ≠ .ok a

/-- The values of the frames before the first one that cannot be read. -/
def readable (read : Reader α) : List Bytes → List α
  | [] => []
  | frame :: rest =>
    match decode read frame with
    | .ok a => a :: readable read rest
    | .error _ => []

/-- A frame that can be read gives its value, and then those of the frames after it. -/
lemma readable_of_ok {a : α} (decoded : decode read frame = .ok a) (rest : List Bytes) :
    readable read (frame :: rest) = a :: readable read rest := by
  rw [readable, decoded]

/-- No value is read from a frame that cannot be read, nor from those after it. -/
lemma readable_of_error {reason : ReadError} (undecodable : decode read frame = .error reason)
    (rest : List Bytes) : readable read (frame :: rest) = [] := by
  rw [readable, undecodable]

/-- Frames that can be read give their values, and then those of the frames after them. -/
lemma Gives.readable_append (decoded : Gives read good values) (rest : List Bytes) :
    readable read (good ++ rest) = values ++ readable read rest := by
  induction decoded with
  | nil => rfl
  | cons first _ ih => rw [List.cons_append, readable_of_ok first, ih, List.cons_append]

/-- Of frames that begin with others, the values of the others are read first. -/
lemma readable_prefix (read : Reader α) (contents more : List Bytes) :
    readable read contents <+: readable read (contents ++ more) := by
  induction contents with
  | nil => exact List.nil_prefix
  | cons frame rest ih =>
    rw [List.cons_append]
    cases decoded : decode read frame with
    | ok a =>
      rw [readable_of_ok decoded, readable_of_ok decoded]
      exact List.cons_prefix_cons.mpr ⟨rfl, ih⟩
    | error reason =>
      rw [readable_of_error decoded]
      exact List.nil_prefix

/-- The frames of the beginning of a stream are the first of its frames. -/
lemma frames_append (s t : Bytes) : ∃ more, (frames (s ++ t)).1 = (frames s).1 ++ more := by
  obtain ⟨tail, whole, fit, -⟩ := exists_stuck s
  refine ⟨(frames (tail ++ t)).1, ?_⟩
  rw [← frames_flatMap_framed fit, ← List.append_assoc, ← whole]

namespace Reading

variable {stream tail : Bytes} {rest : List Bytes}

/-- The frames of a reading are the frames of the stream. -/
lemma frames (r : Reading read stream good values rest tail) :
    (frames stream).1 = good ++ rest := by
  rw [r.whole, frames_flatMap_framed r.fit, r.closing.frames, List.append_nil]

/-- There is a reason why the frame after those of a reading cannot be read. -/
lemma exists_error {later : List Bytes}
    (r : Reading read stream good values (frame :: later) tail) :
    ∃ reason, decode read frame = .error reason := by
  cases decoded : decode read frame with
  | ok a => exact absurd decoded (r.longest frame later rfl a)
  | error reason => exact ⟨reason, rfl⟩

/-- The values of a reading are those that are read from the frames of the stream. -/
lemma readable (r : Reading read stream good values rest tail) :
    readable read (Session.frames stream).1 = values := by
  rw [r.frames, r.decoded.readable_append]
  cases rest with
  | nil => exact List.append_nil values
  | cons frame later =>
    obtain ⟨reason, undecodable⟩ := r.exists_error
    rw [readable_of_error undecodable, List.append_nil]

end Reading

/-- Frames can be read up to the first one that cannot. -/
lemma exists_gives (read : Reader α) (contents : List Bytes) :
    ∃ good values rest, contents = good ++ rest ∧ Gives read good values ∧
      ∀ frame later, rest = frame :: later → ∀ a, decode read frame ≠ .ok a := by
  induction contents with
  | nil =>
    refine ⟨[], [], [], rfl, .nil, ?_⟩
    intro frame later same
    cases same
  | cons frame more ih =>
    cases decoded : decode read frame with
    | error reason =>
      refine ⟨[], [], frame :: more, rfl, .nil, ?_⟩
      intro frame' later same a given
      cases same
      rw [decoded] at given
      cases given
    | ok a =>
      obtain ⟨good, values, rest, whole, others, longest⟩ := ih
      exact ⟨frame :: good, a :: values, rest, by rw [whole, List.cons_append],
        .cons decoded others, longest⟩

/-- Every stream has a reading. -/
lemma exists_reading (read : Reader α) (stream : Bytes) :
    ∃ good values rest tail, Reading read stream good values rest tail := by
  obtain ⟨tail, whole, fit, stuck⟩ := exists_stuck stream
  obtain ⟨good, values, rest, same, decoded, longest⟩ := exists_gives read (frames stream).1
  rw [same] at whole fit
  exact ⟨good, values, rest, tail, whole, fit, stuck, decoded, longest⟩

end FlowGraph.Session
