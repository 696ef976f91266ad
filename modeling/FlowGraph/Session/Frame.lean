import FlowGraph.Json.Scan.Strings

/-!
# Frames

A stream is a sequence of frames, each behind its length in four bytes, the highest first. A frame
may have at most 32 MiB. A stream ends properly between frames, and also right after a length.
Frames are taken from the front of a stream one at a time; `frames` takes all of them.
-/

namespace FlowGraph.Session

open Json (Bytes)

/-- What can be taken from the front of a stream: a frame and what follows it, nothing before more
of the stream is there, or nothing ever because the length is too great. -/
inductive Taken where
  | frame (content rest : Bytes)
  | unfinished
  | tooLong
  deriving DecidableEq

/-- How a stream of frames ends: properly, inside a frame, or with a length that is too great. -/
inductive Ending where
  | proper
  | cut
  | tooLong
  deriving DecidableEq

/-- The greatest length of a frame. -/
def maxLength : Nat := 32 * 1024 * 1024

/-- The length that four bytes give. -/
def lengthOf (a b c d : UInt8) : Nat :=
  ((a.toNat * 256 + b.toNat) * 256 + c.toNat) * 256 + d.toNat

/-- Takes a frame from the front of a stream. -/
def takeFrame : Bytes → Taken
  | a :: b :: c :: d :: rest =>
    let n := lengthOf a b c d
    if maxLength < n then .tooLong
    else if n ≤ rest.length then .frame (rest.take n) (rest.drop n)
    else .unfinished
  | _ => .unfinished

/-- How a stream ends if these bytes are all that is left. -/
def endingOf (left : Bytes) : Ending :=
  if left.length = 0 ∨ left.length = 4 then .proper else .cut

/-- A frame that is taken makes the stream shorter. -/
theorem length_lt_of_takeFrame {s content rest : Bytes} (h : takeFrame s = .frame content rest) :
    rest.length < s.length := by
  unfold takeFrame at h
  split at h
  · next a b c d tail =>
    simp only at h
    split at h
    · cases h
    · split at h <;> cases h
      simp only [List.length_drop, List.length_cons]
      omega
  · cases h

/-- The frames of a stream in their order, and how the stream ends. -/
def frames (s : Bytes) : List Bytes × Ending :=
  match h : takeFrame s with
  | .frame content rest =>
    have := length_lt_of_takeFrame h
    let (fs, ending) := frames rest
    (content :: fs, ending)
  | .unfinished => ([], endingOf s)
  | .tooLong => ([], .tooLong)
  termination_by s.length

/-- A frame with its length in front. -/
def framed (content : Bytes) : Bytes :=
  let n := content.length
  [(n / 0x1000000).toUInt8, (n / 0x10000).toUInt8, (n / 0x100).toUInt8, n.toUInt8] ++ content

end FlowGraph.Session
