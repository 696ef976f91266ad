import FlowGraph.Session.Frame
import Mathlib.Tactic.Lemma

/-!
# Framing

What is framed is taken as it was, whatever follows it (`takeFrame_framed`), so the frames of framed
contents are these contents (`frames_flatMap_framed`). Every stream is of this kind: it is made of
its frames and of an end from which nothing can be taken (`exists_stuck`).
-/

namespace FlowGraph.Session

open Json (Bytes)

/-- Four bytes give the length that they were made of. -/
lemma lengthOf_bytes {n : Nat} (small : n < 0x100000000) :
    lengthOf (n / 0x1000000).toUInt8 (n / 0x10000).toUInt8 (n / 0x100).toUInt8 n.toUInt8 = n := by
  simp only [lengthOf, Nat.toUInt8, UInt8.toNat_ofNat']
  omega

/-- The bytes of a length are those that give it. -/
lemma bytes_lengthOf (a b c d : UInt8) :
    [(lengthOf a b c d / 0x1000000).toUInt8, (lengthOf a b c d / 0x10000).toUInt8,
      (lengthOf a b c d / 0x100).toUInt8, (lengthOf a b c d).toUInt8] = [a, b, c, d] := by
  have bounds := And.intro a.toNat_lt <| And.intro b.toNat_lt <| And.intro c.toNat_lt d.toNat_lt
  simp only [lengthOf, Nat.toUInt8, List.cons.injEq, ← UInt8.toNat_inj, UInt8.toNat_ofNat',
    and_true]
  refine ⟨?_, ?_, ?_, ?_⟩ <;> omega

/-- Four bytes give a length below 4 GiB. -/
lemma lengthOf_lt (a b c d : UInt8) : lengthOf a b c d < 0x100000000 := by
  have bounds := And.intro a.toNat_lt <| And.intro b.toNat_lt <| And.intro c.toNat_lt d.toNat_lt
  simp only [lengthOf]
  omega

/-- A frame is its content behind the four bytes that give its length. -/
lemma framed_of_length {a b c d : UInt8} {content : Bytes}
    (length : content.length = lengthOf a b c d) :
    framed content = a :: b :: c :: d :: content := by
  rw [framed, length, bytes_lengthOf]
  rfl

/-- A frame is taken from the front of a stream, whatever follows it. -/
lemma takeFrame_framed {content : Bytes} (fits : content.length ≤ maxLength) (rest : Bytes) :
    takeFrame (framed content ++ rest) = .frame content rest := by
  have small : content.length < 0x100000000 := Nat.lt_of_le_of_lt fits (by decide)
  simp only [framed, List.cons_append, List.nil_append, takeFrame, lengthOf_bytes small]
  rw [if_neg (by omega), if_pos (by simp)]
  simp

/-- What is taken from the front of a stream was framed there. -/
lemma eq_framed_of_takeFrame {s content rest : Bytes} (taken : takeFrame s = .frame content rest) :
    s = framed content ++ rest ∧ content.length ≤ maxLength := by
  unfold takeFrame at taken
  split at taken
  · next a b c d tail =>
    simp only at taken
    split at taken
    · cases taken
    · next fits =>
      split at taken
      · next enough =>
        cases taken
        have length : (tail.take (lengthOf a b c d)).length = lengthOf a b c d := by simp [enough]
        rw [framed_of_length length, List.cons_append, List.cons_append, List.cons_append,
          List.cons_append, List.take_append_drop, length]
        exact ⟨rfl, Nat.le_of_not_lt fits⟩
      · cases taken
  · cases taken

/-- Nothing can be taken from the front of these streams: nothing is left, a frame is cut somewhere,
or its length is too great. -/
inductive Stuck : Bytes → Prop where
  | ended : Stuck []
  | cut {content : Bytes} {n : Nat} :
    content.length < 0x100000000 → n < (framed content).length → Stuck ((framed content).take n)
  | tooLong {a b c d : UInt8} (rest : Bytes) :
    maxLength < lengthOf a b c d → Stuck (a :: b :: c :: d :: rest)

/-- The frames of a stream from which one can be taken. -/
lemma frames_of_frame {s content rest : Bytes} (taken : takeFrame s = .frame content rest) :
    frames s = (content :: (frames rest).1, (frames rest).2) := by
  rw [frames]
  split
  · next content' rest' same =>
    rw [taken] at same
    cases same
    rfl
  · next cut =>
    rw [taken] at cut
    cases cut
  · next long =>
    rw [taken] at long
    cases long

/-- From a stuck stream nothing is taken. -/
lemma Stuck.takeFrame {s : Bytes} (stuck : Stuck s) (content rest : Bytes) :
    takeFrame s ≠ .frame content rest := by
  cases stuck with
  | ended => simp [Session.takeFrame]
  | @cut content n small cut =>
    simp only [framed, List.cons_append, List.nil_append, List.length_cons] at cut ⊢
    match n with
    | 0 | 1 | 2 | 3 => simp [Session.takeFrame]
    | k + 4 =>
      -- the whole length is there, and fewer bytes than it says
      have short : ¬ content.length ≤ (content.take k).length := by
        rw [List.length_take]
        omega
      simp only [List.take_succ_cons, Session.takeFrame, lengthOf_bytes small, if_neg short]
      split <;> simp
  | tooLong rest long => simp [Session.takeFrame, long]

/-- A stuck stream has no frames. -/
lemma Stuck.frames {s : Bytes} (stuck : Stuck s) : (frames s).1 = [] := by
  rw [Session.frames]
  split
  · next content rest taken => exact absurd taken (stuck.takeFrame content rest)
  · rfl
  · rfl

/-- A part of a frame is a cut frame, whichever length it starts with. -/
lemma Stuck.of_length {a b c d : UInt8} {content : Bytes}
    (length : content.length = lengthOf a b c d) {n : Nat} (cut : n < content.length + 4) :
    Stuck ((a :: b :: c :: d :: content).take n) := by
  have framed := framed_of_length length
  rw [← framed]
  refine .cut (length ▸ lengthOf_lt a b c d) ?_
  rwa [framed]

/-- A part of a length is a cut frame: it may stand for so many zeros. -/
lemma Stuck.of_head (a b c d : UInt8) {n : Nat} (cut : n < 4) : Stuck ([a, b, c, d].take n) := by
  have filled : (List.replicate (lengthOf a b c d) (0 : UInt8)).length = lengthOf a b c d :=
    List.length_replicate
  have stuck := Stuck.of_length filled (n := n) (by omega)
  have head : [a, b, c, d].take n =
      ([a, b, c, d] ++ List.replicate (lengthOf a b c d) 0).take n :=
    (List.take_append_of_le_length (Nat.le_of_lt cut)).symm
  rw [head]
  exact stuck

/-- A stream is stuck if nothing can be taken from it. -/
lemma stuck_of_takeFrame {s : Bytes} (stops : ∀ content rest, takeFrame s ≠ .frame content rest) :
    Stuck s := by
  match s with
  | [] => exact .ended
  | [a] => exact .of_head a 0 0 0 (n := 1) (by decide)
  | [a, b] => exact .of_head a b 0 0 (n := 2) (by decide)
  | [a, b, c] => exact .of_head a b c 0 (n := 3) (by decide)
  | a :: b :: c :: d :: tail =>
    by_cases long : maxLength < lengthOf a b c d
    · exact .tooLong tail long
    · have short : tail.length < lengthOf a b c d := by
        refine Nat.lt_of_not_le fun enough => ?_
        have taken := stops (tail.take (lengthOf a b c d)) (tail.drop (lengthOf a b c d))
        simp [takeFrame, long, enough] at taken
      -- the frame that the stream starts with, filled up with zeros
      have filled : (tail ++ List.replicate (lengthOf a b c d - tail.length) 0).length =
          lengthOf a b c d := by
        rw [List.length_append, List.length_replicate]
        omega
      have stuck := Stuck.of_length filled (n := tail.length + 4) (by omega)
      simpa using stuck

/-- The frames of framed contents are these contents, and then those of what follows. -/
lemma frames_flatMap_framed {contents : List Bytes}
    (fit : ∀ content ∈ contents, content.length ≤ maxLength) (rest : Bytes) :
    (frames (contents.flatMap framed ++ rest)).1 = contents ++ (frames rest).1 := by
  induction contents with
  | nil => rfl
  | cons content more ih =>
    rw [List.forall_mem_cons] at fit
    have taken := takeFrame_framed fit.1 (more.flatMap framed ++ rest)
    rw [← List.append_assoc] at taken
    rw [List.flatMap_cons, frames_of_frame taken, ih fit.2, List.cons_append]

/-- A stream is made of its frames and an end in which it is stuck. -/
theorem exists_stuck (s : Bytes) :
    ∃ tail, s = (frames s).1.flatMap framed ++ tail ∧
      (∀ content ∈ (frames s).1, content.length ≤ maxLength) ∧ Stuck tail := by
  cases taken : takeFrame s with
  | frame content rest =>
    have := length_lt_of_takeFrame taken
    obtain ⟨whole, fits⟩ := eq_framed_of_takeFrame taken
    obtain ⟨tail, more, fit, stuck⟩ := exists_stuck rest
    rw [frames_of_frame taken]
    refine ⟨tail, ?_, List.forall_mem_cons.mpr ⟨fits, fit⟩, stuck⟩
    rw [whole, List.flatMap_cons, List.append_assoc, ← more]
  | unfinished =>
    have stuck : Stuck s := stuck_of_takeFrame fun _ _ => by simp [taken]
    exact ⟨s, by simp [stuck.frames], by simp [stuck.frames], stuck⟩
  | tooLong =>
    have stuck : Stuck s := stuck_of_takeFrame fun _ _ => by simp [taken]
    exact ⟨s, by simp [stuck.frames], by simp [stuck.frames], stuck⟩
  termination_by s.length

end FlowGraph.Session
