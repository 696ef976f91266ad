import FlowGraph.Proofs.Traffic.Merge
import Mathlib.Data.List.Basic

/-!
# Clocks that differ

A close time is carried from the collector's clock to the clock that the batch is merged by, in two
steps that each stop at the ends of the range: the distance between the clocks is taken, and then
the moment that lies so far away (`Micros.carried`). `Table.merge_carried` says what comes of it for
all times that there are. `Table.merge_advanced` says that it does not matter how far the
collector's clock is ahead, as long as no step stops and no close time comes to be zero.
-/

namespace FlowGraph

namespace Micros

/-- The integer is one of the range. -/
def InRange (n : Int) : Prop := -0x8000000000000000 ≤ n ∧ n < 0x8000000000000000

instance (n : Int) : Decidable (InRange n) := inferInstanceAs (Decidable (_ ∧ _))

/-- The moment `x` of a collector's clock by a clock that shows `now` when the collector's shows
`time`. -/
def carried (now time x : Micros) : Micros := x.shift (now.since time)

variable {now time x y : Micros} {d n : Int}

/-- Times are in the order of their microseconds. -/
lemma le_iff : x ≤ y ↔ x.us ≤ y.us := Iff.rfl

/-- Times with the same microseconds are the same. -/
lemma ext_us (same : x.us = y.us) : x = y := by
  cases x
  cases y
  cases same
  rfl

/-- An integer of the range is not cut. -/
lemma clamp_us_of_inRange (fits : InRange n) : (clamp n).us = n := by
  rw [clamp_of_mem fits.1 fits.2]

/-- The same distance keeps the order of times. -/
lemma shift_le_shift (le : x ≤ y) (distance : Micros) : x.shift distance ≤ y.shift distance := by
  rw [le_iff] at le ⊢
  rw [shift, shift, clamp_us, clamp_us]
  omega

/-- A distance of the range is exact. -/
lemma since_us_of_inRange (fits : InRange (now.us - time.us)) :
    (now.since time).us = now.us - time.us :=
  clamp_us_of_inRange fits

/-- To a clock that does not show a time before zero no distance is taken too long. -/
lemma since_us_le (nonneg : zero ≤ now) : (now.since time).us ≤ now.us - time.us := by
  -- the difference may be too large for the range, but not too small
  have nonneg : 0 ≤ now.us := nonneg
  have limit := time.lt_limit
  have least : -0x8000000000000000 ≤ now.us - time.us := by omega
  rw [since, clamp_us]
  omega

/-- Over an exact distance a time is carried to the sum, cut at the ends of the range. -/
lemma carried_us_of_inRange (fits : InRange (now.us - time.us)) :
    (carried now time x).us =
      max (-0x8000000000000000) (min (x.us + (now.us - time.us)) 0x7FFFFFFFFFFFFFFF) := by
  rw [carried, shift, clamp_us, since_us_of_inRange fits]

/-- What was not after the collector's time is not after the time of the other clock. -/
lemma carried_le (nonneg : zero ≤ now) (le : x ≤ time) : carried now time x ≤ now := by
  have distance : (now.since time).us ≤ now.us - time.us := since_us_le nonneg
  rw [le_iff] at le ⊢
  have sum : x.us + (now.since time).us ≤ now.us := by omega
  -- the cut at the lower end raises the sum, but no time of the range is below it
  have least := now.least_le
  rw [carried, shift, clamp_us]
  omega

/-- A clock that is ahead shows other times, and they are carried to the same. -/
lemma carried_advanced (distance : InRange (now.us - time.us))
    (distance' : InRange (now.us - (time.us + d))) (fits : InRange (time.us + d))
    (closes : InRange (x.us + d)) :
    carried now (clamp (time.us + d)) (clamp (x.us + d)) = carried now time x := by
  have shown := clamp_us_of_inRange fits
  rw [← shown] at distance'
  -- no step stops, so that what the clock is ahead goes out of the sum
  have same : x.us + d + (now.us - (time.us + d)) = x.us + (now.us - time.us) := by omega
  apply ext_us
  rw [carried_us_of_inRange distance, carried_us_of_inRange distance', shown,
    clamp_us_of_inRange closes, same]

end Micros

namespace Traffic

open Micros

/-! ### Carrying close times -/

/-- What a table has for a connection after a batch the last observation of which closes it at `x`
is the carried time. Carrying keeps the order of close times. It is the exact sum, cut at the ends
of the range, if the range holds the difference of the clocks; and from a close that was no later
than the time of the batch it never leads beyond a `now` that is not before zero. -/
theorem Table.merge_carried (now time : Micros) :
    (∀ (t : Table) (b : Batch) (first : Bool) (c : Connection) (o : Observation) (x : Micros),
      b.time = time → b.last? c = some o → o.closeTime = some x → x ≠ zero →
      (t.merge b now first).connections.get? c = some (.closed (carried now time x))) ∧
    (∀ x y, x ≤ y → carried now time x ≤ carried now time y) ∧
    (InRange (now.us - time.us) → ∀ x, (carried now time x).us =
      max (-0x8000000000000000) (min (x.us + (now.us - time.us)) 0x7FFFFFFFFFFFFFFF)) ∧
    (zero ≤ now → ∀ x, x ≤ time → carried now time x ≤ now) := by
  refine ⟨?_, ?_, ?_, ?_⟩
  · rintro t b first c o x rfl last closes nonzero
    rw [get?_merge_of_last last, evidence_of_closeTime closes nonzero, Batch.ahead, carried]
  · intro x y le
    exact shift_le_shift le _
  · intro fits x
    exact carried_us_of_inRange fits
  · intro nonneg x le
    exact carried_le nonneg le

/-- An observation of a connection that closed at a time. -/
def closingAt (x : Micros) : Observation :=
  ⟨some "web", some (.v4 ⟨10, 0, 1, 1⟩), some (.v4 ⟨10, 0, 0, 5⟩ 443), some .tcp, some .client,
    some x⟩

/-- The connection of which the observation is. -/
def closingConnection : Connection := ⟨.v4 ⟨10, 0, 1, 1⟩, "web", ⟨.v4 ⟨10, 0, 0, 5⟩, 443, .tcp⟩⟩

/-- In a batch of this observation alone it is the last one of its connection. -/
lemma last?_closingAt (time x : Micros) :
    (⟨time, [closingAt x]⟩ : Batch).last? closingConnection = some (closingAt x) :=
  Batch.last?_eq_some_iff.mpr ⟨⟨rfl, rfl⟩, [], [], rfl, by simp⟩

/-- From the least time that there is the distance is cut, and the close comes before its time; from
a clock that is a little behind it is exact. -/
theorem Table.merge_carried_least :
    (∀ (t : Table) (first : Bool), (t.merge ⟨clamp (-0x8000000000000000),
        [closingAt (clamp (-0x8000000000000000))]⟩ (clamp 5) first).connections.get?
          closingConnection = some (.closed (clamp (-1)))) ∧
    clamp (-1) ≤ clamp 5 ∧ carried (clamp 200) (clamp 100) (clamp 50) ≤
      carried (clamp 200) (clamp 100) (clamp 90) ∧
    (carried (clamp 200) (clamp 100) (clamp 50)).us = 150 := by
  obtain ⟨stored, -, -, bounded⟩ := merge_carried (clamp 5) (clamp (-0x8000000000000000))
  obtain ⟨-, monotone, exact', -⟩ := merge_carried (clamp 200) (clamp 100)
  have cut : carried (clamp 5) (clamp (-0x8000000000000000)) (clamp (-0x8000000000000000)) =
      clamp (-1) := by decide
  refine ⟨fun t first => ?_, ?_, ?_, ?_⟩
  · rw [← cut]
    exact stored t _ first _ _ _ rfl (last?_closingAt _ _) rfl (by decide)
  · rw [← cut]
    exact bounded (by decide) _ (by decide)
  · exact monotone _ _ (by decide)
  · exact exact' (by decide) _

/-! ### Clocks that are ahead -/

/-- The observation by a clock that is ahead. A close time of zero is none by any clock. -/
def Observation.advanced (d : Int) (o : Observation) : Observation :=
  { o with closeTime := o.closeTime.map fun x => if x = zero then zero else clamp (x.us + d) }

/-- The batch by a clock that is ahead. -/
def Batch.advanced (d : Int) (b : Batch) : Batch :=
  ⟨clamp (b.time.us + d), b.observations.map (·.advanced d)⟩

/-- The close time, if it is one, is one by a clock that is ahead, too: it is of the range, and it
does not come to be zero. -/
def Observation.Advances (d : Int) (o : Observation) : Prop :=
  ∀ x, o.closeTime = some x → x ≠ zero → InRange (x.us + d) ∧ x.us + d ≠ 0

/-- An observation counts for the same connection by every clock. -/
lemma Observation.counted?_advanced (d : Int) (o : Observation) :
    (o.advanced d).counted? = o.counted? := rfl

/-- A close comes as much later by the other clock as this is ahead. -/
lemma Observation.closed?_advanced {d : Int} {o : Observation} (advances : o.Advances d) :
    (o.advanced d).closed? = o.closed?.map fun x => clamp (x.us + d) := by
  rw [closed?, closed?, advanced]
  cases closes : o.closeTime with
  | none => rfl
  | some x =>
    rw [Option.map_some, Option.filter_some, Option.filter_some]
    -- a close time of zero is none before and after, and no other one comes to be zero
    by_cases absent : x = zero
    · rw [if_pos absent, if_neg (by simp), if_neg (by simp [absent]), Option.map_none]
    · obtain ⟨fits, nonzero⟩ := advances x closes absent
      have differs : clamp (x.us + d) ≠ zero := by
        intro same
        rw [← clamp_us_of_inRange fits, same] at nonzero
        exact nonzero rfl
      rw [if_neg absent, if_pos (decide_eq_true differs), if_pos (decide_eq_true absent),
        Option.map_some]

/-- An observation by a clock that is ahead is the same evidence, since its batch is ahead as much.
-/
lemma Observation.evidence_advanced {d : Int} {o : Observation} {b : Batch} {now : Micros}
    (distance : InRange (now.us - b.time.us)) (distance' : InRange (now.us - (b.time.us + d)))
    (fits : InRange (b.time.us + d)) (advances : o.Advances d) :
    (o.advanced d).evidence ((b.advanced d).ahead now) = o.evidence (b.ahead now) := by
  rw [evidence, evidence, closed?_advanced advances]
  cases closes : o.closed? with
  | none => rfl
  | some x =>
    obtain ⟨closed, nonzero⟩ := closed?_eq_some_iff.mp closes
    have carried := carried_advanced distance distance' fits (advances x closed nonzero).1
    exact congrArg Timestamp.closed carried

/-- A batch by a clock that is ahead has the same for every connection. -/
lemma Batch.entries_advanced {d : Int} {b : Batch} {now : Micros}
    (distance : InRange (now.us - b.time.us)) (distance' : InRange (now.us - (b.time.us + d)))
    (fits : InRange (b.time.us + d)) (advances : ∀ o ∈ b.observations, o.Advances d) :
    (b.advanced d).entries now = b.entries now := by
  have each : ∀ o ∈ b.observations, ((o.advanced d).counted?.map fun c =>
      (c, (o.advanced d).evidence ((b.advanced d).ahead now))) =
        o.counted?.map fun c => (c, o.evidence (b.ahead now)) := by
    intro o mem
    rw [Observation.counted?_advanced,
      Observation.evidence_advanced distance distance' fits (advances o mem)]
  rw [entries, entries, advanced, List.filterMap_map]
  exact List.filterMap_congr each

/-- A batch leads to the same table and the same last contact by whatever clock its collector gives
the times, if the range holds these times and both distances, and no close time comes to be zero. -/
theorem Table.merge_advanced (t : Table) (b : Batch) (now : Micros) (first : Bool) (d : Int)
    (distance : InRange (now.us - b.time.us)) (distance' : InRange (now.us - (b.time.us + d)))
    (fits : InRange (b.time.us + d))
    (advances : ∀ o ∈ b.observations, o.Advances d) :
    t.merge (b.advanced d) now first = t.merge b now first := by
  rw [merge, merge, Batch.entries_advanced distance distance' fits advances]

/-- A close, an end that is none, and a connection that is still open. -/
def mixedClosings : Batch :=
  ⟨clamp 100, [closingAt zero, { closingAt zero with closeTime := none }, closingAt (clamp 50)]⟩

/-- A clock may be so far ahead that it shows the last time that there is. -/
theorem Table.merge_advanced_last :
    (mixedClosings.advanced 0x7FFFFFFFFFFFFF9B).observations.map Observation.closeTime =
      [some zero, none, some (clamp 0x7FFFFFFFFFFFFFCD)] ∧
    ((new "h" zero).merge (mixedClosings.advanced 0x7FFFFFFFFFFFFF9B) (clamp 200)
      true).connections.get? closingConnection = some (.closed (clamp 150)) := by
  have advances : ∀ o ∈ mixedClosings.observations, o.Advances 0x7FFFFFFFFFFFFF9B := by
    intro o mem x closed nonzero
    have only : x = clamp 50 := by
      simp only [mixedClosings, List.mem_cons, List.not_mem_nil, or_false] at mem
      rcases mem with rfl | rfl | rfl
      · exact absurd (Option.some.inj closed).symm nonzero
      · cases closed
      · exact (Option.some.inj closed).symm
    rw [only]
    decide
  refine ⟨by decide, ?_⟩
  rw [merge_advanced (new "h" zero) mixedClosings (clamp 200) true 0x7FFFFFFFFFFFFF9B (by decide)
    (by decide) (by decide) advances]
  decide

end Traffic

end FlowGraph
