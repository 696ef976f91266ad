import FlowGraph.Proofs.Json.Reading

/-!
# Whole documents

A draft that can be read strictly is the draft of the document that is read, with nothing broken in
it (`Draft.eq_draft_of_strict`), so a text with a strict reading is as good as a tree. An array or
an object of a tree that fits some room has parts that fit the room inside. In a settled document
each key has its last value, and settling it again changes nothing.
-/

namespace FlowGraph.Json

/-- The values that an object has for a key, in their order. -/
def valuesAt {α : Type} (name : String) (ms : List (String × α)) : List α :=
  (ms.filter (·.1 = name)).map Prod.snd

/-- The drafts that stand in an object for a key that can be read. -/
def draftsAt (name : String) (ms : List (Key × Draft)) : List Draft :=
  (ms.filter (·.1.toOption = some name)).map Prod.snd

/-! ### Strict readings -/

namespace Draft

mutual

/-- What can be read strictly is the draft of what is read. -/
lemma eq_draft_of_strict {d : Draft} {room : Room} {v : Value} (read : d.strict room = .ok v) :
    d = v.draft := by
  match d with
  | null | bool _ | number _ | string _ =>
    cases read
    rfl
  | bad _ _ _ => cases read
  | array items stop =>
    simp only [strict, bind_eq_ok, pure_eq_ok] at read
    obtain ⟨inside, -, vs, each, _, closed, rfl⟩ := read
    rw [ListStop.strict_eq_ok] at closed
    rw [closed, eq_draftItems_of_strict each]
    rfl
  | object members stop =>
    simp only [strict, bind_eq_ok, pure_eq_ok] at read
    obtain ⟨inside, -, ms, each, _, closed, rfl⟩ := read
    rw [ObjectStop.strict_eq_ok] at closed
    rw [closed, eq_draftMembers_of_strict each]
    rfl

/-- Items that can be read strictly are the drafts of what is read. -/
lemma eq_draftItems_of_strict {ds : List Draft} {room : Room} {vs : List Value}
    (read : strictItems room ds = .ok vs) : ds = Value.draftItems vs := by
  match ds with
  | [] =>
    cases read
    rfl
  | d :: rest =>
    simp only [strictItems, bind_eq_ok, pure_eq_ok] at read
    obtain ⟨v, first, more, others, rfl⟩ := read
    rw [eq_draft_of_strict first, eq_draftItems_of_strict others]
    rfl

/-- Members that can be read strictly are the drafts of what is read. -/
lemma eq_draftMembers_of_strict {ds : List (Key × Draft)} {room : Room}
    {ms : List (String × Value)} (read : strictMembers room ds = .ok ms) :
    ds = Value.draftMembers ms := by
  match ds with
  | [] =>
    cases read
    rfl
  | (key, d) :: rest =>
    simp only [strictMembers, bind_eq_ok, pure_eq_ok] at read
    obtain ⟨k, readable, v, first, more, others, rfl⟩ := read
    rw [readable, eq_draft_of_strict first, eq_draftMembers_of_strict others]
    rfl

end

end Draft

namespace Value

/-- Two documents with the same draft are the same. -/
lemma draft_injective : Function.Injective draft := by
  intro v w same
  have read := strict_draft v
  rw [same, strict_draft w] at read
  cases read
  rfl

/-- Lists of documents with the same drafts are the same. -/
lemma map_draft_injective : Function.Injective (List.map draft) :=
  List.map_injective_iff.mpr draft_injective

mutual

/-- A whole document can be passed over. -/
lemma pass_draft (v : Value) : v.draft.pass = .ok () := by
  match v with
  | null | bool _ | number _ | string _ => rfl
  | array items =>
    rw [draft, Draft.pass, passItems_draft items]
    rfl
  | object members =>
    rw [draft, Draft.pass, passMembers_draft members]
    rfl

/-- The items of a whole array can be passed over. -/
lemma passItems_draft (vs : List Value) : Draft.passItems (draftItems vs) = .ok () := by
  match vs with
  | [] => rfl
  | v :: rest =>
    rw [draftItems, Draft.passItems, pass_draft v, passItems_draft rest]
    rfl

/-- The members of a whole object can be passed over. -/
lemma passMembers_draft (ms : List (String × Value)) :
    Draft.passMembers (draftMembers ms) = .ok () := by
  match ms with
  | [] => rfl
  | (k, v) :: rest =>
    rw [draftMembers, Draft.passMembers, pass_draft v, passMembers_draft rest]
    rfl

end

/-- In a whole object the drafts under a key are those of its values. -/
lemma draftsAt_draftMembers (name : String) (ms : List (String × Value)) :
    draftsAt name (draftMembers ms) = (valuesAt name ms).map draft := by
  rw [draftMembers_eq, draftsAt, valuesAt, List.filter_map, List.map_map, List.map_map]
  simp only [Function.comp_def, Except.toOption, Option.some.injEq]

/-! ### Room -/

/-- The document is not deeper than the room. -/
def Fits (room : Room) (v : Value) : Prop := v.draft.strict room = .ok v

/-- Whatever can be read strictly fits. -/
lemma fits_of_strict {d : Draft} {room : Room} {v : Value} (read : d.strict room = .ok v) :
    v.Fits room := by
  rw [Fits, ← Draft.eq_draft_of_strict read, read]

/-- Items are read strictly if each of them fits. -/
lemma strictItems_eq_ok {room : Room} {vs : List Value} :
    Draft.strictItems room (draftItems vs) = .ok vs ↔ ∀ v ∈ vs, v.Fits room := by
  induction vs with
  | nil => simp [draftItems, Draft.strictItems]
  | cons v rest ih =>
    simp only [draftItems, Draft.strictItems, bind_eq_ok, pure_eq_ok, List.forall_mem_cons, Fits]
    constructor
    · rintro ⟨w, first, more, others, same⟩
      cases same
      exact ⟨first, ih.mp others⟩
    · rintro ⟨first, others⟩
      exact ⟨v, first, rest, ih.mpr others, rfl⟩

/-- Members are read strictly if the value of each fits. -/
lemma strictMembers_eq_ok {room : Room} {ms : List (String × Value)} :
    Draft.strictMembers room (draftMembers ms) = .ok ms ↔ ∀ m ∈ ms, m.2.Fits room := by
  induction ms with
  | nil => simp [draftMembers, Draft.strictMembers]
  | cons m rest ih =>
    obtain ⟨k, v⟩ := m
    simp only [draftMembers, Draft.strictMembers, bind_eq_ok, pure_eq_ok, List.forall_mem_cons,
      Fits]
    constructor
    · rintro ⟨_, -, w, first, more, others, same⟩
      cases same
      exact ⟨first, ih.mp others⟩
    · rintro ⟨first, others⟩
      exact ⟨k, rfl, v, first, rest, ih.mpr others, rfl⟩

/-- An array fits if its items fit the room inside. -/
lemma fits_array_iff {room : Room} {vs : List Value} :
    (array vs).Fits room ↔ ∃ inside, room.inside = .ok inside ∧ ∀ v ∈ vs, v.Fits inside := by
  rw [Fits, draft, Draft.strict]
  simp only [bind_eq_ok, pure_eq_ok]
  constructor
  · rintro ⟨inside, into, ws, each, -, -, same⟩
    cases same
    exact ⟨inside, into, strictItems_eq_ok.mp each⟩
  · rintro ⟨inside, into, each⟩
    exact ⟨inside, into, vs, strictItems_eq_ok.mpr each, (), rfl, rfl⟩

/-- An object fits if the values of its members fit the room inside. -/
lemma fits_object_iff {room : Room} {ms : List (String × Value)} :
    (object ms).Fits room ↔
      ∃ inside, room.inside = .ok inside ∧ ∀ m ∈ ms, m.2.Fits inside := by
  rw [Fits, draft, Draft.strict]
  simp only [bind_eq_ok, pure_eq_ok]
  constructor
  · rintro ⟨inside, into, ws, each, -, -, same⟩
    cases same
    exact ⟨inside, into, strictMembers_eq_ok.mp each⟩
  · rintro ⟨inside, into, each⟩
    exact ⟨inside, into, ms, strictMembers_eq_ok.mpr each, (), rfl, rfl⟩

end Value

/-! ### Settled documents -/

section

variable {α β : Type}

/-- The first member counts for its own key alone. -/
lemma valuesAt_cons (name k : String) (v : α) (rest : List (String × α)) :
    valuesAt name ((k, v) :: rest) =
      if k = name then v :: valuesAt name rest else valuesAt name rest := by
  by_cases same : k = name
  · simp [valuesAt, same]
  · simp [valuesAt, same]

/-- A change of all values changes those of a key. -/
lemma valuesAt_map (name : String) (f : α → β) (ms : List (String × α)) :
    valuesAt name (ms.map fun m => (m.1, f m.2)) = (valuesAt name ms).map f := by
  simp [valuesAt, List.filter_map, Function.comp_def]

/-- A value of a key stands in the object under this key. -/
lemma mem_of_mem_valuesAt {name : String} {v : α} {ms : List (String × α)}
    (mem : v ∈ valuesAt name ms) : (name, v) ∈ ms := by
  rw [valuesAt, List.mem_map] at mem
  obtain ⟨⟨k, w⟩, there, rfl⟩ := mem
  rw [List.mem_filter, decide_eq_true_iff] at there
  obtain ⟨there, rfl⟩ := there
  exact there

/-- A key comes if the object has a value for it. -/
lemma any_key_iff {k : String} {ms : List (String × α)} :
    ms.any (·.1 == k) = true ↔ valuesAt k ms ≠ [] := by
  simp [valuesAt]

/-- Only the last value of a key is kept. -/
lemma valuesAt_lastOfEach (name : String) (ms : List (String × α)) :
    valuesAt name (lastOfEach ms) = (valuesAt name ms).getLast?.toList := by
  induction ms with
  | nil => rfl
  | cons m rest ih =>
    obtain ⟨k, v⟩ := m
    rw [lastOfEach, valuesAt_cons]
    by_cases again : rest.any (·.1 == k) = true
    · rw [if_pos again, ih]
      split
      · next same =>
        subst same
        obtain ⟨w, ws, more⟩ := List.exists_cons_of_ne_nil (any_key_iff.mp again)
        rw [more, List.getLast?_cons_cons]
      · rfl
    · rw [if_neg again, valuesAt_cons, ih]
      split
      · next same =>
        subst same
        rw [any_key_iff, not_not] at again
        rw [again]
        rfl
      · rfl

/-- A change of all values drops no other members than before. -/
lemma lastOfEach_map (f : α → β) (ms : List (String × α)) :
    lastOfEach (ms.map fun m => (m.1, f m.2)) = (lastOfEach ms).map fun m => (m.1, f m.2) := by
  induction ms with
  | nil => rfl
  | cons m rest ih =>
    have same : (rest.map fun m => (m.1, f m.2)).any (·.1 == m.1) = rest.any (·.1 == m.1) := by
      rw [List.any_map]
      rfl
    rw [List.map_cons, lastOfEach, lastOfEach, same, ih]
    split
    · rfl
    · rfl

/-- When each key has one value left, none is dropped. -/
lemma lastOfEach_lastOfEach (ms : List (String × α)) :
    lastOfEach (lastOfEach ms) = lastOfEach ms := by
  induction ms with
  | nil => rfl
  | cons m rest ih =>
    obtain ⟨k, v⟩ := m
    rw [lastOfEach]
    split
    · exact ih
    · next single =>
      have once : ¬ (lastOfEach rest).any (·.1 == k) = true := by
        rw [any_key_iff, not_not] at single ⊢
        rw [valuesAt_lastOfEach, single]
        rfl
      rw [lastOfEach, if_neg once, ih]

end

namespace Value

/-- Settling the members of an object settles the value of each. -/
lemma settledMembers_eq (ms : List (String × Value)) :
    settledMembers ms = ms.map fun m => (m.1, m.2.settled) := by
  induction ms with
  | nil => rfl
  | cons m rest ih =>
    rw [settledMembers, ih]
    rfl

/-- Settling the items of an array settles each of them. -/
lemma settledItems_eq (vs : List Value) : settledItems vs = vs.map settled := by
  induction vs with
  | nil => rfl
  | cons v rest ih =>
    rw [settledItems, ih]
    rfl

mutual

/-- A settled document is settled. -/
lemma settled_settled (v : Value) : v.settled.settled = v.settled := by
  match v with
  | null | bool _ | number _ | string _ => rfl
  | array items => rw [settled, settled, settledItems_settledItems items]
  | object members =>
    rw [settled, settled, settledMembers_eq (lastOfEach _), ← lastOfEach_map, ← settledMembers_eq,
      settledMembers_settledMembers members, lastOfEach_lastOfEach]

/-- Items of a settled array are settled. -/
lemma settledItems_settledItems (vs : List Value) :
    settledItems (settledItems vs) = settledItems vs := by
  match vs with
  | [] => rfl
  | v :: rest =>
    rw [settledItems, settledItems, settled_settled v, settledItems_settledItems rest]

/-- Members of a settled object are settled. -/
lemma settledMembers_settledMembers (ms : List (String × Value)) :
    settledMembers (settledMembers ms) = settledMembers ms := by
  match ms with
  | [] => rfl
  | (k, v) :: rest =>
    rw [settledMembers, settledMembers, settled_settled v, settledMembers_settledMembers rest]

end

/-- What is read from the document by itself, each key standing for its last value. -/
def as? {α : Type} (read : Reader α) (v : Value) : Option α :=
  (read .document v.settled.draft).toOption

/-- A part that may be of no use is read from a settled document without fail. -/
lemma lenient_settled {α : Type} (read : Reader α) (v : Value) :
    read.lenient .document v.settled.draft = .ok (v.as? read) := by
  have whole : Reader.value .document v.settled.draft = .ok v.settled :=
    Reader.value_eq_ok.mpr (strict_draft v.settled)
  rw [Reader.lenient, bind_eq_ok]
  refine ⟨v.settled, whole, ?_⟩
  rw [settled_settled]
  rfl

end Value

end FlowGraph.Json
