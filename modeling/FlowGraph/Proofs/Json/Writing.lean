import FlowGraph.Json.Tagged
import FlowGraph.Proofs.Json.Row

/-!
# What is written is read

A document writes a value for a reader that makes the value from it wherever the document stands and
has room (`Value.Writes`). There is one law for each way to put documents together: lists are
written item by item, structures field by field in the order of their row, and variants as their
name, with their content if they have any.
-/

namespace FlowGraph.Json

variable {α : Type} {read : Reader α} {a : α} {v : Value}

/-- Where an array or an object has room there is a source for what lies inside, and room there. -/
lemma Source.exists_inside {src : Source} {room : Room} (into : src.room.inside = .ok room) :
    ∃ inside, src.inside = .ok inside ∧ inside.room = room := by
  cases src with
  | text n =>
    cases n with
    | zero => cases into
    | succ n =>
      cases into
      exact ⟨.text n, rfl, rfl⟩
  | keptBack =>
    cases into
    exact ⟨.keptBack, rfl, rfl⟩
  | document =>
    cases into
    exact ⟨.document, rfl, rfl⟩

namespace Value

/-- The value is read from the document wherever this stands and has room. -/
def Writes (v : Value) (read : Reader α) (a : α) : Prop :=
  ∀ src : Source, v.Fits src.room → read src v.draft = .ok a

/-! ### Single values -/

/-- A string is written as it is. -/
lemma writes_string (s : String) : (string s).Writes Reader.string s := fun _ _ => rfl

/-- What is made of an integer is written as the integer. -/
lemma writes_integer {wanted : String} {make : Int → Option α} {n : Int} (made : make n = some a) :
    (int n).Writes (Reader.integer wanted make) a := by
  intro src _
  rw [int, draft, Reader.integer, made]

/-- A port is written as the integer that it is. -/
lemma writes_u16 (p : UInt16) : (int p.toNat).Writes Reader.u16 p := by
  apply writes_integer
  have limit : p.toNat < 0x10000 := p.toNat_lt
  rw [if_pos (by omega), Int.toNat_natCast, Nat.toUInt16, UInt16.ofNat_toNat]

/-- A text is written as it is if it is read back. -/
lemma writes_written {wanted : String} {make : String → Option α} {s : String}
    (made : make s = some a) : (string s).Writes (Reader.written wanted make) a := by
  intro src _
  rw [draft, Reader.written, made]

/-- What is made of a value is written as the value. -/
lemma Writes.map {β : Type} (w : v.Writes read a) (f : α → β) : v.Writes (read.map f) (f a) := by
  intro src fits
  rw [Reader.map, w src fits]
  rfl

/-! ### Lists -/

/-- An array of documents writes the list of what they write. -/
lemma writes_list {vs : List Value} {as : List α}
    (each : List.Forall₂ (fun v a => v.Writes read a) vs as) : (array vs).Writes read.list as := by
  intro src fits
  obtain ⟨room, into, fit⟩ := fits_array_iff.mp fits
  obtain ⟨inside, enter, rfl⟩ := Source.exists_inside into
  refine Reader.list_eq_ok.mpr ⟨draftItems vs, inside, rfl, enter, ?_⟩
  rw [draftItems_eq, List.forall₂_map_left_iff]
  clear into fits
  induction each with
  | nil => exact .nil
  | cons first _ ih =>
    rw [List.forall_mem_cons] at fit
    exact .cons (first inside fit.1) (ih fit.2)

/-- A list is written item by item. -/
lemma writes_map {encode : α → Value} (each : ∀ a, (encode a).Writes read a) (as : List α) :
    (array (as.map encode)).Writes read.list as := by
  apply writes_list
  rw [List.forall₂_map_left_iff, List.forall₂_same]
  exact fun a _ => each a

/-! ### Depth -/

variable {n : Nat}

/-- A string takes no level. -/
lemma fits_string (s : String) : (string s).Fits (some n) := rfl

/-- An integer takes no level. -/
lemma fits_int (i : Int) : (int i).Fits (some n) := rfl

/-- A list is one level deeper than its items. -/
lemma fits_map {encode : α → Value} (each : ∀ a, (encode a).Fits (some n)) (as : List α) :
    (array (as.map encode)).Fits (some (n + 1)) := by
  refine fits_array_iff.mpr ⟨some n, rfl, ?_⟩
  rw [List.forall_mem_map]
  exact fun a _ => each a

/-- An object is one level deeper than its members. -/
lemma fits_object {ms : List (String × Value)} (each : ∀ m ∈ ms, m.2.Fits (some n)) :
    (object ms).Fits (some (n + 1)) := fits_object_iff.mpr ⟨some n, rfl, each⟩

/-! ### Texts -/

/-- From every text of the document the value is read. -/
lemma Writes.decode (w : v.Writes read a) {text : Bytes}
    (printed : decode Reader.value text = .ok v) : decode read text = .ok a := by
  obtain ⟨whole, rest⟩ := decode_eq_ok.mp printed
  rw [Reader.value_eq_ok] at whole
  refine decode_eq_ok.mpr ⟨?_, rest⟩
  rw [Draft.eq_draft_of_strict whole]
  exact w .top (fits_of_strict whole)

end Value

/-! ### Structures -/

namespace Row

variable {σ τ : Type} {row : Row σ τ} {t : τ} {ms : List (String × Value)}

/-- The members are the fields of the row in their order, and each of them writes its field. -/
inductive Writes : {σ τ : Type} → Row σ τ → List (String × Value) → τ → Prop where
  | done : Writes .done [] ()
  | field {α σ τ : Type} {name : String} {read : Reader α} {absent : Option α} {rest : Row σ τ}
    {v : Value} {a : α} {ms : List (String × Value)} {t : τ} :
    v.Writes read a → Writes rest ms t →
    Writes (.field name read absent rest) ((name, v) :: ms) (a, t)

/-- The keys of the members are the names of the fields. -/
lemma Writes.keys (w : row.Writes ms t) : ms.map Prod.fst = row.names := by
  induction w with
  | done => rfl
  | field _ _ ih => rw [List.map_cons, ih, names]

/-- A name that is no key has no values. -/
lemma valuesAt_eq_nil {name : String} (fresh : name ∉ ms.map Prod.fst) : valuesAt name ms = [] := by
  rw [valuesAt, List.map_eq_nil_iff, List.filter_eq_nil_iff]
  intro m mem same
  rw [decide_eq_true_iff] at same
  exact fresh (List.mem_map.mpr ⟨m, mem, same⟩)

/-- What an object has for a key it has in one part of its members or in the other. -/
lemma valuesAt_append (name : String) (ms ns : List (String × Value)) :
    valuesAt name (ms ++ ns) = valuesAt name ms ++ valuesAt name ns := by
  rw [valuesAt, valuesAt, valuesAt, List.filter_append, List.map_append]

/-- Each field has its one member, also behind members of other names. -/
lemma Writes.reads (w : row.Writes ms t) (distinct : row.names.Nodup) {src : Source}
    (fit : ∀ m ∈ ms, m.2.Fits src.room) {before : List (String × Value)}
    (others : ∀ name ∈ row.names, valuesAt name before = []) :
    row.Reads src (Value.draftMembers (before ++ ms)) t := by
  induction w generalizing before with
  | done => trivial
  | @field _ _ _ name read absent rest v a ms t first w ih =>
    obtain ⟨fresh, distinct⟩ := List.nodup_cons.mp distinct
    obtain ⟨here, fit⟩ := List.forall_mem_cons.mp fit
    obtain ⟨before_eq, others⟩ := List.forall_mem_cons.mp others
    have single : valuesAt name (before ++ (name, v) :: ms) = [v] := by
      rw [valuesAt_append, before_eq, valuesAt_cons, if_pos rfl, valuesAt_eq_nil (w.keys ▸ fresh)]
      rfl
    refine ⟨⟨some a, ?_, rfl⟩, ?_⟩
    · rw [Value.draftsAt_draftMembers, single]
      exact .filled (first src here)
    · rw [List.append_cons]
      apply ih distinct fit
      intro n mem
      have other : name ≠ n := fun same => fresh (same ▸ mem)
      rw [valuesAt_append, others n mem, valuesAt_cons, if_neg other]
      rfl

/-- A structure is read from an object that writes its fields. -/
lemma Writes.readAs (w : row.Writes ms t) (distinct : row.names.Nodup) {title : String}
    {make : τ → α} (made : make t = a) : (Value.object ms).Writes (row.readAs title make) a := by
  intro src fits
  obtain ⟨room, into, fit⟩ := Value.fits_object_iff.mp fits
  obtain ⟨inside, enter, rfl⟩ := Source.exists_inside into
  have reads : row.Reads inside (Value.draftMembers ([] ++ ms)) t :=
    w.reads distinct fit fun _ _ => rfl
  have read : row.read title src (Value.object ms).draft = .ok t :=
    (read_object_eq_ok distinct).mpr
      ⟨rfl, fun m mem => admits_draftMembers row mem, inside, enter, reads⟩
  rw [Row.readAs, read, ← made]
  rfl

end Row

/-! ### Variants -/

namespace Choice

variable {c : Choice α} {name : String}

/-- A variant without content is written as its name. -/
lemma writes_name (known : c.select name = .ok (.empty a)) :
    (Value.string name).Writes c.read a := by
  have read : (c.select name).bind bare = .ok a := by
    rw [known]
    rfl
  intro src _
  cases src with
  | text room => exact read
  | keptBack => exact read
  | document => exact read

/-- A variant with content is written as its name and its content. -/
lemma writes_content {payload : Payload α} (known : c.select name = .ok payload)
    (content : v.Writes (fun src d => filled src d payload) a) :
    (Value.object [(name, v)]).Writes c.read a := by
  intro src fits
  obtain ⟨room, into, fit⟩ := Value.fits_object_iff.mp fits
  obtain ⟨inside, enter, rfl⟩ := Source.exists_inside into
  have given : filled inside v.draft payload = .ok a := content inside (fit _ List.mem_cons_self)
  cases src with
  | text room =>
    show c.fromText (.text room) (.object [(.ok name, v.draft)] .closed) = .ok a
    simp only [fromText, bind_eq_ok, orFault_eq_ok, pure_eq_ok]
    exact ⟨inside, enter, name, rfl, payload, known, a, given, (), rfl, rfl⟩
  | keptBack =>
    cases enter
    show c.fromDocument .keptBack (.object [(.ok name, v.draft)] .closed) = .ok a
    simp only [fromDocument, bind_eq_ok, orFault_eq_ok]
    exact ⟨name, rfl, payload, known, given⟩
  | document =>
    cases enter
    show c.fromDocument .document (.object [(.ok name, v.draft)] .closed) = .ok a
    simp only [fromDocument, bind_eq_ok, orFault_eq_ok]
    exact ⟨name, rfl, payload, known, given⟩

end Choice

/-! ### Tagged variants -/

variable {name : String} {chosen : Reader α}

/-- A variant is written as its tag with its content beside it. -/
lemma Beside.writes {b : Beside α} (apart : b.content ≠ b.tag)
    (known : (Value.string name).Writes b.tagReader chosen) (content : v.Writes chosen a) :
    (Value.object [(b.tag, .string name), (b.content, v)]).Writes b.read a := by
  intro src fits
  obtain ⟨room, into, fit⟩ := Value.fits_object_iff.mp fits
  obtain ⟨inside, enter, rfl⟩ := Source.exists_inside into
  have tagged : b.tagReader inside (.string name) = .ok chosen := known inside rfl
  have given : chosen inside v.draft = .ok a :=
    content inside (fit _ (List.mem_cons_of_mem _ List.mem_cons_self))
  have first : b.member inside .nothing (.ok b.tag) (.string name) = .ok (.tag chosen) := by
    unfold member
    simp only [bind_eq_ok, orFault_eq_ok]
    refine ⟨b.tag, rfl, (), rfl, ?_⟩
    rw [if_pos rfl]
    simp only [bind_eq_ok, pure_eq_ok]
    exact ⟨chosen, tagged, rfl⟩
  have second : b.member inside (.tag chosen) (.ok b.content) v.draft = .ok (.both a) := by
    unfold member
    simp only [bind_eq_ok, orFault_eq_ok]
    refine ⟨b.content, rfl, (), if_neg apart, ?_⟩
    rw [if_neg apart, if_pos rfl]
    simp only [bind_eq_ok, pure_eq_ok]
    exact ⟨a, given, rfl⟩
  show b.read src (.object [(.ok b.tag, .string name), (.ok b.content, v.draft)] .closed) = .ok a
  simp only [read, members, bind_eq_ok, orFault_eq_ok]
  exact ⟨inside, enter, .both a, ⟨_, first, _, second, rfl⟩, (), rfl, rfl⟩

namespace Inside

variable {t : Inside α} {ms : List (String × Value)}

/-- Members of other names are kept back as they stand. -/
lemma members_draftMembers {src : Source} (others : ∀ m ∈ ms, m.1 ≠ t.tag)
    (fit : ∀ m ∈ ms, m.2.Fits src.room) (seen : Option (Reader α)) :
    t.members src seen (Value.draftMembers ms) = .ok (seen, ms) := by
  induction ms with
  | nil => rfl
  | cons m rest ih =>
    obtain ⟨name, v⟩ := m
    rw [List.forall_mem_cons] at others fit
    obtain ⟨other, others⟩ := others
    obtain ⟨here, fit⟩ := fit
    rw [Value.draftMembers, members]
    simp only [bind_eq_ok, orFault_eq_ok]
    refine ⟨name, rfl, (), if_neg fun tagged => other tagged.1, ?_⟩
    rw [if_neg other]
    simp only [bind_eq_ok, pure_eq_ok]
    exact ⟨v, Reader.value_eq_ok.mpr here, _, ih others fit, rfl⟩

/-- A variant is written as its tag in front of the members of its content. -/
lemma writes (known : t.variants.lookup name = some chosen) (others : ∀ m ∈ ms, m.1 ≠ t.tag)
    (content : (Value.object ms).Writes chosen a) :
    (Value.object ((t.tag, .string name) :: ms)).Writes t.read a := by
  intro src fits
  obtain ⟨room, into, fit⟩ := Value.fits_object_iff.mp fits
  obtain ⟨inside, enter, rfl⟩ := Source.exists_inside into
  rw [List.forall_mem_cons] at fit
  have tagged : t.tagReader inside (.string name) = .ok chosen := by
    rw [tagReader, known]
  -- the content is read as a document without bounds
  have given : chosen .keptBack (Value.object ms).draft = .ok a :=
    content .keptBack (Value.strict_draft _)
  have all : t.members inside none (Value.draftMembers ((t.tag, .string name) :: ms)) =
      .ok (some chosen, ms) := by
    rw [Value.draftMembers, members]
    simp only [bind_eq_ok, orFault_eq_ok]
    refine ⟨t.tag, rfl, (), if_neg (by simp), ?_⟩
    rw [if_pos rfl]
    simp only [bind_eq_ok]
    exact ⟨chosen, tagged, members_draftMembers others fit.2 (some chosen)⟩
  show t.read src (.object (Value.draftMembers ((t.tag, .string name) :: ms)) .closed) = .ok a
  simp only [read, bind_eq_ok, orFault_eq_ok]
  exact ⟨inside, enter, _, all, (), rfl, given⟩

end Inside

end FlowGraph.Json
