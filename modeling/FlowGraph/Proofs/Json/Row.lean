import FlowGraph.Proofs.Json.Whole

/-!
# What a row reads

A structure is read from an object by filling in its fields one member at a time, and from an array
by taking its items in turn. Neither order of work matters for what comes out: a field has what its
one member gives, or its item (`Row.Reads`, `Row.Listed`), and a structure is read exactly if every
field has something (`Row.read_object_eq_ok`, `Row.read_array_eq_ok`).
-/

namespace FlowGraph.Json

/-- What the members of a field give: nothing if there are none, and what is read from it if there
is one. More than one give nothing to read. -/
inductive Slot {α : Type} (read : Draft → Except ReadError α) : List Draft → Option α → Prop where
  | blank : Slot read [] none
  | filled {d : Draft} {a : α} : read d = .ok a → Slot read [d] (some a)

namespace Slot

variable {α : Type} {read : Draft → Except ReadError α} {a b : Option α}

/-- The members of a field give one thing only. -/
lemma unique {ds : List Draft} (x : Slot read ds a) (y : Slot read ds b) : a = b := by
  cases x with
  | blank =>
    cases y
    rfl
  | filled first =>
    cases y with
    | filled second =>
      rw [first] at second
      cases second
      rfl

/-- The members that came first have given something before. -/
lemma exists_of_append {ds es : List Draft} (x : Slot read (ds ++ es) a) :
    ∃ b, Slot read ds b := by
  cases ds with
  | nil => exact ⟨none, .blank⟩
  | cons d rest =>
    generalize whole : d :: rest ++ es = all at x
    cases x with
    | blank => cases whole
    | filled first =>
      rw [List.cons_append, List.cons.injEq, List.append_eq_nil_iff] at whole
      obtain ⟨rfl, rfl, -⟩ := whole
      exact ⟨_, .filled first⟩

/-- A second member leaves nothing to read. -/
lemma not_concat {ds : List Draft} {d : Draft} {v : α} (x : Slot read ds (some v)) :
    ¬ Slot read (ds ++ [d]) b := by
  cases x
  rintro ⟨⟩

/-- The first member is read. -/
lemma concat_iff {ds : List Draft} {d : Draft} (x : Slot read ds none) :
    Slot read (ds ++ [d]) b ↔ ∃ v, read d = .ok v ∧ b = some v := by
  cases x
  constructor
  · intro y
    cases y with
    | filled first => exact ⟨_, first, rfl⟩
  · rintro ⟨v, first, rfl⟩
    exact .filled first

end Slot

/-- What stands under a key stands there in one part of the members or in the other. -/
lemma draftsAt_append (name : String) (ms ns : List (Key × Draft)) :
    draftsAt name (ms ++ ns) = draftsAt name ms ++ draftsAt name ns := by
  rw [draftsAt, draftsAt, draftsAt, List.filter_append, List.map_append]

/-- One more member stands under its own key. -/
lemma draftsAt_concat (name k : String) (ms : List (Key × Draft)) (d : Draft) :
    draftsAt name (ms ++ [(.ok k, d)]) =
      if k = name then draftsAt name ms ++ [d] else draftsAt name ms := by
  rw [draftsAt_append]
  by_cases same : k = name
  · simp [draftsAt, Except.toOption, same]
  · simp [draftsAt, Except.toOption, same]

namespace Row

variable {σ τ : Type}

/-- The names of the fields in their order. -/
def names {σ τ : Type} : Row σ τ → List String
  | done => []
  | field name _ _ rest => name :: rest.names

/-- Each field is filled in with what its members give. -/
def Filled {σ τ : Type} (src : Source) (ms : List (Key × Draft)) : Row σ τ → σ → Prop
  | done, _ => True
  | field name read _ rest, (a, s) =>
    Slot (read src) (draftsAt name ms) a ∧ rest.Filled src ms s

/-- Each field of the structure has what its members give, or else its value for the case that it
is absent. -/
def Reads {σ τ : Type} (src : Source) (ms : List (Key × Draft)) : Row σ τ → τ → Prop
  | done, _ => True
  | field name read absent rest, (b, t) =>
    (∃ a, Slot (read src) (draftsAt name ms) a ∧ a.or absent = some b) ∧ rest.Reads src ms t

/-- Each field of the structure has what its item gives, or else its value for the case that it is
absent, and there are no more items than fields. -/
def Listed {σ τ : Type} (src : Source) : Row σ τ → τ → List Draft → Prop
  | done, _, ds => ds = []
  | field _ read _ rest, (b, t), d :: ds => read src d = .ok b ∧ rest.Listed src t ds
  | field _ _ absent rest, (b, t), [] => absent = some b ∧ rest.Listed src t []

/-- A member that can be read, and that can be passed over unless it is a field. -/
def Admits {σ τ : Type} (row : Row σ τ) (m : Key × Draft) : Prop :=
  ∃ name, m.1 = .ok name ∧ (name ∉ row.names → m.2.pass = .ok ())

variable {row : Row σ τ} {src : Source} {ms : List (Key × Draft)} {s s' : σ} {name : String}
  {d : Draft}

/-- The members of a whole document are all admitted. -/
lemma admits_draftMembers (row : Row σ τ) {ms : List (String × Value)} {m : Key × Draft}
    (mem : m ∈ Value.draftMembers ms) : row.Admits m := by
  rw [Value.draftMembers_eq, List.mem_map] at mem
  obtain ⟨⟨k, v⟩, -, rfl⟩ := mem
  exact ⟨k, rfl, fun _ => Value.pass_draft v⟩

/-! ### One member -/

/-- Without members nothing is filled in. -/
lemma filled_blank (row : Row σ τ) (src : Source) : row.Filled src [] row.blank := by
  induction row with
  | done => trivial
  | field name read absent rest ih => exact ⟨.blank, ih⟩

/-- The members fill in one thing only. -/
lemma Filled.unique (x : row.Filled src ms s) (y : row.Filled src ms s') : s = s' := by
  induction row with
  | done => rfl
  | field name read absent rest ih =>
    obtain ⟨a, s⟩ := s
    obtain ⟨b, s'⟩ := s'
    rw [x.1.unique y.1, ih x.2 y.2]

/-- The members that came first have filled in something before. -/
lemma Filled.exists_of_append {ns : List (Key × Draft)} (x : row.Filled src (ms ++ ns) s) :
    ∃ s, row.Filled src ms s := by
  induction row with
  | done => exact ⟨(), trivial⟩
  | field name read absent rest ih =>
    obtain ⟨a, s⟩ := s
    obtain ⟨first, others⟩ := x
    rw [draftsAt_append] at first
    obtain ⟨b, slot⟩ := first.exists_of_append
    obtain ⟨t, filled⟩ := ih others
    exact ⟨(b, t), slot, filled⟩

/-- A member that is no field fills in nothing. -/
lemma filled_concat_of_notMem (fresh : name ∉ row.names) :
    row.Filled src (ms ++ [(.ok name, d)]) s ↔ row.Filled src ms s := by
  induction row with
  | done => rfl
  | field n read absent rest ih =>
    obtain ⟨a, s⟩ := s
    rw [names, List.mem_cons, not_or] at fresh
    rw [Filled, Filled, draftsAt_concat, if_neg fresh.1, ih fresh.2]

/-- There is nothing to be known under a name that is no field's. -/
lemma filled?_eq_none_iff : row.filled? name s = none ↔ name ∉ row.names := by
  induction row with
  | done => simp [filled?, names]
  | field n read absent rest ih =>
    obtain ⟨a, s⟩ := s
    rw [filled?, names, List.mem_cons, not_or]
    by_cases same : n = name
    · simp [same]
    · simp [same, Ne.symm same, ih]

/-- A field that is filled in cannot come again. -/
lemma not_filled_concat (filled : row.Filled src ms s)
    (again : row.filled? name s = some true) : ¬ row.Filled src (ms ++ [(.ok name, d)]) s' := by
  induction row with
  | done => cases again
  | field n read absent rest ih =>
    obtain ⟨a, s⟩ := s
    obtain ⟨a', s'⟩ := s'
    obtain ⟨slot, filled⟩ := filled
    rintro ⟨slot', filled'⟩
    rw [filled?] at again
    split at again
    · next same =>
      subst same
      obtain ⟨v, rfl⟩ := Option.isSome_iff_exists.mp (Option.some.inj again)
      rw [draftsAt_concat, if_pos rfl] at slot'
      exact slot.not_concat slot'
    · exact ih filled again filled'

/-- A field that is not filled in takes its first member. -/
lemma fill_eq_ok (distinct : row.names.Nodup) (filled : row.Filled src ms s)
    (first : row.filled? name s = some false) :
    row.fill src name d s = .ok s' ↔ row.Filled src (ms ++ [(.ok name, d)]) s' := by
  induction row with
  | done => cases first
  | field n read absent rest ih =>
    obtain ⟨a, s⟩ := s
    obtain ⟨a', s'⟩ := s'
    obtain ⟨slot, filled⟩ := filled
    rw [names, List.nodup_cons] at distinct
    obtain ⟨fresh, distinct⟩ := distinct
    rw [filled?] at first
    rw [fill, Filled, draftsAt_concat]
    by_cases same : n = name
    · subst same
      rw [if_pos rfl] at first ⊢
      have unset : a = none := Option.isSome_eq_false_iff.mp (Option.some.inj first) |>
        Option.isNone_iff_eq_none.mp
      subst unset
      -- the other fields have other names
      rw [if_pos rfl, slot.concat_iff, filled_concat_of_notMem fresh]
      simp only [bind_eq_ok, pure_eq_ok, Prod.mk.injEq]
      constructor
      · rintro ⟨v, here, rfl, rfl⟩
        exact ⟨⟨v, here, rfl⟩, filled⟩
      · rintro ⟨⟨v, here, rfl⟩, others⟩
        exact ⟨v, here, rfl, filled.unique others⟩
    · rw [if_neg same] at first
      rw [if_neg same, if_neg (Ne.symm same)]
      simp only [bind_eq_ok, pure_eq_ok, Prod.mk.injEq, ih distinct filled first]
      constructor
      · rintro ⟨t, others, rfl, rfl⟩
        exact ⟨slot, others⟩
      · rintro ⟨here, others⟩
        exact ⟨s', others, slot.unique here, rfl⟩

/-- A member is taken if it is admitted and no field comes again. -/
lemma member_eq_ok (distinct : row.names.Nodup) (filled : row.Filled src ms s)
    {m : Key × Draft} :
    row.member src s m.1 m.2 = .ok s' ↔ row.Admits m ∧ row.Filled src (ms ++ [m]) s' := by
  obtain ⟨key, d⟩ := m
  simp only [member, bind_eq_ok, orFault_eq_ok, Admits]
  constructor
  · rintro ⟨name, rfl, _, single, taken⟩
    cases known : row.filled? name s with
    | none =>
      have fresh := filled?_eq_none_iff.mp known
      rw [known] at taken
      simp only [Option.isSome_none, Bool.false_eq_true, if_false, bind_eq_ok, orFault_eq_ok,
        pure_eq_ok] at taken
      obtain ⟨_, passed, rfl⟩ := taken
      exact ⟨⟨name, rfl, fun _ => passed⟩, (filled_concat_of_notMem fresh).mpr filled⟩
    | some before =>
      have there : name ∈ row.names := by
        by_contra fresh
        rw [filled?_eq_none_iff.mpr fresh] at known
        cases known
      cases before with
      | true =>
        rw [once, if_pos known] at single
        cases single
      | false =>
        rw [known, Option.isSome_some, if_pos rfl, fill_eq_ok distinct filled known] at taken
        exact ⟨⟨name, rfl, fun fresh => absurd there fresh⟩, taken⟩
  · rintro ⟨⟨name, rfl, passed⟩, whole⟩
    cases known : row.filled? name s with
    | none =>
      have fresh := filled?_eq_none_iff.mp known
      have same := filled.unique ((filled_concat_of_notMem fresh).mp whole)
      refine ⟨name, rfl, (), by simp [once, known], ?_⟩
      rw [known, passed fresh, same]
      rfl
    | some before =>
      cases before with
      | true => exact absurd whole (not_filled_concat filled known)
      | false =>
        refine ⟨name, rfl, (), by simp [once, known], ?_⟩
        rw [known, Option.isSome_some, if_pos rfl]
        exact (fill_eq_ok distinct filled known).mpr whole

/-! ### All members -/

/-- Members are taken if all of them are admitted and no field comes again. -/
lemma members_eq_ok (distinct : row.names.Nodup) (filled : row.Filled src ms s)
    {more : List (Key × Draft)} :
    row.members src s more = .ok s' ↔
      (∀ m ∈ more, row.Admits m) ∧ row.Filled src (ms ++ more) s' := by
  induction more generalizing ms s with
  | nil =>
    rw [members, List.append_nil, Except.ok.injEq]
    constructor
    · rintro rfl
      exact ⟨List.forall_mem_nil _, filled⟩
    · rintro ⟨-, same⟩
      exact filled.unique same
  | cons m rest ih =>
    rw [List.append_cons, List.forall_mem_cons, members, bind_eq_ok]
    constructor
    · rintro ⟨t, taken, others⟩
      obtain ⟨admits, next⟩ := (member_eq_ok distinct filled).mp taken
      obtain ⟨all, whole⟩ := (ih next).mp others
      exact ⟨⟨admits, all⟩, whole⟩
    · rintro ⟨⟨admits, all⟩, whole⟩
      obtain ⟨t, next⟩ := whole.exists_of_append
      exact ⟨t, (member_eq_ok distinct filled).mpr ⟨admits, next⟩, (ih next).mpr ⟨all, whole⟩⟩

/-- A structure ends where its object ends properly. -/
lemma close_eq_ok {stop : ObjectStop} : row.close s stop = .ok () ↔ stop = .closed := by
  cases stop with
  | noColon key fault =>
    simp only [close, bind_eq_ok]
    constructor
    · rintro ⟨_, -, _, -, ⟨⟩⟩
    · rintro ⟨⟩
  | _ =>
    rw [close, orFault_eq_ok, ObjectStop.strict_eq_ok]
    intro key fault same
    cases same

/-- A filled row gives a structure whose fields are those of the members. -/
lemma finish_eq_ok {t : τ} (filled : row.Filled src ms s) :
    row.finish s = .ok t ↔ row.Reads src ms t := by
  induction row with
  | done =>
    cases t
    simp [finish, Reads]
  | field name read absent rest ih =>
    obtain ⟨a, s⟩ := s
    obtain ⟨b, t⟩ := t
    obtain ⟨slot, filled⟩ := filled
    have only : (∃ a, Slot (read src) (draftsAt name ms) a ∧ a.or absent = some b) ↔
        a.or absent = some b := by
      constructor
      · rintro ⟨a', here, gives⟩
        rwa [slot.unique here]
      · exact fun gives => ⟨a, slot, gives⟩
    have given : (field name read absent rest).finish (a, s) =
        (a.or absent).elim (refuse (.missingField name)) fun v => do
          return (v, ← rest.finish s) := by
      cases a with
      | some v => rfl
      | none =>
        cases absent with
        | some v => rfl
        | none => rfl
    rw [Reads, only, ← ih filled, given]
    cases a.or absent with
    | some v =>
      simp only [Option.elim_some, bind_eq_ok, pure_eq_ok, Prod.mk.injEq, Option.some.injEq]
      constructor
      · rintro ⟨_, others, rfl, rfl⟩
        exact ⟨rfl, others⟩
      · rintro ⟨rfl, others⟩
        exact ⟨t, others, rfl, rfl⟩
    | none => simp [refuse]

/-- Where a structure is read its fields were filled in before. -/
lemma exists_filled_of_reads {t : τ} (reads : row.Reads src ms t) :
    ∃ s, row.Filled src ms s := by
  induction row with
  | done => exact ⟨(), trivial⟩
  | field name read absent rest ih =>
    obtain ⟨b, t⟩ := t
    obtain ⟨⟨a, slot, -⟩, others⟩ := reads
    obtain ⟨s, filled⟩ := ih others
    exact ⟨(a, s), slot, filled⟩

/-- A structure is read from an object that ends properly and whose members are all admitted, if
each field has something. -/
theorem read_object_eq_ok (distinct : row.names.Nodup) {title : String} {stop : ObjectStop}
    {t : τ} :
    row.read title src (.object ms stop) = .ok t ↔ stop = .closed ∧ (∀ m ∈ ms, row.Admits m) ∧
      ∃ inside, src.inside = .ok inside ∧ row.Reads inside ms t := by
  simp only [read, bind_eq_ok, orFault_eq_ok]
  constructor
  · rintro ⟨inside, into, s, taken, _, ends, given⟩
    obtain ⟨all, filled⟩ := (members_eq_ok distinct (filled_blank row inside)).mp taken
    exact ⟨close_eq_ok.mp ends, all, inside, into, (finish_eq_ok filled).mp given⟩
  · rintro ⟨ends, all, inside, into, given⟩
    obtain ⟨s, filled⟩ := exists_filled_of_reads given
    exact ⟨inside, into, s, (members_eq_ok distinct (filled_blank row inside)).mpr ⟨all, filled⟩,
      (), close_eq_ok.mpr ends, (finish_eq_ok filled).mpr given⟩

/-! ### Arrays -/

/-- Fields are read from the items in order, until there are neither fields nor items left. -/
lemma listed_eq_ok {wanted : String} {i : Nat} {ds : List Draft} {t : τ} :
    row.listed src wanted .closed i ds = .ok (t, []) ↔ row.Listed src t ds := by
  induction row generalizing i ds with
  | done =>
    cases t
    simp [listed, Listed]
  | field name read absent rest ih =>
    obtain ⟨b, t⟩ := t
    cases ds with
    | nil =>
      rw [Listed, ← ih (i := i + 1)]
      cases absent with
      | some v =>
        simp only [listed, bind_eq_ok, pure_eq_ok, orFault_eq_ok, Prod.exists, Prod.mk.injEq,
          Option.some.injEq]
        constructor
        · rintro ⟨_, -, _, _, given, ⟨rfl, rfl⟩, rfl⟩
          exact ⟨rfl, given⟩
        · rintro ⟨rfl, given⟩
          exact ⟨(), rfl, t, [], given, ⟨rfl, rfl⟩, rfl⟩
      | none => simp [listed, bind_eq_ok, refuse]
    | cons d ds =>
      rw [Listed, ← ih (i := i + 1)]
      simp only [listed, bind_eq_ok, pure_eq_ok, Prod.exists, Prod.mk.injEq]
      constructor
      · rintro ⟨_, here, _, _, given, ⟨rfl, rfl⟩, rfl⟩
        exact ⟨here, given⟩
      · rintro ⟨here, given⟩
        exact ⟨b, here, t, [], given, ⟨rfl, rfl⟩, rfl⟩

/-- A structure is read from an array that ends properly and has no more items than there are
fields, if each field has something. -/
theorem read_array_eq_ok {title : String} {ds : List Draft} {stop : ListStop} {t : τ} :
    row.read title src (.array ds stop) = .ok t ↔
      stop = .closed ∧ ∃ inside, src.inside = .ok inside ∧ row.Listed inside t ds := by
  simp only [read, bind_eq_ok, orFault_eq_ok, pure_eq_ok]
  constructor
  · rintro ⟨inside, into, ⟨t', left⟩, taken, _, ends, rfl⟩
    obtain ⟨rfl, rfl⟩ := Source.closeArray_eq_ok.mp ends
    exact ⟨rfl, inside, into, listed_eq_ok.mp taken⟩
  · rintro ⟨rfl, inside, into, given⟩
    exact ⟨inside, into, (t, []), listed_eq_ok.mpr given, (),
      Source.closeArray_eq_ok.mpr ⟨rfl, rfl⟩, rfl⟩

/-- A structure is read from objects and arrays only. -/
lemma object_or_array_of_read {title : String} {t : τ} (given : row.read title src d = .ok t) :
    (∃ ms stop, d = .object ms stop) ∨ ∃ ds stop, d = .array ds stop := by
  cases d with
  | object ms stop => exact .inl ⟨ms, stop, rfl⟩
  | array ds stop => exact .inr ⟨ds, stop, rfl⟩
  | _ => exact absurd given Draft.refuse_ne_ok

end Row

end FlowGraph.Json
