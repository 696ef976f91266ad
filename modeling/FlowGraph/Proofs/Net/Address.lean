import FlowGraph.Proofs.Net.Numbers
import Mathlib.Data.List.TakeWhile

/-!
# Addresses are read back

The text of every address is read as the address, in each of the forms that a text may have: dotted,
in groups, in groups around the longest run of zeros, and as a mapped address
(`Address.ofText?_text`). The same holds for socket addresses with any scope and port
(`SocketAddress.ofText?_text`).
-/

namespace FlowGraph.Net

namespace Reads

variable {base : Nat} {cs rest : List Char}

/-! ### What is no number -/

/-- Nothing at all does not start with a digit. -/
lemma blank_nil : Blank base [] := rfl

/-- A text does not start with a digit if its first character is none. -/
lemma blank_cons {c : Char} (other : digit? base c = none) (rest : List Char) :
    Blank base (c :: rest) := by
  rw [Blank, digits, other]

/-- What is no hexadecimal digit is no decimal one. -/
lemma digit?_decimal {c : Char} (other : digit? 16 c = none) : digit? 10 c = none := by
  simp only [digit?] at other ⊢
  -- a value below ten is below sixteen
  split_ifs at other ⊢ <;> first | rfl | omega

/-- What does not start with a hexadecimal digit does not start with a decimal one. -/
lemma Blank.decimal (blank : Blank 16 cs) : Blank 10 cs := by
  cases cs with
  | nil => exact blank_nil
  | cons c more =>
    apply blank_cons
    apply digit?_decimal
    rw [Blank, digits] at blank
    cases read : digit? 16 c with
    | none => rfl
    | some d =>
      rw [read] at blank
      cases blank

/-- No number is read where no digit stands. -/
lemma number_of_blank {form : NumberForm} (blank : Blank form.base cs) : number form cs = none := by
  rw [number, blank]
  simp [NumberForm.admits]

/-- No group is read where no hexadecimal digit stands. -/
lemma group_of_blank (blank : Blank 16 cs) : group cs = none := by
  rw [group, number_of_blank blank]
  rfl

/-- No dotted address is read where no decimal digit stands. -/
lemma ipv4_of_blank (blank : Blank 10 cs) : ipv4 cs = none := by
  rw [ipv4, octet, number_of_blank blank]
  rfl

/-! ### Numbers of addresses -/

/-- An octet is read from its decimal digits, if no other digit follows them. -/
lemma octet_toDigits (o : UInt8) (blank : Blank 10 rest) :
    octet (Nat.toDigits 10 o.toNat ++ rest) = some (o, rest) := by
  have limit : o.toNat < 0x100 := o.toNat_lt
  have width : ∀ w, some 3 = some w → (Nat.toDigits 10 o.toNat).length ≤ w := by
    intro w same
    cases same
    exact (Nat.length_toDigits_le_iff (by decide) (by decide)).mpr (Nat.lt_trans limit (by decide))
  have read : number ⟨10, some 3, false, 0x100⟩ (Nat.toDigits 10 o.toNat ++ rest) =
      some (o.toNat, rest) := number_toDigits (by decide) (by decide) limit width blank
  simp [octet, read]

/-- A group is read from its hexadecimal digits, if no other digit follows them. -/
lemma group_toDigits (g : UInt16) (blank : Blank 16 rest) :
    group (Nat.toDigits 16 g.toNat ++ rest) = some (g, rest) := by
  have limit : g.toNat < 0x10000 := g.toNat_lt
  have width : ∀ w, some 4 = some w → (Nat.toDigits 16 g.toNat).length ≤ w := by
    intro w same
    cases same
    exact (Nat.length_toDigits_le_iff (by decide) (by decide)).mpr limit
  have read : number ⟨16, some 4, true, 0x10000⟩ (Nat.toDigits 16 g.toNat ++ rest) =
      some (g.toNat, rest) := number_toDigits (by decide) (by decide) limit width blank
  simp [group, read]

end Reads

/-! ### Dotted addresses -/

/-- The characters of a dotted address are those of its octets, with points between them. -/
lemma IPv4.toList_text (ip : IPv4) : ip.text.toList =
    Nat.toDigits 10 ip.a.toNat ++ '.' :: (Nat.toDigits 10 ip.b.toNat ++ '.' ::
      (Nat.toDigits 10 ip.c.toNat ++ '.' :: Nat.toDigits 10 ip.d.toNat)) := by
  simp [IPv4.text, decimal]

namespace Reads

variable {rest : List Char}

/-- A dotted address is read from its text, if no other digit follows it. -/
lemma ipv4_text (ip : IPv4) (blank : Blank 10 rest) :
    ipv4 (ip.text.toList ++ rest) = some (ip, rest) := by
  have dot : ∀ more, Blank 10 ('.' :: more) := blank_cons (by decide)
  simp only [IPv4.toList_text, List.append_assoc, List.cons_append, ipv4, octet_toDigits _ (dot _),
    octet_toDigits _ blank, char, bind, Option.bind, if_true]
  rfl

/-! ### Groups -/

/-- A group that stands before this text ends there, and is not taken for an octet. -/
structure GroupEnds (rest : List Char) : Prop where
  blank : Blank 16 rest
  noPoint : ∀ more, rest ≠ '.' :: more

/-- A group ends where the text does. -/
lemma groupEnds_nil : GroupEnds [] := ⟨blank_nil, nofun⟩

/-- A group ends at a colon. -/
lemma groupEnds_colon (more : List Char) : GroupEnds (':' :: more) :=
  ⟨blank_cons (by decide) more, nofun⟩

/-- Groups with a colon before each. -/
def colonGroups (gs : List UInt16) : List Char :=
  gs.flatMap fun g => ':' :: Nat.toDigits 16 g.toNat

/-- A colon and a group stand in front of the others. -/
lemma colonGroups_cons (g : UInt16) (gs : List UInt16) :
    colonGroups (g :: gs) = ':' :: (Nat.toDigits 16 g.toNat ++ colonGroups gs) := rfl

/-- A group ends before others that have a colon before each. -/
lemma GroupEnds.colonGroups (ends : GroupEnds rest) (gs : List UInt16) :
    GroupEnds (colonGroups gs ++ rest) := by
  cases gs with
  | nil => exact ends
  | cons g more => exact groupEnds_colon _

/-- No point comes after the decimal digits that hexadecimal ones start with. -/
lemma GroupEnds.digits_ne {ds : List Nat} (ends : GroupEnds rest) (small : ∀ d ∈ ds, d < 16)
    (more : List Char) : (digits 10 (ds.map Nat.digitChar ++ rest)).2 ≠ '.' :: more := by
  induction ds with
  | nil =>
    rw [List.map_nil, List.nil_append, ends.blank.decimal]
    exact ends.noPoint more
  | cons d ds ih =>
    obtain ⟨first, others⟩ := List.forall_mem_cons.mp small
    rw [List.map_cons, List.cons_append, digits]
    cases digit? 10 d.digitChar with
    | some _ => exact ih others
    | none =>
      have noPoint : ∀ d < 16, d.digitChar ≠ '.' := by decide
      rw [ne_eq, List.cons.injEq, not_and]
      exact fun same => absurd same (noPoint d first)

/-- A character is not taken where another one stands. -/
lemma char_eq_none {c : Char} (other : ∀ more, cs ≠ c :: more) : char c cs = none := by
  cases cs with
  | nil => rfl
  | cons d more =>
    rw [char, if_neg]
    rintro rfl
    exact other more rfl

/-- What is left behind an octet is what its digits leave. -/
lemma eq_of_octet {o : UInt8} {left : List Char} (read : octet cs = some (o, left)) :
    left = (digits 10 cs).2 := by
  simp only [octet, number, Option.map_eq_some_iff] at read
  obtain ⟨found, taken, same⟩ := read
  split at taken
  · cases taken
    cases same
    rfl
  · cases taken

/-- A group is no dotted address. -/
lemma GroupEnds.ipv4_eq_none (ends : GroupEnds rest) (n : Nat) :
    ipv4 (Nat.toDigits 16 n ++ rest) = none := by
  have two : 1 < 16 := by decide
  obtain ⟨ds, writes⟩ := exists_numeral two n
  rw [writes.text, ipv4]
  cases read : octet (ds.map Nat.digitChar ++ rest) with
  | none => rfl
  | some found =>
    obtain ⟨o, left⟩ := found
    -- an octet leaves what comes after its digits, and there is no point
    have stopped : char '.' left = none := by
      apply char_eq_none
      rw [eq_of_octet read]
      exact ends.digits_ne writes.small
    simp only [bind, Option.bind, stopped]

/-- Nothing is read where no group starts. -/
lemma groups_of_blank (blank : Blank 16 cs) (room : Nat) :
    groups room false cs = ([], false, cs) := by
  cases room with
  | zero => rfl
  | succ room => simp [groups, ipv4_of_blank blank.decimal, group_of_blank blank]

/-- Nothing more is read if no group starts behind a colon. -/
lemma groups_of_no_colon {room : Nat}
    (ends : 0 < room → ∀ more, cs = ':' :: more → Blank 16 more) :
    groups room true cs = ([], false, cs) := by
  cases room with
  | zero => rfl
  | succ room =>
    by_cases colon : ∃ more, cs = ':' :: more
    · obtain ⟨more, rfl⟩ := colon
      have blank : Blank 16 more := ends (Nat.succ_pos room) more rfl
      simp [groups, char, ipv4_of_blank blank.decimal, group_of_blank blank]
    · have other : char ':' cs = none := char_eq_none (not_exists.mp colon)
      simp [groups, other]

/-- A group is read, and then those that come after it. -/
lemma groups_succ (ends : GroupEnds rest) (g : UInt16) (room : Nat) (due : Bool) :
    groups (room + 1) due ((if due then [':'] else []) ++ (Nat.toDigits 16 g.toNat ++ rest)) =
      (g :: (groups room true rest).1, (groups room true rest).2) := by
  cases due with
  | false => simp [groups, ends.ipv4_eq_none, group_toDigits g ends.blank]
  | true => simp [groups, char, ends.ipv4_eq_none, group_toDigits g ends.blank]

/-- Groups with colons before them are read, and then those that come after them. -/
lemma groups_colonGroups (ends : GroupEnds rest) {gs : List UInt16} {room : Nat}
    (fit : gs.length ≤ room) : groups room true (colonGroups gs ++ rest) =
      (gs ++ (groups (room - gs.length) true rest).1, (groups (room - gs.length) true rest).2) := by
  induction gs generalizing room with
  | nil => rfl
  | cons g more ih =>
    rw [List.length_cons] at fit ⊢
    obtain ⟨room, rfl⟩ := Nat.exists_eq_add_of_le' (Nat.le_trans (Nat.le_add_left 1 _) fit)
    have first := groups_succ (ends.colonGroups more) g room true
    have others := ih (Nat.le_of_succ_le_succ fit)
    rw [others] at first
    rw [colonGroups_cons, Nat.add_sub_add_right, List.cons_append, List.append_assoc]
    exact first

end Reads

/-- The text of groups is the first one, and the others with a colon before each. -/
lemma IPv6.toList_groupsText_cons (g : UInt16) (gs : List UInt16) :
    (groupsText (g :: gs)).toList = Nat.toDigits 16 g.toNat ++ Reads.colonGroups gs := by
  induction gs generalizing g with
  | nil => simp [groupsText, hexadecimal, Reads.colonGroups]
  | cons h more ih =>
    have text : groupsText (g :: h :: more) =
        hexadecimal g.toNat ++ ":" ++ groupsText (h :: more) := String.intercalate_cons_cons
    rw [text, String.toList_append, String.toList_append, ih h, Reads.colonGroups_cons, hexadecimal,
      String.toList_ofList, List.append_assoc]
    rfl

namespace Reads

variable {rest : List Char}

/-- Groups are read from their text, if no group comes after them. -/
lemma groups_text (ends : GroupEnds rest) {gs : List UInt16} {room : Nat} (fit : gs.length ≤ room)
    (last : gs.length < room → ∀ more, rest = ':' :: more → Blank 16 more) :
    groups room false ((IPv6.groupsText gs).toList ++ rest) = (gs, false, rest) := by
  cases gs with
  | nil => exact groups_of_blank ends.blank room
  | cons g more =>
    rw [List.length_cons] at fit last
    obtain ⟨room, rfl⟩ := Nat.exists_eq_add_of_le' (Nat.le_trans (Nat.le_add_left 1 _) fit)
    have behind : groups (room - more.length) true rest = ([], false, rest) :=
      groups_of_no_colon fun left => last (by omega)
    have first := groups_succ (ends.colonGroups more) g room false
    rw [groups_colonGroups ends (Nat.le_of_succ_le_succ fit), behind, List.append_nil] at first
    rw [IPv6.toList_groupsText_cons, List.append_assoc]
    exact first

/-- Behind a colon a dotted address stands for two groups. -/
lemma groups_dotted (ip : IPv4) (blank : Blank 10 rest) (room : Nat) :
    groups (room + 2) true (':' :: (ip.text.toList ++ rest)) =
      (IPv6.groupsOfIPv4 ip, true, rest) := by
  simp [groups, char, ipv4_text ip blank]

end Reads

/-! ### Addresses in groups -/

namespace IPv6

/-- An address has eight groups. -/
lemma length_toList (ip : IPv6) : ip.toList.length = 8 := Vector.length_toList

/-- An address is made of its groups. -/
lemma ofGroups?_toList (ip : IPv6) : ofGroups? ip.toList = some ip := by
  rw [ofGroups?, dif_pos ip.length_toList]
  rfl

/-- A group is made of its two octets. -/
lemma group_of_octets (g : UInt16) :
    (g / 256).toUInt8.toUInt16 * 256 + g.toUInt8.toUInt16 = g := by
  have limit : g.toNat < 0x10000 := g.toNat_lt
  rw [← UInt16.toNat_inj]
  simp
  omega

/-- A mapped address is made of the address for which it stands. -/
lemma toList_of_mapped {ip : IPv6} {inner : IPv4} (mapped : ip.mapped? = some inner) :
    ip.toList = List.replicate 5 0 ++ 0xffff :: groupsOfIPv4 inner := by
  unfold mapped? at mapped
  split at mapped
  · next hi lo groups =>
    cases mapped
    rw [groups, groupsOfIPv4, group_of_octets, group_of_octets]
    rfl
  · cases mapped

/-- As many zeros as are counted stand in front. -/
lemma exists_leadingZeros (gs : List UInt16) :
    ∃ after, gs = List.replicate (leadingZeros gs) 0 ++ after := by
  have zeros : gs.takeWhile (· == 0) = List.replicate (leadingZeros gs) 0 := by
    rw [leadingZeros, List.eq_replicate_iff]
    refine ⟨rfl, fun g mem => ?_⟩
    simpa using List.mem_takeWhile_imp mem
  refine ⟨gs.dropWhile (· == 0), ?_⟩
  rw [← zeros, List.takeWhile_append_dropWhile]

/-- One more group is the start of the longest run of zeros, or it moves this run by one place. -/
lemma longestZeros_cons (g : UInt16) (gs : List UInt16) : longestZeros (g :: gs) =
    if (longestZeros gs).2 ≤ leadingZeros (g :: gs) then (0, leadingZeros (g :: gs))
      else ((longestZeros gs).1 + 1, (longestZeros gs).2) := rfl

/-- The longest run of zeros is a run of zeros. -/
lemma exists_longestZeros (gs : List UInt16) : ∃ before after, gs = before ++
    (List.replicate (longestZeros gs).2 0 ++ after) ∧ before.length = (longestZeros gs).1 := by
  induction gs with
  | nil => exact ⟨[], [], rfl, rfl⟩
  | cons g more ih =>
    rw [longestZeros_cons]
    split
    · obtain ⟨after, zeros⟩ := exists_leadingZeros (g :: more)
      exact ⟨[], after, zeros, rfl⟩
    · obtain ⟨before, after, run, start⟩ := ih
      refine ⟨g :: before, after, ?_, ?_⟩
      · rw [List.cons_append, ← run]
      · rw [List.length_cons, start]

/-- An address that is not mapped is written in groups, around its longest run of zeros if this has
more than one. -/
lemma text_of_not_mapped {ip : IPv6} (unmapped : ip.mapped? = none) : ip.text =
    if 1 < (longestZeros ip.toList).2 then
      groupsText (ip.toList.take (longestZeros ip.toList).1) ++ "::" ++
        groupsText (ip.toList.drop ((longestZeros ip.toList).1 + (longestZeros ip.toList).2))
    else groupsText ip.toList := by
  rw [text, unmapped]

/-- The three forms of a text: mapped, in groups around at least two zeros, and in full. -/
inductive Form (ip : IPv6) : List Char → Prop where
  | mapped {inner : IPv4} : ip.toList = List.replicate 5 0 ++ 0xffff :: groupsOfIPv4 inner →
    Form ip (':' :: ':' :: (Nat.toDigits 16 0xffff ++ ':' :: inner.text.toList))
  | around {before after : List UInt16} {n : Nat} : 1 < n →
    ip.toList = before ++ (List.replicate n 0 ++ after) →
    Form ip ((groupsText before).toList ++ ':' :: ':' :: (groupsText after).toList)
  | full : Form ip (groupsText ip.toList).toList

/-- The text of every address has one of the three forms. -/
lemma form_text (ip : IPv6) : Form ip ip.text.toList := by
  cases mapped : ip.mapped? with
  | some inner =>
    rw [text, mapped, String.toList_append]
    exact .mapped (toList_of_mapped mapped)
  | none =>
    rw [text_of_not_mapped mapped]
    obtain ⟨before, after, run, start⟩ := exists_longestZeros ip.toList
    split
    · next several =>
      have form := Form.around several run
      generalize longestZeros ip.toList = zeros at *
      have head : ip.toList.take zeros.1 = before := by
        rw [run]
        exact List.take_left' start
      have tail : ip.toList.drop (zeros.1 + zeros.2) = after := by
        rw [run, ← List.append_assoc]
        apply List.drop_left'
        rw [List.length_append, List.length_replicate, start]
      rw [head, tail, String.toList_append, String.toList_append, List.append_assoc]
      exact form
    · exact .full

end IPv6

namespace Reads

variable {cs rest : List Char}

/-- Groups on both sides of a double colon, which stands for the zeros that are missing. -/
lemma ipv6_around {ip : IPv6} {head tail : List UInt16} {dotted : Bool} {more : List Char}
    (first : groups 8 false cs = (head, false, ':' :: ':' :: more))
    (second : groups (7 - head.length) false more = (tail, dotted, rest))
    (short : head.length < 8)
    (whole : head ++ List.replicate (8 - head.length - tail.length) 0 ++ tail = ip.toList) :
    ipv6 cs = some (ip, rest) := by
  rw [ipv6, first]
  simp only [if_neg (Nat.ne_of_lt short), char, if_true, bind, Option.bind, second, whole,
    IPv6.ofGroups?_toList, Bool.false_eq_true, if_false]
  rfl

/-- The text of an IPv6 address is read as the address, if no further group can follow it. -/
lemma ipv6_text (ip : IPv6) (ends : GroupEnds rest) (last : ∀ more, rest ≠ ':' :: more) :
    ipv6 (ip.text.toList ++ rest) = some (ip, rest) := by
  have form := ip.form_text
  have eight := ip.length_toList
  generalize ip.text.toList = cs at form
  cases form with
  | @mapped inner whole =>
    have first : groups 8 false (':' :: ':' :: (Nat.toDigits 16 0xffff ++ ':' ::
        (inner.text.toList ++ rest))) = _ := groups_of_blank (groupEnds_colon _).blank 8
    have second : groups 7 false (Nat.toDigits 16 0xffff ++ ':' :: (inner.text.toList ++ rest)) =
        (0xffff :: IPv6.groupsOfIPv4 inner, true, rest) := by
      have group := groups_succ (groupEnds_colon (inner.text.toList ++ rest)) 0xffff 6 false
      rwa [groups_dotted inner ends.blank.decimal 4] at group
    have read := ipv6_around first second (by decide) whole.symm
    simpa using read
  | @around before after n several run =>
    have lengths : before.length + (n + after.length) = 8 := by
      rw [← eight, run, List.length_append, List.length_append, List.length_replicate]
    have first : groups 8 false ((IPv6.groupsText before).toList ++ ':' :: ':' ::
        ((IPv6.groupsText after).toList ++ rest)) =
        (before, false, ':' :: ':' :: ((IPv6.groupsText after).toList ++ rest)) := by
      apply groups_text (groupEnds_colon _) (by omega)
      rintro - more ⟨⟩
      exact (groupEnds_colon _).blank
    have second : groups (7 - before.length) false ((IPv6.groupsText after).toList ++ rest) =
        (after, false, rest) := by
      apply groups_text ends (by omega)
      intro _ more colon
      exact absurd colon (last more)
    have zeros : 8 - before.length - after.length = n := by omega
    have read := ipv6_around first second (by omega) (by rw [zeros, run, List.append_assoc])
    simpa using read
  | full =>
    rw [ipv6, groups_text ends (Nat.le_of_eq eight) (by simp [eight])]
    simp only [eight, if_true, IPv6.ofGroups?_toList]
    rfl

/-- The text of an IPv6 address is no dotted address, whatever follows it. -/
lemma ipv4_text_v6 (ip : IPv6) (rest : List Char) : ipv4 (ip.text.toList ++ rest) = none := by
  have form := ip.form_text
  have eight := ip.length_toList
  generalize ip.text.toList = cs at form
  -- the text starts with a colon, or with a group and a colon after it
  have starts : ∀ gs more, ipv4 ((IPv6.groupsText gs).toList ++ ':' :: more) = none := by
    intro gs more
    cases gs with
    | nil => exact ipv4_of_blank (groupEnds_colon _).blank.decimal
    | cons g gs =>
      rw [IPv6.toList_groupsText_cons, List.append_assoc]
      exact ((groupEnds_colon more).colonGroups gs).ipv4_eq_none g.toNat
  cases form with
  | mapped _ => exact ipv4_of_blank (groupEnds_colon _).blank.decimal
  | around _ _ =>
    rw [List.append_assoc]
    exact starts _ _
  | full =>
    cases groups : ip.toList with
    | nil =>
      rw [groups] at eight
      cases eight
    | cons g more =>
      cases more with
      | nil =>
        rw [groups] at eight
        cases eight
      | cons h more =>
        rw [IPv6.toList_groupsText_cons, colonGroups_cons, List.append_assoc]
        exact (groupEnds_colon _).ipv4_eq_none g.toNat

/-- An address is read from its text, if neither a hexadecimal digit nor a point nor a colon follows
it. -/
lemma address_text (a : Address) (ends : GroupEnds rest) (last : ∀ more, rest ≠ ':' :: more) :
    address (a.text.toList ++ rest) = some (a, rest) := by
  cases a with
  | v4 ip => rw [Address.text, address, ipv4_text ip ends.blank.decimal]
  | v6 ip =>
    rw [Address.text, address, ipv4_text_v6, ipv6_text ip ends last]
    rfl

/-! ### Socket addresses -/

/-- A port is read from its digits behind a colon, up to the end. -/
lemma port_toDigits (p : UInt16) : port (':' :: Nat.toDigits 10 p.toNat) = some (p, []) := by
  have limit : p.toNat < 0x10000 := p.toNat_lt
  have read : number ⟨10, none, true, 0x10000⟩ (Nat.toDigits 10 p.toNat ++ []) =
      some (p.toNat, []) := number_toDigits (by decide) (by decide) limit nofun blank_nil
  rw [List.append_nil] at read
  simp [port, char, read]

/-- A scope is read from its digits behind a percent sign, if no other digit follows them. -/
lemma scope_toDigits (s : UInt32) (blank : Blank 10 rest) :
    scope ('%' :: (Nat.toDigits 10 s.toNat ++ rest)) = some (s, rest) := by
  have limit : s.toNat < 0x100000000 := s.toNat_lt
  have read : number ⟨10, none, true, 0x100000000⟩ (Nat.toDigits 10 s.toNat ++ rest) =
      some (s.toNat, rest) := number_toDigits (by decide) (by decide) limit nofun blank
  simp [scope, char, read]

end Reads

/-- The text of every address is read as the address. -/
theorem Address.ofText?_text (a : Address) : Address.ofText? a.text = some a := by
  have read := Reads.address_text a Reads.groupEnds_nil nofun
  rw [List.append_nil] at read
  rw [Address.ofText?, Reads.whole, read]

namespace SocketAddress

/-- The characters of an IPv4 socket address are those of its address and its port, with a colon
between them. -/
lemma toList_text_v4 (ip : IPv4) (p : UInt16) : (SocketAddress.v4 ip p).text.toList =
    ip.text.toList ++ ':' :: Nat.toDigits 10 p.toNat := by
  simp [text, decimal]

/-- What stands between an address and its closing bracket. -/
def zone (s : UInt32) : List Char := if s = 0 then [] else '%' :: Nat.toDigits 10 s.toNat

/-- The characters of an IPv6 socket address are those of its address and its zone in brackets, and
then a colon and its port. -/
lemma toList_text_v6 (ip : IPv6) (p : UInt16) (s : UInt32) : (SocketAddress.v6 ip p s).text.toList =
    '[' :: (ip.text.toList ++ (zone s ++ ']' :: ':' :: Nat.toDigits 10 p.toNat)) := by
  by_cases zero : s = 0
  · simp [text, decimal, zone, zero]
  · simp [text, decimal, zone, zero]

end SocketAddress

namespace Reads

/-- The scope is read from the zone, and it is zero where there is none. -/
lemma scope_zone (s : UInt32) (more : List Char) :
    scope (SocketAddress.zone s ++ ']' :: more) = some (s, ']' :: more) := by
  rw [SocketAddress.zone]
  split
  · next zero =>
    rw [zero]
    rfl
  · exact scope_toDigits s (blank_cons (by decide) more)

/-- No group goes on into a zone or a bracket. -/
lemma groupEnds_zone (s : UInt32) (more : List Char) :
    GroupEnds (SocketAddress.zone s ++ ']' :: more) := by
  rw [SocketAddress.zone]
  split
  · exact ⟨blank_cons (by decide) more, nofun⟩
  · exact ⟨blank_cons (by decide) _, nofun⟩

/-- No colon stands in front of a zone or a bracket. -/
lemma zone_ne_colon (s : UInt32) (more left : List Char) :
    SocketAddress.zone s ++ ']' :: more ≠ ':' :: left := by
  rw [SocketAddress.zone]
  split <;> exact nofun

/-- A socket address is read from all of its text. -/
lemma socket_text (s : SocketAddress) : socket s.text.toList = some (s, []) := by
  cases s with
  | v4 ip p =>
    have colon : Blank 10 (':' :: Nat.toDigits 10 p.toNat) := blank_cons (by decide) _
    rw [SocketAddress.toList_text_v4, socket, socketV4, ipv4_text ip colon]
    simp [port_toDigits]
  | v6 ip p s =>
    have bracket : Blank 10 ('[' :: (ip.text.toList ++ (SocketAddress.zone s ++ ']' :: ':' ::
      Nat.toDigits 10 p.toNat))) := blank_cons (by decide) _
    rw [SocketAddress.toList_text_v6, socket, socketV4, ipv4_of_blank bracket]
    simp [socketV6, char, ipv6_text ip (groupEnds_zone s _) (zone_ne_colon s _), scope_zone,
      port_toDigits]

end Reads

/-- The text of every socket address is read as the socket address. -/
theorem SocketAddress.ofText?_text (s : SocketAddress) : SocketAddress.ofText? s.text = some s := by
  rw [SocketAddress.ofText?, Reads.whole, Reads.socket_text]

end FlowGraph.Net
