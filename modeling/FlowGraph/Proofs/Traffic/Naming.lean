import FlowGraph.Proofs.Net.Address
import FlowGraph.Traffic.Connection

/-!
# Texts tell connections apart

A container may be called anything, so the text of a connection has to be taken apart from its end:
what stands behind the last closing parenthesis is the destination, and what stands between it and
the last opening one is the source (`Connection.identified_by_text`). Neither of these two goes on
with a parenthesis, since addresses, numbers and protocols are written with few characters
(`plainCharacters`), and no blank, bracket, parenthesis or slash is among them.
-/

namespace FlowGraph

/-! ### The last separator -/

section Parts

variable {α : Type} {c : α} {before after before' after' more : List α}

/-- If a list starts with its only separator, nothing stands before a separator of it. -/
lemma eq_nil_of_last (same : c :: after = more ++ c :: after') (last : c ∉ after) : more = [] := by
  cases more with
  | nil => rfl
  | cons d more =>
    cases same
    exact absurd (List.mem_append_right more List.mem_cons_self) last

/-- A list has one last separator, so both sides of it are determined. -/
lemma parts_of_last (same : before ++ c :: after = before' ++ c :: after') (last : c ∉ after)
    (last' : c ∉ after') : before = before' ∧ after = after' := by
  rcases List.append_eq_append_iff.mp same with ⟨more, rfl, rest⟩ | ⟨more, rfl, rest⟩
  · obtain rfl := eq_nil_of_last rest last
    exact ⟨(List.append_nil before).symm, (List.cons.inj rest).2⟩
  · obtain rfl := eq_nil_of_last rest last'
    exact ⟨List.append_nil before', (List.cons.inj rest).2.symm⟩

end Parts

namespace Net

/-! ### Characters of the parts -/

/-- The digits of all bases up to sixteen. -/
def digitCharacters : List Char := (List.range 16).map Nat.digitChar

/-- The characters of addresses, numbers and protocols. -/
def plainCharacters : List Char :=
  digitCharacters ++ ['.', ':', '-', 'i', 'm', 'o', 'p', 'r', 't', 'u']

/-- Numbers are written with digits. -/
lemma toDigits_subset {base : Nat} (two : 1 < base) (bound : base ≤ 16) (n : Nat) :
    Nat.toDigits base n ⊆ digitCharacters := by
  obtain ⟨ds, writes⟩ := Reads.exists_numeral two n
  rw [writes.text]
  apply List.map_subset
  intro d mem
  exact List.mem_range.mpr (Nat.lt_of_lt_of_le (writes.small d mem) bound)

/-- Numbers are written with plain characters. -/
lemma toDigits_subset_plain {base : Nat} (two : 1 < base) (bound : base ≤ 16) (n : Nat) :
    Nat.toDigits base n ⊆ plainCharacters :=
  List.Subset.trans (toDigits_subset two bound n) (List.subset_append_left _ _)

/-- Numbers with the same digits are the same. -/
lemma toDigits_injective : Function.Injective (Nat.toDigits 10) := by
  intro m n same
  rw [← @Nat.ofDigitChars_ten_toDigits m, same, Nat.ofDigitChars_ten_toDigits]

/-- Dotted addresses are written with plain characters. -/
lemma IPv4.text_subset (ip : IPv4) : ip.text.toList ⊆ plainCharacters := by
  have octet : ∀ n, Nat.toDigits 10 n ⊆ plainCharacters :=
    toDigits_subset_plain (by decide) (by decide)
  have point : '.' ∈ plainCharacters := by decide
  rw [toList_text]
  simp only [List.append_subset, List.cons_subset, octet, point, and_self]

namespace IPv6

/-- Groups with a colon before each are written with plain characters. -/
lemma colonGroups_subset (gs : List UInt16) : Reads.colonGroups gs ⊆ plainCharacters := by
  induction gs with
  | nil => exact List.nil_subset _
  | cons g more ih =>
    rw [Reads.colonGroups_cons, List.cons_subset, List.append_subset]
    exact ⟨by decide, toDigits_subset_plain (by decide) (by decide) _, ih⟩

/-- Groups with a colon between them are written with plain characters. -/
lemma groupsText_subset (gs : List UInt16) : (groupsText gs).toList ⊆ plainCharacters := by
  cases gs with
  | nil => exact List.nil_subset _
  | cons g more =>
    rw [toList_groupsText_cons, List.append_subset]
    exact ⟨toDigits_subset_plain (by decide) (by decide) _, colonGroups_subset more⟩

/-- IPv6 addresses are written with plain characters, in whichever form. -/
lemma text_subset (ip : IPv6) : ip.text.toList ⊆ plainCharacters := by
  have colon : ':' ∈ plainCharacters := by decide
  have form := ip.form_text
  generalize ip.text.toList = cs at form
  cases form with
  | @mapped inner _ =>
    have mark : Nat.toDigits 16 0xffff ⊆ plainCharacters :=
      toDigits_subset_plain (by decide) (by decide) _
    simp only [List.append_subset, List.cons_subset, colon, mark, inner.text_subset, and_self]
  | @around before after _ _ _ =>
    simp only [List.append_subset, List.cons_subset, colon, groupsText_subset, and_self]
  | full => exact groupsText_subset _

end IPv6

namespace Address

/-- Addresses of both families are written with plain characters. -/
lemma text_subset (a : Address) : a.text.toList ⊆ plainCharacters := by
  cases a with
  | v4 ip => exact ip.text_subset
  | v6 ip => exact ip.text_subset

/-- Addresses with the same text are the same, also if they may be of different families. -/
lemma text_injective : Function.Injective text := by
  intro a b same
  have read := ofText?_text a
  rw [same, ofText?_text] at read
  exact (Option.some.inj read).symm

end Address

namespace Protocol

/-- A protocol without a name is written with its number. -/
lemma toList_text_other (n : UInt16) : (other n).text.toList =
    ['p', 'r', 'o', 't', 'o', '-'] ++ Nat.toDigits 10 n.toNat := by
  simp [text, decimal]

/-- Protocols are written with plain characters. -/
lemma text_subset (p : Protocol) : p.text.toList ⊆ plainCharacters := by
  cases p with
  | icmp => decide
  | tcp => decide
  | udp => decide
  | other n =>
    rw [toList_text_other, List.append_subset]
    exact ⟨by decide, toDigits_subset_plain (by decide) (by decide) _⟩

/-- Protocols with the same text are the same, also if one has a name and the other has a number. -/
lemma text_injective : Function.Injective text := by
  intro p q same
  have texts := congrArg String.toList same
  cases p with
  | other m =>
    cases q with
    | other n =>
      rw [toList_text_other, toList_text_other, List.append_cancel_left_eq] at texts
      rw [UInt16.toNat_inj.mp (toDigits_injective texts)]
    | _ =>
      -- a name starts with another letter than a number does
      rw [toList_text_other] at texts
      cases texts
  | _ =>
    cases q with
    | other n =>
      rw [toList_text_other] at texts
      cases texts
    | _ => first | rfl | cases texts

end Protocol

/-! ### Endpoints -/

/-- The characters of endpoints. -/
def endpointCharacters : List Char := '/' :: '[' :: ']' :: plainCharacters

/-- Plain characters are characters of endpoints, too. -/
lemma endpoint_of_plain {cs : List Char} (plain : cs ⊆ plainCharacters) :
    cs ⊆ endpointCharacters :=
  List.Subset.trans plain (List.subset_append_right ['/', '[', ']'] plainCharacters)

/-- How an address stands in the text of an endpoint. -/
def Address.hostText : Address → List Char
  | v4 ip => ip.text.toList
  | v6 ip => '[' :: ip.text.toList ++ [']']

/-- Hosts are written with the characters of endpoints. -/
lemma Address.hostText_subset (a : Address) : a.hostText ⊆ endpointCharacters := by
  have opening : '[' ∈ endpointCharacters := by decide
  have closing : [']'] ⊆ endpointCharacters := by decide
  cases a with
  | v4 ip => exact endpoint_of_plain ip.text_subset
  | v6 ip =>
    have inside := endpoint_of_plain ip.text_subset
    exact List.append_subset.mpr ⟨List.cons_subset.mpr ⟨opening, inside⟩, closing⟩

/-- Hosts with the same text are the same. -/
lemma Address.hostText_injective : Function.Injective Address.hostText := by
  -- the bracket of one family is no character of an address of the other
  have family : ∀ (ip : IPv4) (ip' : IPv6), (v4 ip).hostText ≠ (v6 ip').hostText := by
    intro ip ip' same
    have mem : '[' ∈ (v4 ip).hostText := by
      rw [same]
      exact List.mem_cons_self
    exact absurd (ip.text_subset mem) (by decide)
  intro a b same
  cases a with
  | v4 ip =>
    cases b with
    | v4 ip' => exact text_injective (String.toList_injective same)
    | v6 ip' => exact absurd same (family ip ip')
  | v6 ip =>
    cases b with
    | v4 ip' => exact absurd same.symm (family ip' ip)
    | v6 ip' =>
      have texts := List.append_cancel_right same
      exact text_injective (String.toList_injective (List.cons.inj texts).2)

namespace Endpoint

/-- The characters of an endpoint are those of its host, its port and its protocol, with a colon and
a slash between them. -/
lemma toList_text (e : Endpoint) : e.text.toList =
    (e.address.hostText ++ ':' :: Nat.toDigits 10 e.port.toNat) ++
      '/' :: e.protocol.text.toList := by
  obtain ⟨a, p, q⟩ := e
  cases a with
  | v4 ip => simp [text, decimal, Address.hostText]
  | v6 ip => simp [text, decimal, Address.hostText]

/-- Endpoints are written with their characters, so without a parenthesis or a blank. -/
lemma text_subset (e : Endpoint) : e.text.toList ⊆ endpointCharacters := by
  have colon : ':' ∈ endpointCharacters := by decide
  have slash : '/' ∈ endpointCharacters := by decide
  have port : Nat.toDigits 10 e.port.toNat ⊆ endpointCharacters :=
    endpoint_of_plain (toDigits_subset_plain (by decide) (by decide) _)
  have protocol := endpoint_of_plain e.protocol.text_subset
  rw [toList_text]
  simp only [List.append_subset, List.cons_subset, e.address.hostText_subset, colon, port, slash,
    protocol, and_self]

/-- Endpoints with the same text are the same: the last slash ends the port, and the last colon
before it the host. -/
lemma text_injective : Function.Injective text := by
  intro a b same
  have texts := congrArg String.toList same
  rw [toList_text, toList_text] at texts
  have slash : ∀ p : Protocol, '/' ∉ p.text.toList :=
    fun p mem => absurd (p.text_subset mem) (by decide)
  have colon : ∀ n, ':' ∉ Nat.toDigits 10 n :=
    fun n mem => absurd (toDigits_subset (by decide) (by decide) n mem) (by decide)
  obtain ⟨place, protocol⟩ := parts_of_last texts (slash _) (slash _)
  obtain ⟨host, port⟩ := parts_of_last place (colon _) (colon _)
  obtain ⟨address, p, q⟩ := a
  obtain ⟨address', p', q'⟩ := b
  rw [Endpoint.mk.injEq]
  exact ⟨Address.hostText_injective host, UInt16.toNat_inj.mp (toDigits_injective port),
    Protocol.text_injective (String.toList_injective protocol)⟩

end Endpoint

end Net

/-! ### Connections -/

namespace Traffic.Connection

open Net

/-- The characters of a connection are those of its container, its source in parentheses and, behind
an arrow, its destination. -/
lemma toList_text (c : Connection) : c.text.toList =
    (c.container.toList ++ [' '] ++ '(' :: c.source.text.toList) ++
      ')' :: ([' ', '-', '>', ' '] ++ c.destination.text.toList) := by
  simp [text]

/-- Connections with the same text are the same, whatever their containers are called, and so are
endpoints with the same text. -/
theorem identified_by_text :
    Function.Injective Connection.text ∧ Function.Injective Endpoint.text := by
  refine ⟨fun c d same => ?_, Endpoint.text_injective⟩
  have texts := congrArg String.toList same
  rw [toList_text, toList_text] at texts
  have closing : ∀ e : Endpoint, ')' ∉ [' ', '-', '>', ' '] ++ e.text.toList := by
    intro e mem
    rcases List.mem_append.mp mem with arrow | there
    · exact absurd arrow (by decide)
    · exact absurd (e.text_subset there) (by decide)
  have opening : ∀ a : Address, '(' ∉ a.text.toList :=
    fun a mem => absurd (a.text_subset mem) (by decide)
  obtain ⟨near, far⟩ := parts_of_last texts (closing _) (closing _)
  obtain ⟨name, source⟩ := parts_of_last near (opening _) (opening _)
  obtain ⟨a, container, e⟩ := c
  obtain ⟨a', container', e'⟩ := d
  rw [Connection.mk.injEq]
  exact ⟨Address.text_injective (String.toList_injective source),
    String.toList_injective (List.append_cancel_right name),
    Endpoint.text_injective (String.toList_injective (List.append_cancel_left far))⟩

-- one container is called as if its text went on like that of the other one
example : (Connection.mk (.v4 ⟨10, 0, 0, 1⟩) "web (10.0.0.9) -> db"
      ⟨.v4 ⟨10, 0, 0, 5⟩, 443, .other 132⟩).text ≠
    (Connection.mk (.v4 ⟨10, 0, 0, 9⟩) "web" ⟨.v4 ⟨10, 0, 0, 5⟩, 443, .other 132⟩).text := by
  decide +kernel

end Traffic.Connection

end FlowGraph
