import FlowGraph.Json.Draft
import FlowGraph.Json.Scan.Numbers

/-!
# Taking documents apart

From bytes to drafts. The scanner goes as far as the loose reading can go; what only the strict
reading refuses becomes a bad part that is passed over. Every step gives back what is left of the
text together with the proof that it is shorter, and so the scanner ends.
-/

namespace FlowGraph.Json

/-- The byte of an ASCII character. -/
def byte (c : Char) : UInt8 := c.toNat.toUInt8

/-- Whether a byte may stand between the parts of a document. -/
def isBlank (b : UInt8) : Bool := b == 32 || b == 10 || b == 9 || b == 13

/-- The text from its first byte that is no blank. -/
def skipBlanks (s : Bytes) : Bytes := s.dropWhile isBlank

/-- Skipping blanks leaves no more than there was. -/
theorem length_skipBlanks (s : Bytes) : (skipBlanks s).length ≤ s.length := by
  induction s with
  | nil => exact Nat.le_refl 0
  | cons b rest ih =>
    rw [skipBlanks, List.dropWhile_cons]
    split
    · exact Nat.le_succ_of_le ih
    · exact Nat.le_refl _

/-- Less is left after the first byte that is no blank. -/
theorem length_lt_of_skipBlanks {s rest : Bytes} {b : UInt8} (h : skipBlanks s = b :: rest) :
    rest.length < s.length := by
  have := length_skipBlanks s
  rw [h, List.length_cons] at this
  exact this

/-- What is left of a text, with the proof that it is less; nothing if the scanner is stuck. -/
abbrev Left (s : Bytes) := Option { rest : Bytes // rest.length < s.length }

/-- What is left of a part is left of the whole. -/
def Left.widen {s t : Bytes} (h : s.length ≤ t.length) : Left s → Left t :=
  Option.map fun r => ⟨r.1, Nat.lt_of_lt_of_le r.2 h⟩

/-- The rest of a text after a first byte. -/
def Left.of {s : Bytes} (rest : Bytes) (h : rest.length < s.length) : Left s := some ⟨rest, h⟩

/-- A broken part where the scanner is stuck. -/
def stuck (start : Start) (strict loose : Fault) {s : Bytes} : Draft × Left s :=
  (.bad start strict (some loose), none)

/-- The part that a word stands for. -/
def wordDraft (w : String) (d : Draft) {s : Bytes} (rest : Bytes)
    (h : rest.length < s.length) : Draft × Left s :=
  match hw : word (w.toList.map byte) rest with
  | .ok left => (d, Left.of left (Nat.lt_of_le_of_lt (length_word hw) h))
  | .error fault => stuck .other fault fault

/-- The part that a number stands for; only a digit that is missing stops the scanner. -/
def numberDraft (negative : Bool) {s : Bytes} (start : Bytes) (h : start.length ≤ s.length) :
    Draft × Left s :=
  match hn : numeral negative start with
  | .ok (n, left) =>
    let left := Left.of left (Nat.lt_of_lt_of_le (length_numeral hn) h)
    match n.number with
    | .ok v => (.number v, left)
    | .error fault => (.bad .other fault none, left)
  | .error fault => stuck .other fault .number

/-- The part that a string stands for. -/
def stringDraft {s : Bytes} (rest : Bytes) (h : rest.length < s.length) : Draft × Left s :=
  let parts := (pieces rest).1
  let stop := (pieces rest).2.1
  let left := Left.of (pieces rest).2.2 (Nat.lt_of_le_of_lt (length_pieces rest) h)
  match stop.fault, stringOf parts stop with
  | none, .ok text => (.string text, left)
  | none, .error strict => (.bad .quote strict none, left)
  | some loose, .ok _ => stuck .quote loose loose
  | some loose, .error strict => stuck .quote strict loose

mutual

/-- The part at the front of a text. -/
def scanValue (s : Bytes) : Draft × Left s :=
  match h : skipBlanks s with
  | [] => stuck .nothing .endInValue .endInValue
  | b :: rest =>
    have shorter : rest.length < s.length := length_lt_of_skipBlanks h
    if b = byte '[' then
      match hr : skipBlanks rest with
      | [] => (.array [] .brokenOff, none)
      | c :: after =>
        if c = byte ']' then
          (.array [] .closed, Left.of after (Nat.lt_trans (length_lt_of_skipBlanks hr) shorter))
        else
          let (items, stop, left) := scanItems rest
          (.array items stop, left.widen (Nat.le_of_lt shorter))
    else if b = byte '\x7b' then
      match hr : skipBlanks rest with
      | [] => (.object [] .brokenOff, none)
      | c :: after =>
        if c = byte '\x7d' then
          (.object [] .closed, Left.of after (Nat.lt_trans (length_lt_of_skipBlanks hr) shorter))
        else
          let (members, stop, left) := scanMembers rest
          (.object members stop, left.widen (Nat.le_of_lt shorter))
    else if b = byte '"' then stringDraft rest shorter
    else if b = byte 'n' then wordDraft "ull" .null rest shorter
    else if b = byte 't' then wordDraft "rue" (.bool true) rest shorter
    else if b = byte 'f' then wordDraft "alse" (.bool false) rest shorter
    else if b = byte '-' then numberDraft true rest (Nat.le_of_lt shorter)
    else if (digit? b).isSome then numberDraft false (b :: rest) shorter
    else stuck .other .valueExpected .valueExpected
  termination_by (s.length, 0)

/-- The items of an array from a place where an item is due. -/
def scanItems (s : Bytes) : List Draft × ListStop × Left s :=
  match scanValue s with
  | (d, none) => ([d], .brokenOff, none)
  | (d, some ⟨rest, shorter⟩) =>
    match h : skipBlanks rest with
    | [] => ([d], .brokenOff, none)
    | b :: after =>
      have shorter : after.length < s.length := Nat.lt_trans (length_lt_of_skipBlanks h) shorter
      if b = byte ']' then ([d], .closed, Left.of after shorter)
      else if b = byte ',' then
        if (skipBlanks after).head? = some (byte ']') then ([d], .trailingComma, none)
        else
          let (ds, stop, left) := scanItems after
          (d :: ds, stop, left.widen (Nat.le_of_lt shorter))
      else ([d], .noComma, none)
  termination_by (s.length, 1)

/-- The members of an object from a place where a key is due. -/
def scanMembers (s : Bytes) : List (Key × Draft) × ObjectStop × Left s :=
  match h : skipBlanks s with
  | [] => ([], .endAfterComma, none)
  | b :: rest =>
    have shorter : rest.length < s.length := length_lt_of_skipBlanks h
    if b = byte '\x7d' then ([], .trailingComma, none)
    else if b ≠ byte '"' then ([], .noKey (scanValue s).1.found, none)
    else
      let key := stringOf (pieces rest).1 (pieces rest).2.1
      match (pieces rest).2.1.fault with
      | some loose =>
        match key with
        | .error strict => ([], .badKey strict loose, none)
        | .ok _ => ([], .badKey loose loose, none)
      | none =>
        have shorter : (pieces rest).2.2.length < s.length :=
          Nat.lt_of_le_of_lt (length_pieces rest) shorter
        match hc : skipBlanks (pieces rest).2.2 with
        | [] => ([], .noColon key .endInObject, none)
        | c :: after =>
          have shorter : after.length < s.length :=
            Nat.lt_trans (length_lt_of_skipBlanks hc) shorter
          if c ≠ byte ':' then ([], .noColon key .colonExpected, none)
          else
            match scanValue after with
            | (d, none) => ([(key, d)], .brokenOff, none)
            | (d, some ⟨left, less⟩) =>
              have less : left.length < s.length := Nat.lt_trans less shorter
              match he : skipBlanks left with
              | [] => ([(key, d)], .brokenOff, none)
              | e :: more =>
                have less : more.length < s.length :=
                  Nat.lt_trans (length_lt_of_skipBlanks he) less
                if e = byte '\x7d' then ([(key, d)], .closed, Left.of more less)
                else if e = byte ',' then
                  let (ms, stop, end_) := scanMembers more
                  ((key, d) :: ms, stop, end_.widen (Nat.le_of_lt less))
                else ([(key, d)], .noComma, none)
  termination_by (s.length, 1)

end

/-- A text taken apart: the document at its front, and whether anything but blanks follows. -/
structure Document where
  root : Draft
  more : Bool

/-- The document at the front of a text, and whether anything but blanks follows it. -/
def Document.scan (s : Bytes) : Document :=
  match scanValue s with
  | (d, none) => ⟨d, false⟩
  | (d, some ⟨rest, _⟩) => ⟨d, !(skipBlanks rest).isEmpty⟩

end FlowGraph.Json
