import FlowGraph.Json.Error

/-!
# The insides of strings

What stands between the quotes of a string: bytes as they are, short escapes, and numbered units
of sixteen bits of which two may be the halves of one character. The loose reading only looks for
the end; the strict one joins the halves and wants the bytes to be Unicode.
-/

namespace FlowGraph.Json

/-- A text as it comes, which need not be UTF-8. -/
abbrev Bytes := List UInt8

/-- The value of a hexadecimal digit. -/
def hexDigit? (b : UInt8) : Option Nat :=
  if 48 ≤ b ∧ b ≤ 57 then some (b.toNat - 48)
  else if 97 ≤ b ∧ b ≤ 102 then some (b.toNat - 87)
  else if 65 ≤ b ∧ b ≤ 70 then some (b.toNat - 55)
  else none

/-- A part of a string: a byte as it stands, the byte that a short escape writes, or a numbered
unit of sixteen bits. -/
inductive Piece where
  | raw (b : UInt8)
  | short (b : UInt8)
  | unit (n : Nat)
  deriving DecidableEq

/-- How a string ends: properly, with the text, with a control character, with an escape that has
no meaning, or with a numbered escape whose digits are none. -/
inductive StringStop where
  | closed
  | ended
  | control
  | unknownEscape
  | badDigits
  deriving DecidableEq

/-- Why the string does not end properly, if it does not. -/
def StringStop.fault : StringStop → Option Fault
  | closed => none
  | ended => some .endInString
  | control => some .control
  | unknownEscape => some .escape
  | badDigits => some .escape

/-- The byte that a short escape writes. -/
def shortEscape? (b : UInt8) : Option UInt8 :=
  [(34, 34), (92, 92), (47, 47), (98, 8), (102, 12), (110, 10), (114, 13), (116, 9)].lookup b

/-- The unit that four hexadecimal digits write. -/
def unit? (a b c d : UInt8) : Option Nat := do
  let a ← hexDigit? a
  let b ← hexDigit? b
  let c ← hexDigit? c
  let d ← hexDigit? d
  return ((16 * a + b) * 16 + c) * 16 + d

/-- The parts of a string after its opening quote, how it ends, and what is left. -/
def pieces : Bytes → List Piece × StringStop × Bytes
  | [] => ([], .ended, [])
  | 34 :: rest => ([], .closed, rest)
  | [92] => ([], .ended, [])
  | 92 :: 117 :: a :: b :: c :: d :: rest =>
    match unit? a b c d with
    | some n => let (ps, stop, left) := pieces rest; (.unit n :: ps, stop, left)
    | none => ([], .badDigits, rest)
  | 92 :: e :: rest =>
    if e = 117 then ([], .ended, [])
    else
      match shortEscape? e with
      | some b => let (ps, stop, left) := pieces rest; (.short b :: ps, stop, left)
      | none => ([], .unknownEscape, rest)
  | b :: rest =>
    if b < 32 then ([], .control, rest)
    else let (ps, stop, left) := pieces rest; (.raw b :: ps, stop, left)

/-- Pieces leave no more than there was. -/
theorem length_pieces (s : Bytes) : (pieces s).2.2.length ≤ s.length := by
  fun_induction pieces s <;> simp_all <;> omega

/-- Whether a unit is the first or the second half of a pair. -/
def isLead (n : Nat) : Bool := 0xd800 ≤ n && n < 0xdc00

/-- Whether a unit is the second half of a pair. -/
def isTrail (n : Nat) : Bool := 0xdc00 ≤ n && n < 0xe000

/-- The bytes of a character. -/
def utf8 (n : Nat) : Bytes := String.utf8EncodeChar (Char.ofNat n)

/-- The bytes that the parts of a string write, or its first fault. The halves of a pair must
follow each other. -/
def bytesOf (stop : StringStop) : List Piece → Except Fault Bytes
  | [] =>
    match stop.fault with
    | none => .ok []
    | some fault => .error fault
  | .raw b :: rest => (bytesOf stop rest).map (b :: ·)
  | .short b :: rest => (bytesOf stop rest).map (b :: ·)
  | .unit n :: rest =>
    if isTrail n then .error .leadingSurrogate
    else if isLead n then
      match rest with
      | .unit m :: rest =>
        if isTrail m then
          (bytesOf stop rest).map (utf8 (0x10000 + (n - 0xd800) * 0x400 + (m - 0xdc00)) ++ ·)
        else .error .leadingSurrogate
      | [] =>
        match stop with
        | .ended => .error .endInString
        | .badDigits => .error .escape
        | _ => .error .hexEscapeEnd
      | _ => .error .hexEscapeEnd
    else (bytesOf stop rest).map (utf8 n ++ ·)

/-- The text that bytes encode, if they do. -/
def textOf (bytes : Bytes) : Except Fault String :=
  match String.fromUTF8? ⟨bytes.toArray⟩ with
  | some s => .ok s
  | none => .error .codePoint

/-- The strict reading of a string. -/
def stringOf (ps : List Piece) (stop : StringStop) : Except Fault String :=
  (bytesOf stop ps).bind textOf

end FlowGraph.Json
