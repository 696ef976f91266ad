import FlowGraph.Text.Hidden

/-!
# Quoted text

A text between double quotes, in which the quote, the backslash and the common controls have short
escapes, and every other character without a visible shape is written by its number.
-/

namespace FlowGraph.Text

/-- A character by its number, in hexadecimal between braces. -/
def numbered (c : Char) : List Char :=
  ['\\', 'u', '\x7b'] ++ Nat.toDigits 16 c.toNat ++ ['\x7d']

/-- How a character is written between quotes. -/
def quotedChar (c : Char) : List Char :=
  match c with
  | '\x00' => ['\\', '0']
  | '\t' => ['\\', 't']
  | '\n' => ['\\', 'n']
  | '\r' => ['\\', 'r']
  | '"' => ['\\', '"']
  | '\\' => ['\\', '\\']
  | _ => if isHidden c then numbered c else [c]

/-- A text in quotation marks, with what is hidden or special in it escaped. -/
def quoted (s : String) : String :=
  String.ofList (['"'] ++ s.toList.flatMap quotedChar ++ ['"'])

end FlowGraph.Text
