import ApiBindings.Text.MarkTable

/-!
# Quoted text in diagnostics

A diagnostic shows a text between double quotes. Quotes and backslashes are escaped, and what
would leave no mark on the line is spelled out by its code point.
-/

namespace ApiBindings.Text

/-- Hexadecimal digits of a number, in lower case. -/
def hexDigits (n : Nat) : List Char := Nat.toDigits 16 n

/-- Whether a character shows as a mark of its own. -/
def isMark (c : Char) : Bool :=
  let p := c.toNat
  0x20 ≤ p && p != 0x7F && (decide (p < 0x80) || !MarkTable.unmarked.any (·.contains p))

/-- A character as quoted text spells it. -/
def quotedChar (c : Char) : List Char :=
  match c with
  | '"' => ['\\', '"']
  | '\\' => ['\\', '\\']
  | '\n' => ['\\', 'n']
  | '\r' => ['\\', 'r']
  | '\t' => ['\\', 't']
  | '\x00' => ['\\', '0']
  | c => if isMark c then [c] else "\\u\x7b".toList ++ hexDigits c.toNat ++ "\x7d".toList

/-- A text between double quotes. -/
def quoted (text : String) : String :=
  "\"" ++ String.ofList (text.toList.flatMap quotedChar) ++ "\""

end ApiBindings.Text
