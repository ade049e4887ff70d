/-
Module: ServerDriven.Text.Quoted
Purpose: A text as it is shown inside a message.
Main exports:
  quoted
-/
import ServerDriven.Text.Unprinted

namespace ServerDriven.Text

/-- The lower-case hexadecimal digits of a number, without leading zeros. -/
def hex (n : Nat) : String := String.ofList (Nat.toDigits 16 n)

/-- One character between quotes.  A backslash goes before quotes and backslashes, the usual
control characters have letters, and what has no glyph of its own is shown by its code point. -/
def quotedChar (c : Char) : String :=
  if c = '"' then "\\\""
  else if c = '\\' then "\\\\"
  else if c = '\n' then "\\n"
  else if c = '\r' then "\\r"
  else if c = '\t' then "\\t"
  else if c = '\x00' then "\\0"
  else if isUnprinted c then "\\u\x7b" ++ hex c.toNat ++ "\x7d"
  else c.toString

/-- A text between quotes. -/
def quoted (s : String) : String :=
  "\"" ++ String.join (s.toList.map quotedChar) ++ "\""

end ServerDriven.Text
