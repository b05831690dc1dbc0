import Interlink.Text.Printable

/-!
# Quoted text in messages

A message that shows a text to an operator puts it in double quotes and spells
out what the reader would not see: quotes, backslashes, line breaks, tabs and
every other character that does not show by itself.
-/

namespace Interlink.Quoted

/-- The hexadecimal digits of a number, without leading zeros. -/
def hex (n : Nat) : List Char := Nat.toDigits 16 n

/-- A character as it stands between the quotes. The braces of the numeric form
are written by their code points. -/
def character (c : Char) : List Char :=
  if c = '"' then ['\\', '"']
  else if c = '\\' then ['\\', '\\']
  else if c = '\t' then ['\\', 't']
  else if c = '\r' then ['\\', 'r']
  else if c = '\n' then ['\\', 'n']
  else if c = '\x00' then ['\\', '0']
  else if Printable.isPrintable c then [c]
  else ['\\', 'u', '\x7b'] ++ hex c.toNat ++ ['\x7d']

/-- A text in quotes. -/
def encode (s : String) : String :=
  String.ofList ('"' :: s.toList.flatMap character ++ ['"'])

end Interlink.Quoted
