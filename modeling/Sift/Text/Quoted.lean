import Sift.Text.GraphemeExtend
import Sift.Text.Unprintable

/-!
# Quoted text

Inspection texts show a text between double quotes. Quotes, backslashes and the four common
controls are escaped with a backslash; a mark that extends the character before it and a character
without a printed form are given by their code points in lower case hexadecimal; all others stand
for themselves.
-/

namespace Sift.Text

/-- A character by its code point. -/
def escapedCodePoint (c : Char) : List Char :=
  ['\\', 'u', '\x7b'] ++ Nat.toDigits 16 c.toNat ++ ['\x7d']

/-- A character as it stands between quotes. -/
def escapedChar (c : Char) : List Char :=
  if c = '\x00' then ['\\', '0']
  else if c = '\t' then ['\\', 't']
  else if c = '\r' then ['\\', 'r']
  else if c = '\n' then ['\\', 'n']
  else if c = '"' then ['\\', '"']
  else if c = '\\' then ['\\', '\\']
  else if graphemeExtendTable.has c || unprintableTable.has c then escapedCodePoint c
  else [c]

/-- The text between double quotes. -/
def quoted (s : String) : String :=
  String.ofList (['"'] ++ s.toList.flatMap escapedChar ++ ['"'])

end Sift.Text
