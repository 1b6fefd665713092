import DebugRelay.Text.Digits
import DebugRelay.Text.PrintableTable

/-!
# Quoted text

A text between double quotes in which every character can be told apart: the quote, the backslash
and the common controls by name, and every character without a shape of its own by number.
-/

namespace DebugRelay.Text

/-- How one character is written between quotes. -/
def quotedChar (c : Char) : List Char :=
  if c = '\t' then ['\\', 't']
  else if c = '\r' then ['\\', 'r']
  else if c = '\n' then ['\\', 'n']
  else if c = '\x00' then ['\\', '0']
  else if c = '"' then ['\\', '"']
  else if c = '\\' then ['\\', '\\']
  else if shapelessRanges.has c then
    ['\\', 'u', '\x7b'] ++ (lowerHex 1 c.toNat).toList ++ ['\x7d']
  else [c]

/-- A text between double quotes. -/
def quoted (s : String) : String :=
  String.ofList ('"' :: s.toList.flatMap quotedChar ++ ['"'])

end DebugRelay.Text
