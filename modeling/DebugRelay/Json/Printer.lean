import DebugRelay.Json.Double
import DebugRelay.Json.Value
import DebugRelay.Text.Digits

/-!
# Printing JSON

`Json.render` writes a value on one line without spaces. The quote, the backslash, control
characters and line separators are escaped; every other character stands for itself.
-/

namespace DebugRelay.Json

/-- Whether a character is a control or ends a line. -/
def isControl (c : Char) : Bool :=
  decide (c.toNat < 0x20) || (decide (0x7f ≤ c.toNat) && decide (c.toNat < 0xa0)) ||
    c == '\u2028' || c == '\u2029'

/-- How one character is written in a string. -/
def escapeChar (c : Char) : List Char :=
  if c = '"' then ['\\', '"']
  else if c = '\\' then ['\\', '\\']
  else if isControl c then '\\' :: 'u' :: (Text.lowerHex 4 c.toNat).toList
  else [c]

/-- A string literal. -/
def renderString (s : String) : String :=
  "\"" ++ String.ofList (s.toList.flatMap escapeChar) ++ "\""

/-- A number literal. -/
def renderNumber : Number → String
  | .whole n => toString n
  | .double bits => doubleText bits

mutual

/-- The text of a value. -/
def render : Json → String
  | .null => "null"
  | .bool true => "true"
  | .bool false => "false"
  | .num n => renderNumber n
  | .str s => renderString s
  | .arr items => "[" ++ renderItems items ++ "]"
  | .obj fields => "\x7b" ++ renderFields fields ++ "\x7d"
  | .unreadable => "null"

/-- The texts of items with commas between them. -/
def renderItems : List Json → String
  | [] => ""
  | [j] => render j
  | j :: rest => render j ++ "," ++ renderItems rest

/-- The texts of fields with commas between them. -/
def renderFields : List (String × Json) → String
  | [] => ""
  | [(name, j)] => renderString name ++ ":" ++ render j
  | (name, j) :: rest => renderString name ++ ":" ++ render j ++ "," ++ renderFields rest

end

end DebugRelay.Json
