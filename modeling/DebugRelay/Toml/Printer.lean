import DebugRelay.Text.Digits
import DebugRelay.Toml.Value

/-!
# Writing TOML text

A string can be written in four forms: with or without escapes, and on one line or over several.
`StringForm.fitting` chooses the form by the controls, backslashes, line feeds and quotes of a
string; `stringLiteral` writes the string in it. `documentText` writes a document that consists of
texts and truth values, some at the top and the others in tables. A run of quotes is counted in a
byte; `documentText?` gives no text where a longer run would have to be counted.
-/

namespace DebugRelay.Toml

/-- The forms of a string literal. -/
inductive StringForm where
  /-- Between double quotes, with escapes. -/
  | basic
  /-- Between single quotes, as it is. -/
  | literal
  /-- Between tripled double quotes, with escapes, over several lines. -/
  | multiBasic
  /-- Between tripled single quotes, as it is, over several lines. -/
  | multiLiteral
  deriving DecidableEq

/-- The length of the longest run of a character. -/
def longestRun (c : Char) : List Char → Nat
  | [] => 0
  | x :: rest =>
    if x = c then max ((rest.takeWhile (· == c)).length + 1) (longestRun c rest)
    else longestRun c rest

/-- The longest run of quotes that can be counted. -/
def runLimit : Nat := 255

/-- Whether the runs of quotes of a string can be counted. -/
def isCountable (s : String) : Bool :=
  decide (longestRun '"' s.toList ≤ runLimit) && decide (longestRun '\'' s.toList ≤ runLimit)

/-- Whether a character needs an escape in every form: a control other than the tab and the line
feed. -/
def isBareControl (c : Char) : Bool :=
  (decide (c.toNat < 0x20) && c != '\t' && c != '\n') || c == '\x7f'

/-- The form in which a string is written. -/
def StringForm.fitting (cs : List Char) : StringForm :=
  let escapes := cs.any isBareControl
  let backslash := cs.contains '\\'
  let newline := cs.contains '\n'
  let doubles := longestRun '"' cs
  let singles := longestRun '\'' cs
  if !escapes && !backslash && !newline && doubles == 0 then .basic
  else if !escapes && !newline && singles == 0 then .literal
  else if !escapes && !backslash && decide (doubles ≤ 2) then .multiBasic
  else if !escapes && decide (singles ≤ 2) then .multiLiteral
  else if newline then .multiBasic
  else .basic

/-- How a character other than the quote is written where escapes count. A line feed stays as it is
in a form over several lines. -/
def escapeChar (multi : Bool) (c : Char) : List Char :=
  if c = '\x08' then ['\\', 'b']
  else if c = '\t' then ['\\', 't']
  else if c = '\n' then (if multi then ['\n'] else ['\\', 'n'])
  else if c = '\x0c' then ['\\', 'f']
  else if c = '\r' then ['\\', 'r']
  else if c = '\\' then ['\\', '\\']
  else if isBareControl c then '\\' :: 'u' :: (Text.upperHex 4 c.toNat).toList
  else [c]

/-- Writes characters where escapes count. `bare` is how many quotes in a row may stand without an
escape, and `quotes` how many stand right before. -/
def escapeFrom (multi : Bool) (bare quotes : Nat) : List Char → List Char
  | [] => []
  | c :: rest =>
    if c = '"' then
      -- the third quote in a row would end the string
      if quotes < bare then '"' :: escapeFrom multi bare (quotes + 1) rest
      else '\\' :: '"' :: escapeFrom multi bare 0 rest
    else escapeChar multi c ++ escapeFrom multi bare 0 rest

/-- What is written after tripled quotes: a line feed, if the string has one too. -/
def opening (cs : List Char) : List Char := if cs.contains '\n' then ['\n'] else []

/-- Characters as a string literal of a form. -/
def StringForm.write (cs : List Char) : StringForm → List Char
  | basic => '"' :: escapeFrom false 0 0 cs ++ ['"']
  | literal => '\'' :: cs ++ ['\'']
  | multiBasic => ['"', '"', '"'] ++ opening cs ++ escapeFrom true 2 0 cs ++ ['"', '"', '"']
  | multiLiteral => ['\'', '\'', '\''] ++ opening cs ++ cs ++ ['\'', '\'', '\'']

/-- A string literal. -/
def stringLiteral (s : String) : String :=
  String.ofList ((StringForm.fitting s.toList).write s.toList)

/-- A value that is written on the line of its key. -/
inductive Leaf where
  | string (s : String)
  | boolean (b : Bool)
  deriving DecidableEq

/-- The text of a leaf. -/
def Leaf.text : Leaf → String
  | string s => stringLiteral s
  | boolean true => "true"
  | boolean false => "false"

/-- Whether the form of a leaf can be chosen. -/
def Leaf.isCountable : Leaf → Bool
  | string s => Toml.isCountable s
  | boolean _ => true

/-- The leaf as a value. -/
def Leaf.value : Leaf → Toml
  | string s => .string s
  | boolean b => .boolean b

/-- A table with leaves under plain keys. -/
abbrev Section := List (String × Leaf)

/-- A line for each key of a section. -/
def sectionText (s : Section) : String :=
  String.join (s.map fun (key, v) => key ++ " = " ++ v.text ++ "\n")

/-- A document with some keys of its own and then some tables, each after a blank line. -/
def documentText (top : Section) (tables : List (String × Section)) : String :=
  sectionText top ++
    String.join (tables.map fun (name, s) => "\n[" ++ name ++ "]\n" ++ sectionText s)

/-- The text of a document, if the quotes of each string in it can be counted. -/
def documentText? (top : Section) (tables : List (String × Section)) : Option String :=
  if (top :: tables.map (·.2)).all fun s => s.all fun (_, v) => v.isCountable then
    some (documentText top tables)
  else none

end DebugRelay.Toml
