import DebugRelay.Toml.Draft
import DebugRelay.Toml.Scalar

/-!
# Reading TOML text

A document is a list of statements: pairs of a key and a value, and headers of tables. Each takes a
line of its own; only strings with tripled quotes and arrays go over several lines.
`Toml.parse?` reads a document as version 1.0 of the format has it.
-/

namespace DebugRelay.Toml

open Text Text.Reader

/-! ## Characters -/

/-- Blanks within a line. -/
def isInlineBlank (c : Char) : Bool := c == ' ' || c == '\t'

/-- The characters that stand for themselves within a line of a comment or a string, where the
quotes and backslashes of a string are looked at before. No control but the tab is one. -/
def isTextChar (c : Char) : Bool :=
  c == '\t' || (decide (0x20 ≤ c.toNat) && c != '\x7f')

/-- The characters of a key without quotes. -/
def isKeyChar (c : Char) : Bool := c.isAlphanum || c == '-' || c == '_'

/-- The characters of numbers, truth values and points in time. -/
def isScalarChar (c : Char) : Bool := isKeyChar c || c == '+' || c == '.' || c == ':'

/-- Drops blanks within a line. -/
def skipInline (cs : List Char) : List Char := cs.dropWhile isInlineBlank

/-- Drops a comment. -/
def skipComment : List Char → List Char
  | '#' :: rest => rest.dropWhile isTextChar
  | cs => cs

/-- Takes the end of a line. -/
def newline : Reader Unit
  | '\n' :: rest => some ((), rest)
  | '\r' :: '\n' :: rest => some ((), rest)
  | _ => none

/-- Takes what may stand after a statement: blanks, a comment, and the end of the line or of the
text. -/
def lineEnd : Reader Unit := fun cs =>
  match skipComment (skipInline cs) with
  | [] => some ((), [])
  | cs => newline cs

/-- Drops blanks, ends of lines and comments. -/
def skipLines (cs : List Char) : List Char :=
  let next := skipComment (skipInline cs)
  match newline next with
  -- an end of line takes a character at least, which the length shows to the recursion
  | some ((), rest) => if rest.length < cs.length then skipLines rest else rest
  | none => next
termination_by cs.length

/-! ## Strings -/

/-- The character that a one-letter escape stands for. -/
def escaped? : Char → Option Char
  | 'b' => some '\x08'
  | 't' => some '\t'
  | 'n' => some '\n'
  | 'f' => some '\x0c'
  | 'r' => some '\r'
  | '"' => some '"'
  | '\\' => some '\\'
  | _ => none

/-- The character that hexadecimal digits name. Surrogates are no characters. -/
def named? (cs : List Char) : Option Char := do
  let n ← readDigits? hexDigit? 16 cs
  if n.isValidChar then some (Char.ofNat n) else none

/-- Takes an escape after its backslash. -/
def escape : Reader Char
  | 'u' :: rest => do
    let (ds, rest) ← count 4 rest
    some (← named? ds, rest)
  | 'U' :: rest => do
    let (ds, rest) ← count 8 rest
    some (← named? ds, rest)
  | c :: rest => (escaped? c).map fun c => (c, rest)
  | [] => none

/-- Takes the rest of a one-line string with escapes. -/
def basicBody (cs : List Char) : Option (List Char × List Char) :=
  match cs with
  | [] => none
  | '"' :: rest => some ([], rest)
  | '\\' :: more =>
    match escape more with
    | some (c, rest) =>
      if rest.length ≤ more.length then (basicBody rest).map fun (s, rest) => (c :: s, rest)
      else none
    | none => none
  | c :: rest =>
    if isTextChar c then (basicBody rest).map fun (s, rest) => (c :: s, rest) else none
termination_by cs.length

/-- Takes the rest of a one-line string without escapes. -/
def literalBody : Reader (List Char)
  | [] => none
  | '\'' :: rest => some ([], rest)
  | c :: rest =>
    if isTextChar c then (literalBody rest).map fun (s, rest) => (c :: s, rest) else none

/-- Takes a run of quotes at the start of which a string over several lines may end. Three quotes
end it, and up to two more belong to it. -/
def closing (quote : Char) (cs : List Char) : Option (List Char × List Char) :=
  let n := (cs.takeWhile (· == quote)).length
  if n < 3 then none
  else
    -- of five quotes the last three end the string, of six the sixth is left over
    let inside := min (n - 3) 2
    some (List.replicate inside quote, cs.drop (inside + 3))

/-- Drops blanks and ends of lines. A carriage return alone ends no line. -/
def skipBlankLines : List Char → List Char
  | '\r' :: '\n' :: rest => skipBlankLines rest
  | c :: rest => if isInlineBlank c || c == '\n' then skipBlankLines rest else c :: rest
  | [] => []

/-- Drops a line end that is escaped, with the blank lines and the blanks after it. -/
def skipFolded (cs : List Char) : Option (List Char) :=
  (newline (skipInline cs)).map fun ((), rest) => skipBlankLines rest

/-- Takes the rest of a string with escapes over several lines. -/
def multiBasicBody (cs : List Char) : Option (List Char × List Char) :=
  match closing '"' cs with
  | some (inside, rest) => some (inside, rest)
  | none =>
    match cs with
    | [] => none
    | '\\' :: more =>
      match escape more with
      | some (c, rest) =>
        if rest.length ≤ more.length then (multiBasicBody rest).map fun (s, rest) => (c :: s, rest)
        else none
      -- a backslash that begins no escape may stand before the end of a line
      | none =>
        match skipFolded more with
        | some rest => if rest.length ≤ more.length then multiBasicBody rest else none
        | none => none
    | '\r' :: '\n' :: rest => (multiBasicBody rest).map fun (s, rest) => ('\n' :: s, rest)
    | c :: rest =>
      if isTextChar c || c == '\n' then
        (multiBasicBody rest).map fun (s, rest) => (c :: s, rest)
      else none
termination_by cs.length

/-- Takes the rest of a string without escapes over several lines. -/
def multiLiteralBody (cs : List Char) : Option (List Char × List Char) :=
  match closing '\'' cs with
  | some (inside, rest) => some (inside, rest)
  | none =>
    match cs with
    | [] => none
    | '\r' :: '\n' :: rest => (multiLiteralBody rest).map fun (s, rest) => ('\n' :: s, rest)
    | c :: rest =>
      if isTextChar c || c == '\n' then
        (multiLiteralBody rest).map fun (s, rest) => (c :: s, rest)
      else none
termination_by cs.length

/-- Drops the line end right after tripled quotes. -/
def skipFirstNewline (cs : List Char) : List Char :=
  match newline cs with
  | some ((), rest) => rest
  | none => cs

/-- Takes a string of any of the four forms. -/
def quotedString : Reader String := fun cs =>
  let body :=
    match cs with
    | '"' :: '"' :: '"' :: rest => multiBasicBody (skipFirstNewline rest)
    | '"' :: rest => basicBody rest
    | '\'' :: '\'' :: '\'' :: rest => multiLiteralBody (skipFirstNewline rest)
    | '\'' :: rest => literalBody rest
    | _ => none
  body.map fun (s, rest) => (String.ofList s, rest)

/-! ## Keys -/

/-- How many parts a dotted key may not have. -/
def keyLimit : Nat := 80

/-- Takes one part of a key. -/
def simpleKey : Reader String
  | '"' :: rest => (basicBody rest).map fun (s, rest) => (String.ofList s, rest)
  | '\'' :: rest => (literalBody rest).map fun (s, rest) => (String.ofList s, rest)
  | cs => (run1 isKeyChar cs).map fun (s, rest) => (String.ofList s, rest)

/-- Takes the parts of a key with dots between them, with the blanks around them. -/
def keyParts (cs : List Char) : Option (List String × List Char) :=
  match simpleKey (skipInline cs) with
  | none => none
  | some (part, rest) =>
    match skipInline rest with
    | '.' :: more =>
      if more.length < cs.length then
        (keyParts more).map fun (parts, rest) => (part :: parts, rest)
      else none
    | rest => some ([part], rest)
termination_by cs.length

/-- Takes a key. -/
def key : Reader (List String) := fun cs => do
  let (parts, rest) ← keyParts cs
  if parts.length < keyLimit then some (parts, rest) else none

/-! ## Values -/

/-- How many containers may enclose one another. -/
def nestingLimit : Nat := 79

/-- Takes a value without quotes. A date may be followed by a blank and a time. -/
def scalar : Reader Toml := fun cs => do
  let (token, rest) ← run1 isScalarChar cs
  match rest with
  | ' ' :: more =>
    let second := more.takeWhile isScalarChar
    -- a blank separates a date from its time, but ends any other token
    if isDate token && !second.isEmpty then
      some (← scalar? (token ++ ' ' :: second), more.dropWhile isScalarChar)
    else some (← scalar? token, rest)
  | _ => some (← scalar? token, rest)

/-- Takes the items of an array after its opening bracket. -/
def arrayItems (value : Reader Toml) (cs : List Char) : Option (List Toml × List Char) :=
  match skipLines cs with
  | ']' :: rest => some ([], rest)
  | start =>
    match value start with
    | none => none
    | some (v, rest) =>
      match skipLines rest with
      | ']' :: rest => some ([v], rest)
      | ',' :: rest =>
        if rest.length < cs.length then
          (arrayItems value rest).map fun (items, rest) => (v :: items, rest)
        else none
      | _ => none
termination_by cs.length

/-- Takes a key, the sign between it and its value, and the value. -/
def pair (value : Reader Toml) : Reader (List String × Toml) := fun cs => do
  let (path, cs) ← key cs
  let ((), cs) ← literal ['='] cs
  let (v, cs) ← value (skipInline cs)
  some ((path, v), cs)

/-- Takes the pairs of a table in braces after its opening brace. -/
def inlinePairs (value : Reader Toml) : Reader (List (List String × Toml)) := fun cs =>
  match skipInline cs with
  | '\x7d' :: rest => some ([], rest)
  | cs =>
    listed '\x7d' (fun cs => (pair value cs).map fun (p, rest) => (p, skipInline rest)) cs

/-- Takes a value that may hold containers nested `depth` deep. -/
def value : Nat → Reader Toml
  | _, '"' :: rest => (quotedString ('"' :: rest)).map fun (s, rest) => (.string s, rest)
  | _, '\'' :: rest => (quotedString ('\'' :: rest)).map fun (s, rest) => (.string s, rest)
  | depth + 1, '[' :: rest =>
    (arrayItems (value depth) rest).map fun (items, rest) => (.array items, rest)
  | depth + 1, '\x7b' :: rest => do
    let (pairs, rest) ← inlinePairs (value depth) rest
    let draft ← Draft.empty.setAll pairs
    some (.table draft.fields, rest)
  | _, cs => scalar cs

/-! ## Documents -/

/-- A statement of a document. -/
inductive Statement where
  /-- A key gets a value in the current table. -/
  | pair (path : List String) (v : Toml)
  /-- What follows belongs to a table. -/
  | table (path : List String)
  /-- What follows belongs to a new table at the end of an array of tables. -/
  | element (path : List String)

/-- Takes a statement with the end of its line. -/
def statement : Reader Statement
  | '[' :: '[' :: rest => do
    let (path, rest) ← key rest
    let ((), rest) ← literal [']', ']'] rest
    let ((), rest) ← lineEnd rest
    some (.element path, rest)
  | '[' :: rest => do
    let (path, rest) ← key rest
    let ((), rest) ← literal [']'] rest
    let ((), rest) ← lineEnd rest
    some (.table path, rest)
  | cs => do
    let ((path, v), rest) ← pair (value nestingLimit) cs
    let ((), rest) ← lineEnd rest
    some (.pair path v, rest)

/-- The statements of a text. -/
def statements (cs : List Char) : Option (List Statement) :=
  match skipLines cs with
  | [] => some []
  | start =>
    match statement start with
    | some (s, rest) =>
      if rest.length < cs.length then (statements rest).map (s :: ·) else none
    | none => none
termination_by cs.length

/-- A document under construction: the finished tables, and the one that pairs go to. -/
structure Building where
  root : Draft
  current : Draft
  /-- Where the current table goes; the empty path for the pairs before the first header. -/
  path : List String
  /-- Whether the current table goes to the end of an array. -/
  isElement : Bool

namespace Building

/-- The document without statements. -/
def start : Building := ⟨.empty, .empty, [], false⟩

/-- Puts the current table into its place. -/
def finish (b : Building) : Option Draft :=
  if b.path = [] then some b.current
  else if b.isElement then b.root.push b.path b.current
  else b.root.place b.path b.current

/-- Goes on by one statement. -/
def step (b : Building) : Statement → Option Building
  | .pair path v => (b.current.set path v).map fun current => { b with current := current }
  | .table path => do
    -- the table so far is put into its place before the next is opened
    let root ← b.finish
    let (root, current) ← root.open? path
    some ⟨root, current, path, false⟩
  | .element path => do
    let root ← b.finish
    some ⟨← root.openArray path, .empty, path, true⟩

end Building

/-- The document that statements build. -/
def build (ss : List Statement) : Option Toml := do
  let b ← ss.foldlM Building.step Building.start
  let root ← b.finish
  some (.table root.fields)

/-- The data of a document. A byte order mark at the start does not count. -/
def parse? (text : String) : Option Toml := do
  let cs :=
    match text.toList with
    | '\ufeff' :: rest => rest
    | cs => cs
  build (← statements cs)

end DebugRelay.Toml
