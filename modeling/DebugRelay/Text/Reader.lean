/-!
# Readers

A reader takes what it recognises from the front of a list of characters and returns it with the
rest, or fails. Loops stop by the length of the rest: a reader that is repeated has to consume
something each time.
-/

namespace DebugRelay.Text

/-- Takes a value from the front of some characters. -/
abbrev Reader (α : Type) := List Char → Option (α × List Char)

namespace Reader

/-- What a reader makes of a whole text. -/
def readAll {α : Type} (r : Reader α) (cs : List Char) : Option α :=
  match r cs with
  | some (x, []) => some x
  | _ => none

/-- Takes given characters. -/
def literal : List Char → Reader Unit
  | [], cs => some ((), cs)
  | _ :: _, [] => none
  | e :: es, c :: cs => if e = c then literal es cs else none

/-- Takes the longest run of characters that pass a test. -/
def run (p : Char → Bool) : Reader (List Char) := fun cs =>
  some (cs.takeWhile p, cs.dropWhile p)

/-- Takes the longest run of characters that pass a test, one at least. -/
def run1 (p : Char → Bool) : Reader (List Char) := fun cs =>
  match cs.takeWhile p with
  | [] => none
  | taken => some (taken, cs.dropWhile p)

/-- Takes as many characters as asked for. -/
def count : Nat → Reader (List Char)
  | 0, cs => some ([], cs)
  | _ + 1, [] => none
  | n + 1, c :: cs => (count n cs).map fun (taken, rest) => (c :: taken, rest)

/-- Takes items up to a closing character, with commas between them. `item` takes what may stand
before and after the item as well. -/
def listed {α : Type} (close : Char) (item : Reader α) (cs : List Char) :
    Option (List α × List Char) :=
  match item cs with
  | none => none
  | some (x, rest) =>
    match rest with
    | [] => none
    | c :: more =>
      if c = close then some ([x], more)
      else if c = ',' then
        if more.length < cs.length then
          (listed close item more).map fun (xs, rest) => (x :: xs, rest)
        else none
      else none
termination_by cs.length

end Reader

end DebugRelay.Text
