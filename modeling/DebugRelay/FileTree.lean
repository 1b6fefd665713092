import DebugRelay.Path

/-!
# File trees

A file tree holds directories, files and symbolic links. A place is the list of names that leads to
an entry from the root without passing through a link. `FileTree.walk` follows a path through the
links to a place; it fails where something is missing, where a file is used as a directory, at a
name that is too long, and after forty links.

Main statement: `find?_put` says what storing an entry does to every place.
-/

namespace DebugRelay

/-- The names that lead from the root to an entry. -/
abbrev Place := List FileName

/-- Contents are equal if their bytes are. -/
instance FileTree.decidableEqContent : DecidableEq ByteArray := ByteArray.instDecidableEq

/-- What a place holds. -/
inductive FileTree.Entry where
  | directory
  | file (content : ByteArray)
  | link (target : String)
  deriving DecidableEq

/-- An entry together with all that is below it. -/
inductive FileTree.Node where
  | file (content : ByteArray)
  | link (target : String)
  | directory (children : List (FileName × FileTree.Node))

/-- Why a path leads nowhere. -/
inductive FileTree.Failure where
  /-- A name on the way is missing. -/
  | notFound
  /-- A file stands where a directory is needed. -/
  | notDirectory
  /-- A directory stands where a file is needed. -/
  | isDirectory
  /-- The name is taken. -/
  | occupied
  /-- More links than one walk follows. -/
  | tooManyLinks
  /-- A name or a path has too many bytes. -/
  | tooLong
  /-- The text is no path: it holds a NUL character. -/
  | invalid
  deriving DecidableEq

namespace FileTree.Node

/-- The entry at the top of a node. -/
def entry : Node → Entry
  | file content => .file content
  | link target => .link target
  | directory _ => .directory

/-- An entry with nothing below it. -/
def ofEntry : Entry → Node
  | .file content => file content
  | .link target => link target
  | .directory => directory []

/-- What is right below a node, by name. -/
def children : Node → List (FileName × Node)
  | directory children => children
  | _ => []

/-- The node that names lead to. -/
def find? (node : Node) : Place → Option Node
  | [] => some node
  | n :: rest => (node.children.lookup n).bind fun child => child.find? rest

/-- Gives a name a node, in place of the one it had. -/
def assign (n : FileName) (node : Node) : List (FileName × Node) → List (FileName × Node)
  | [] => [(n, node)]
  | (n', node') :: rest =>
    if n' = n then (n, node) :: rest else (n', node') :: assign n node rest

/-- Puts an entry where names lead to; a directory that is missing on the way is made. -/
def put (node : Node) (e : Entry) : Place → Node
  | [] => ofEntry e
  | n :: rest =>
    let child := (node.children.lookup n).getD (directory [])
    directory (assign n (child.put e rest) node.children)

/-! ### What is where -/

private theorem lookup_pair (m n : FileName) (node : Node) (l : List (FileName × Node)) :
    ((n, node) :: l).lookup m = if m = n then some node else l.lookup m := by
  by_cases h : m = n
  · subst h; simp
  · have hbeq : (m == n) = false := by simpa using h
    rw [List.lookup_cons, hbeq, if_neg h]

theorem lookup_assign (n m : FileName) (node : Node) (l : List (FileName × Node)) :
    (assign n node l).lookup m = if m = n then some node else l.lookup m := by
  induction l with
  | nil => simp [assign, lookup_pair]
  | cons pair rest ih =>
    obtain ⟨n', node'⟩ := pair
    by_cases h : n' = n
    · subst h
      simp only [assign, if_pos, lookup_pair]
      split <;> rfl
    · simp only [assign, h, if_false, lookup_pair, ih]
      split
      · next hm => subst hm; simp [h]
      · rfl

@[simp]
theorem find?_nil (node : Node) : node.find? [] = some node := by rw [find?]

theorem find?_cons (node : Node) (n : FileName) (rest : Place) :
    node.find? (n :: rest) = (node.children.lookup n).bind fun child => child.find? rest := by
  rw [find?]

@[simp]
theorem entry_directory (l : List (FileName × Node)) : (directory l).entry = .directory := rfl

@[simp]
theorem children_directory (l : List (FileName × Node)) : (directory l).children = l := rfl

/-- Below an entry on its own there is nothing. -/
theorem find?_ofEntry (e : Entry) (q : Place) :
    ((ofEntry e).find? q).map entry = if q = [] then some e else none := by
  cases q <;> cases e <;> simp [ofEntry, find?_cons, entry, children]

/-- Only directories have something below them. -/
theorem entry_of_lookup {node child : Node} {n : FileName}
    (h : node.children.lookup n = some child) : node.entry = .directory := by
  cases node <;> simp_all [children, entry]

/-- A node that is no directory has nothing below it. -/
theorem find?_of_entry {node : Node} (h : node.entry ≠ .directory) {q : Place} (hq : q ≠ []) :
    node.find? q = none := by
  cases node <;> cases q <;> simp_all [find?_cons, children, entry]

/-- Putting an entry into a directory, but not in the place of another directory, changes what is
at that place and nothing else. -/
theorem entry_put (e : Entry) {p : Place} (hp : p ≠ []) {node : Node}
    (above : (node.find? p.dropLast).map entry = some .directory)
    (before : (node.find? p).map entry ≠ some .directory) (q : Place) :
    ((node.put e p).find? q).map entry = if q = p then some e else (node.find? q).map entry := by
  induction p generalizing node q with
  | nil => exact absurd rfl hp
  | cons n rest ih =>
    -- the last name is given the entry right here; a longer path goes on in a child
    cases rest with
    | nil =>
      cases q with
      | nil => simpa [put, eq_comm] using above
      | cons m q =>
        by_cases hm : m = n
        · subst hm
          simp only [put, find?_cons, children_directory, lookup_assign, if_pos, Option.bind_some,
            find?_ofEntry, List.cons.injEq, true_and]
          by_cases hq : q = []
          · simp [hq]
          · cases hc : node.children.lookup m with
            | none => simp [hq]
            -- what is replaced is no directory, so nothing was below it
            | some child =>
              have : child.entry ≠ .directory := by simpa [find?_cons, hc] using before
              simp [hq, find?_of_entry this hq]
        · simp [put, find?_cons, lookup_assign, hm]
    | cons n' rest =>
      rw [List.dropLast_cons_of_ne_nil (List.cons_ne_nil n' rest)] at above
      cases hc : node.children.lookup n with
      | none => simp [find?_cons, hc] at above
      | some child =>
        have ih := @ih (List.cons_ne_nil n' rest) child
          (by simpa [find?_cons, hc] using above) (by simpa [find?_cons, hc] using before)
        cases q with
        | nil => simp [put, entry_of_lookup hc]
        | cons m q =>
          rw [put, hc]
          by_cases hm : m = n
          · subst hm
            simp [find?_cons, lookup_assign, hc, ih]
          · simp [find?_cons, lookup_assign, hm]

end FileTree.Node

/-- A tree of directories, files and symbolic links. The root is a directory. -/
structure FileTree where
  /-- What is right below the root. -/
  children : List (FileName × FileTree.Node)

namespace FileTree

/-- The tree with a root and nothing below it. -/
def empty : FileTree := ⟨[]⟩

instance : Inhabited FileTree := ⟨empty⟩

/-- The root with all that is below it. -/
def root (t : FileTree) : Node := .directory t.children

/-- What a place holds, the root included. -/
def find? (t : FileTree) (p : Place) : Option Entry := (t.root.find? p).map Node.entry

/-- Whether a place is a directory. -/
def isDirectory (t : FileTree) (p : Place) : Bool :=
  t.find? p = some .directory

/-- How many links one walk follows. -/
def linkLimit : Nat := 40

/-- How many bytes a name may have. -/
def nameLimit : Nat := 255

/-- How many bytes the path of an operation may have. -/
def pathLimit : Nat := 4095

/-- Whether a name is short enough for an entry. -/
def isNameable (n : FileName) : Bool := decide (n.text.utf8ByteSize ≤ nameLimit)

/-- The place that link text starts from. -/
def linkStart (dir : Place) (target : String) : Place :=
  if Path.isAbsolute target then [] else dir

/-- Follows steps from a place. Each step needs a directory to start from. What the steps lead to
has to be there, unless it is about to be made: then the last name may be missing. -/
def walk (t : FileTree) (toMake : Bool) (links : Nat) (at_ : Place) (steps : List Path.Step) :
    Except Failure Place :=
  match steps with
  | [] => .ok at_
  | step :: rest =>
    if t.isDirectory at_ then
      match step with
      | .here => t.walk toMake links at_ rest
      | .parent => t.walk toMake links at_.dropLast rest
      | .name n =>
        if isNameable n then
          -- a link is followed from where it stands, with one link less to go
          match t.find? (at_ ++ [n]) with
          | none => if toMake && rest.isEmpty then .ok (at_ ++ [n]) else .error .notFound
          | some (.link target) =>
            match links with
            | 0 => .error .tooManyLinks
            | links' + 1 =>
              t.walk toMake links' (linkStart at_ target) (Path.steps target ++ rest)
          | some _ => t.walk toMake links (at_ ++ [n]) rest
        else .error .tooLong
    else .error .notDirectory
termination_by (links, steps.length)

/-- The place of what steps lead to. -/
def follow (t : FileTree) (at_ : Place) (steps : List Path.Step) : Except Failure Place :=
  t.walk false linkLimit at_ steps

/-- The steps of a path text, if an operation takes it: not empty, without a NUL character and not
too long. -/
def pathSteps (path : String) : Except Failure (List Path.Step) :=
  if path = "" then .error .notFound
  else if '\x00' ∈ path.toList then .error .invalid
  else if pathLimit < path.utf8ByteSize then .error .tooLong
  else .ok (Path.steps path)

/-- The place where a path starts: the root, or the working directory. -/
def start (cwd : Place) (path : String) : Place :=
  if Path.isAbsolute path then [] else cwd

/-- The place a path leads to from a working directory. -/
def resolve (t : FileTree) (cwd : Place) (path : String) : Except Failure Place := do
  t.follow (start cwd path) (← pathSteps path)

/-- Whether a path leads to anything. -/
def exists? (t : FileTree) (cwd : Place) (path : String) : Bool :=
  (t.resolve cwd path).isOk

/-- The content of the file that a path leads to. -/
def read (t : FileTree) (cwd : Place) (path : String) : Except Failure ByteArray := do
  match t.find? (← t.resolve cwd path) with
  | some (.file content) => .ok content
  | some .directory => .error .isDirectory
  | _ => .error .notFound

/-- Stores an entry at a place below the root. -/
def put (t : FileTree) (p : Place) (e : Entry) : FileTree := ⟨(t.root.put e p).children⟩

/-- Storing an entry in a directory, but not in the place of another directory, changes what is at
that place and nothing else. -/
theorem find?_put (t : FileTree) (e : Entry) {p : Place} (hp : p ≠ [])
    (above : t.isDirectory p.dropLast) (before : ¬ t.isDirectory p) (q : Place) :
    (t.put p e).find? q = if q = p then some e else t.find? q := by
  have hroot : (t.put p e).root = t.root.put e p := by
    cases p with
    | nil => exact absurd rfl hp
    | cons n rest => rfl
  rw [find?, hroot]
  exact Node.entry_put e hp (by simpa [isDirectory, find?] using above)
    (by simpa [isDirectory, find?] using before) q

/-- Writes a file at a path, and makes it if it is missing. -/
def write (t : FileTree) (cwd : Place) (path : String) (content : ByteArray) :
    Except Failure FileTree := do
  let p ← t.walk true linkLimit (start cwd path) (← pathSteps path)
  if t.isDirectory p then .error .isDirectory else .ok (t.put p (.file content))

/-- Makes an entry under a name that is free. The name itself is not followed. -/
def make (t : FileTree) (at_ : Place) (steps : List Path.Step) (e : Entry) :
    Except Failure FileTree :=
  match steps.getLast? with
  | some (.name n) => do
    let dir ← t.follow at_ steps.dropLast
    if t.isDirectory dir then
      if isNameable n then
        if (t.find? (dir ++ [n])).isSome then .error .occupied
        else .ok (t.put (dir ++ [n]) e)
      else .error .tooLong
    else .error .notDirectory
  -- the steps end at a directory that is there already, unless they lead nowhere
  | _ => do
    let _ ← t.follow at_ steps
    .error .occupied

/-- Whether steps lead to a directory. -/
def leadsToDirectory (t : FileTree) (at_ : Place) (steps : List Path.Step) : Bool :=
  match t.follow at_ steps with
  | .ok p => t.isDirectory p
  | .error _ => false

/-- Makes the directory that one step leads to, if it is missing. -/
def makeStep (t : FileTree) (at_ : Place) (step : Path.Step) : Except Failure FileTree :=
  match t.follow at_ [step] with
  | .ok _ => .ok t
  -- only a missing name is made; what is in the way otherwise stays an error
  | .error .notFound => t.make at_ [step] .directory
  | .error e => .error e

/-- Makes, one after the other, the directories that steps lead through. -/
def makeSteps (t : FileTree) (at_ : Place) : List Path.Step → Except Failure FileTree
  | [] => .ok t
  | step :: rest => do
    let t ← t.makeStep at_ step
    t.makeSteps (← t.follow at_ [step]) rest

/-- Makes the directory that steps lead to and every missing one above it. All of the steps must
then lead to it in one walk. -/
def makeDirectories (t : FileTree) (at_ : Place) (steps : List Path.Step) :
    Except Failure FileTree := do
  let t ← t.makeSteps at_ steps
  if t.leadsToDirectory at_ steps then .ok t else .error .occupied

/-- Makes every directory above the entry that a path names. Above a lone name there is only the
place that the path starts from. -/
def makeParents (t : FileTree) (cwd : Place) (path : String) : Except Failure FileTree :=
  if Path.above path = "" then .ok t
  else do t.makeDirectories (start cwd path) (← pathSteps (Path.above path))

/-- Makes a symbolic link at a path. -/
def link (t : FileTree) (cwd : Place) (path target : String) : Except Failure FileTree := do
  t.make (start cwd path) (← pathSteps path) (.link target)

end FileTree

end DebugRelay
