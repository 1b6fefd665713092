/-!
# Finite maps in key order

`OrderedMap κ α` is a finite map kept as a list of pairs in strictly increasing key order. The
order is part of the type, so a map has one representation and walking it always meets the keys
in the same order.

Main statements: `find?_insert`, `find?_erase` and `find?_filter` say what each operation does to
the lookups, and `ext_find?` says that two maps with the same lookups are equal.
-/

namespace DebugRelay

/-- A finite map kept as a list of pairs in strictly increasing key order. -/
structure OrderedMap (κ α : Type) [Ord κ] where
  /-- The pairs, smallest key first. -/
  entries : List (κ × α)
  /-- Keys strictly increase. -/
  sorted : entries.Pairwise fun a b => compare a.1 b.1 = .lt
  deriving DecidableEq

namespace OrderedMap

variable {κ α : Type} [Ord κ]

/-- Puts a pair in its place, in front of the first larger key and over an equal one. -/
def insertPair (k : κ) (x : α) : List (κ × α) → List (κ × α)
  | [] => [(k, x)]
  | (k', x') :: rest =>
    match compare k k' with
    | .lt => (k, x) :: (k', x') :: rest
    | .eq => (k, x) :: rest
    | .gt => (k', x') :: insertPair k x rest

theorem mem_insertPair {k : κ} {x : α} {l : List (κ × α)} {e : κ × α}
    (h : e ∈ insertPair k x l) : e = (k, x) ∨ e ∈ l := by
  induction l with
  | nil => simpa [insertPair] using h
  | cons p rest ih =>
    obtain ⟨k', x'⟩ := p
    unfold insertPair at h
    split at h <;> simp only [List.mem_cons] at h ⊢ <;> grind

variable [Std.TransOrd κ]

theorem pairwise_insertPair {k : κ} {x : α} {l : List (κ × α)}
    (h : l.Pairwise fun a b => compare a.1 b.1 = .lt) :
    (insertPair k x l).Pairwise fun a b => compare a.1 b.1 = .lt := by
  induction l with
  | nil => simp [insertPair]
  | cons p rest ih =>
    obtain ⟨k', x'⟩ := p
    rw [List.pairwise_cons] at h
    unfold insertPair
    split
    next hlt =>
      refine List.pairwise_cons.2 ⟨fun e he => ?_, List.pairwise_cons.2 h⟩
      rcases List.mem_cons.1 he with rfl | he
      · exact hlt
      · exact Std.TransCmp.lt_trans hlt (h.1 e he)
    next heq =>
      -- the new key stands where an equal one stood, before all that is larger than that one
      refine List.pairwise_cons.2 ⟨fun e he => ?_, h.2⟩
      exact Std.TransCmp.lt_of_eq_of_lt heq (h.1 e he)
    next hgt =>
      refine List.pairwise_cons.2 ⟨fun e he => ?_, ih h.2⟩
      rcases mem_insertPair he with rfl | he
      · exact Std.OrientedCmp.lt_of_gt hgt
      · exact h.1 e he

/-- The map without entries. -/
def empty : OrderedMap κ α := ⟨[], List.Pairwise.nil⟩

instance : EmptyCollection (OrderedMap κ α) := ⟨empty⟩
instance : Inhabited (OrderedMap κ α) := ⟨empty⟩

/-- The value at a key, if the map has one. -/
def find? (m : OrderedMap κ α) (k : κ) : Option α :=
  (m.entries.find? fun e => compare e.1 k == .eq).map (·.2)

/-- Whether a key has a value. -/
def contains (m : OrderedMap κ α) (k : κ) : Bool :=
  (m.find? k).isSome

/-- Gives a key a value, replacing the one it had. -/
def insert (m : OrderedMap κ α) (k : κ) (x : α) : OrderedMap κ α :=
  ⟨insertPair k x m.entries, pairwise_insertPair m.sorted⟩

/-- Keeps the entries that a test accepts. -/
def filter (m : OrderedMap κ α) (p : κ → α → Bool) : OrderedMap κ α :=
  ⟨m.entries.filter fun e => p e.1 e.2, m.sorted.filter _⟩

/-- Takes a key and its value out. -/
def erase (m : OrderedMap κ α) (k : κ) : OrderedMap κ α :=
  m.filter fun k' _ => compare k' k != .eq

/-- The keys, smallest first. -/
def keys (m : OrderedMap κ α) : List κ := m.entries.map (·.1)

/-- The values in the order of their keys. -/
def values (m : OrderedMap κ α) : List α := m.entries.map (·.2)

/-- The number of entries. -/
def size (m : OrderedMap κ α) : Nat := m.entries.length

/-- The map of a list of pairs, where a later pair replaces an earlier one of its key. -/
def ofList (l : List (κ × α)) : OrderedMap κ α :=
  l.foldl (fun m e => m.insert e.1 e.2) ∅

/-! ## Lookups -/

omit [Std.TransOrd κ] in
@[simp]
theorem find?_empty (k : κ) : (∅ : OrderedMap κ α).find? k = none := rfl

variable [Std.LawfulEqOrd κ]

omit [Std.TransOrd κ] in
private theorem compare_beq_eq [DecidableEq κ] (a b : κ) :
    (compare a b == .eq) = decide (a = b) := by
  by_cases h : a = b
  · subst h; simp
  · have : compare a b ≠ .eq := fun he => h (Std.LawfulEqCmp.eq_of_compare he)
    simp [h, this]

omit [Std.TransOrd κ] in
theorem find?_eq_some_iff {m : OrderedMap κ α} {k : κ} {x : α} :
    m.find? k = some x ↔ (k, x) ∈ m.entries := by
  obtain ⟨l, hl⟩ := m
  simp only [find?]
  induction l with
  | nil => simp
  | cons p rest ih =>
    obtain ⟨k', x'⟩ := p
    rw [List.pairwise_cons] at hl
    by_cases h : k' = k
    · subst h
      simp only [List.find?_cons, Std.ReflCmp.compare_self, beq_self_eq_true, Option.map_some,
        Option.some.injEq, List.mem_cons, Prod.mk.injEq, true_and]
      constructor
      · intro h; exact Or.inl h.symm
      · rintro (h | h)
        · exact h.symm
        · have := hl.1 _ h
          simp at this
    · have hne : (compare k' k == .eq) = false := by
        simpa using fun he : compare k' k = .eq => h (Std.LawfulEqCmp.eq_of_compare he)
      simp only [List.find?_cons, hne, List.mem_cons, Prod.mk.injEq]
      rw [ih hl.2]
      constructor
      · exact Or.inr
      · rintro (⟨rfl, _⟩ | h')
        · exact absurd rfl h
        · exact h'

theorem find?_insert [DecidableEq κ] (m : OrderedMap κ α) (k k' : κ) (x : α) :
    (m.insert k x).find? k' = if k' = k then some x else m.find? k' := by
  obtain ⟨l, hl⟩ := m
  simp only [find?, insert]
  clear hl
  induction l with
  | nil => by_cases h : k' = k <;> simp [insertPair, compare_beq_eq, h, eq_comm]
  | cons p rest ih =>
    obtain ⟨k'', x''⟩ := p
    unfold insertPair
    split
    next hlt =>
      by_cases h : k' = k
      · subst h; simp
      · simp [compare_beq_eq, h, Ne.symm h]
    next heq =>
      have := Std.LawfulEqCmp.eq_of_compare heq
      subst this
      by_cases h : k' = k
      · subst h; simp
      · simp [compare_beq_eq, h, Ne.symm h]
    -- the pair goes further back, and the head is not the key that is put
    next hgt =>
      have hne : k'' ≠ k := by
        rintro rfl
        simp at hgt
      by_cases h : k'' = k'
      · subst h; simp [hne]
      · simpa [List.find?_cons, compare_beq_eq, h] using ih

omit [Std.TransOrd κ] in
theorem find?_filter (m : OrderedMap κ α) (p : κ → α → Bool) (k : κ) :
    (m.filter p).find? k = (m.find? k).filter (p k) := by
  apply Option.ext
  intro x
  rw [find?_eq_some_iff]
  simp only [filter, List.mem_filter, Option.filter_eq_some_iff, find?_eq_some_iff]

omit [Std.TransOrd κ] in
theorem find?_erase [DecidableEq κ] (m : OrderedMap κ α) (k k' : κ) :
    (m.erase k).find? k' = if k' = k then none else m.find? k' := by
  rw [erase, find?_filter]
  by_cases h : k' = k
  · subst h
    cases m.find? k' <;> simp
  · have hne : (compare k' k != .eq) = true := by
      simpa using fun he : compare k' k = .eq => h (Std.LawfulEqCmp.eq_of_compare he)
    cases m.find? k' <;> simp [h, hne]

/-- Two maps with the same lookups are equal. -/
theorem ext_find? {m n : OrderedMap κ α} (h : ∀ k, m.find? k = n.find? k) : m = n := by
  have hmem : ∀ e, e ∈ m.entries ↔ e ∈ n.entries := fun e => by
    rw [← find?_eq_some_iff (m := m) (k := e.1), ← find?_eq_some_iff (m := n) (k := e.1), h]
  obtain ⟨l, hl⟩ := m
  obtain ⟨l', hl'⟩ := n
  congr 1
  simp only at hmem
  clear h
  -- both lists begin with the smallest key that they have, so they agree entry by entry
  induction l generalizing l' with
  | nil =>
    cases l' with
    | nil => rfl
    | cons e rest => simpa using (hmem e).2 (List.mem_cons_self ..)
  | cons e rest ih =>
    cases l' with
    | nil => simpa using (hmem e).1 (List.mem_cons_self ..)
    | cons e' rest' =>
      rw [List.pairwise_cons] at hl hl'
      have hee : e = e' := by
        rcases List.mem_cons.1 ((hmem e).1 (List.mem_cons_self ..)) with h | h
        · exact h
        · rcases List.mem_cons.1 ((hmem e').2 (List.mem_cons_self ..)) with h' | h'
          · exact h'.symm
          -- each head would be smaller than the other
          · have h1 := hl.1 _ h'
            have h2 := hl'.1 _ h
            rw [Std.OrientedCmp.gt_of_lt h1] at h2
            simp at h2
      subst hee
      congr 1
      refine ih hl.2 rest' hl'.2 fun a => ?_
      constructor
      · intro ha
        rcases List.mem_cons.1 ((hmem a).1 (List.mem_cons_of_mem _ ha)) with rfl | h
        · have := hl.1 _ ha
          simp at this
        · exact h
      · intro ha
        rcases List.mem_cons.1 ((hmem a).2 (List.mem_cons_of_mem _ ha)) with rfl | h
        · have := hl'.1 _ ha
          simp at this
        · exact h

end OrderedMap

end DebugRelay
