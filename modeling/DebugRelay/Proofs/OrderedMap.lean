import DebugRelay.OrderedMap
import Mathlib.Data.List.Sort

/-!
# Walking ordered maps

The keys and the values that a walk through an ordered map meets are those that lookups find
(`mem_keys_iff`, `mem_values_iff`), and a walk meets the keys in increasing order
(`pairwise_keys`). The pairs that a walk meets make the same map again (`ofList_entries`).
The size of a map is the number of its keys, whatever is put or taken out (`size_insert`,
`size_erase`).
`OrderedMap.map` applies a function to every value, and every operation that looks only at keys
commutes with it.
-/

namespace DebugRelay.OrderedMap

variable {κ α : Type} [Ord κ]

theorem pairwise_keys (m : OrderedMap κ α) : m.keys.Pairwise fun a b => compare a b = .lt := by
  rw [keys, List.pairwise_map]
  exact m.sorted

section Lookups

variable [Std.LawfulEqOrd κ]

theorem mem_keys_iff {m : OrderedMap κ α} {k : κ} : k ∈ m.keys ↔ (m.find? k).isSome := by
  rw [Option.isSome_iff_exists, keys, List.mem_map]
  constructor
  · rintro ⟨⟨k', x⟩, he, rfl⟩
    exact ⟨x, find?_eq_some_iff.2 he⟩
  · rintro ⟨x, hx⟩
    exact ⟨(k, x), find?_eq_some_iff.1 hx, rfl⟩

theorem mem_values_iff {m : OrderedMap κ α} {x : α} : x ∈ m.values ↔ ∃ k, m.find? k = some x := by
  rw [values, List.mem_map]
  constructor
  · rintro ⟨⟨k, x'⟩, he, rfl⟩
    exact ⟨k, find?_eq_some_iff.2 he⟩
  · rintro ⟨k, hk⟩
    exact ⟨(k, x), find?_eq_some_iff.1 hk, rfl⟩

end Lookups

/-! ## Maps of lists -/

variable [Std.TransOrd κ]

omit [Std.TransOrd κ] in
/-- A pair with a larger key than all the others stands last. -/
theorem insertPair_of_forall_lt [Std.OrientedOrd κ] {k : κ} {x : α} {l : List (κ × α)}
    (h : ∀ e ∈ l, compare e.1 k = .lt) : insertPair k x l = l ++ [(k, x)] := by
  induction l with
  | nil => rfl
  | cons e rest ih =>
    have hgt : compare k e.1 = .gt := Std.OrientedCmp.gt_of_lt (h e List.mem_cons_self)
    have hrest := ih fun e' he => h e' (List.mem_cons_of_mem e he)
    rw [insertPair, hgt]
    simp only [hrest, List.cons_append]

/-- Larger and larger pairs are put behind the ones that are there. -/
theorem entries_foldl_insert (m : OrderedMap κ α) {l : List (κ × α)}
    (h : (m.entries ++ l).Pairwise fun a b => compare a.1 b.1 = .lt) :
    (l.foldl (fun m e => m.insert e.1 e.2) m).entries = m.entries ++ l := by
  induction l generalizing m with
  | nil => simp
  | cons e rest ih =>
    have hlast : (m.insert e.1 e.2).entries = m.entries ++ [e] :=
      insertPair_of_forall_lt fun e' he =>
        (List.pairwise_append.1 h).2.2 e' he e List.mem_cons_self
    rw [List.foldl_cons, ih]
    · rw [hlast, List.append_assoc, List.singleton_append]
    · rw [hlast, List.append_assoc, List.singleton_append]
      exact h

theorem ofList_entries (m : OrderedMap κ α) : ofList m.entries = m := by
  have h : (ofList m.entries).entries = m.entries := by
    rw [ofList, entries_foldl_insert ∅ m.sorted]
    rfl
  cases hm : ofList m.entries
  cases m
  simp_all

theorem mem_of_mem_entries_foldl_insert {l : List (κ × α)} {m : OrderedMap κ α} {e : κ × α}
    (h : e ∈ (l.foldl (fun m e => m.insert e.1 e.2) m).entries) : e ∈ m.entries ∨ e ∈ l := by
  induction l generalizing m with
  | nil => exact Or.inl h
  | cons e' rest ih =>
    rcases ih h with hm | hrest
    · rcases mem_insertPair hm with rfl | hm
      · exact Or.inr List.mem_cons_self
      · exact Or.inl hm
    · exact Or.inr (List.mem_cons_of_mem e' hrest)

/-- A map of a list has no other pairs. -/
theorem mem_of_mem_entries_ofList {l : List (κ × α)} {e : κ × α} (h : e ∈ (ofList l).entries) :
    e ∈ l := by
  rcases mem_of_mem_entries_foldl_insert h with hnone | he
  · exact absurd hnone List.not_mem_nil
  · exact he

/-! ## Mapping the values -/

section Map

variable {β : Type}

omit [Std.TransOrd κ] in
/-- Applies a function to every value. -/
def map (f : α → β) (m : OrderedMap κ α) : OrderedMap κ β where
  entries := m.entries.map fun e => (e.1, f e.2)
  sorted := by
    rw [List.pairwise_map]
    exact m.sorted

omit [Std.TransOrd κ] in
@[simp]
theorem keys_map (f : α → β) (m : OrderedMap κ α) : (m.map f).keys = m.keys := by
  simp [keys, map]

omit [Std.TransOrd κ] in
@[simp]
theorem values_map (f : α → β) (m : OrderedMap κ α) : (m.map f).values = m.values.map f := by
  simp [values, map]

omit [Std.TransOrd κ] in
@[simp]
theorem find?_map (f : α → β) (m : OrderedMap κ α) (k : κ) :
    (m.map f).find? k = (m.find? k).map f := by
  simp only [find?, map, List.find?_map, Option.map_map]
  rfl

variable [Std.LawfulEqOrd κ] [DecidableEq κ]

theorem map_insert (f : α → β) (m : OrderedMap κ α) (k : κ) (x : α) :
    (m.insert k x).map f = (m.map f).insert k (f x) := by
  refine ext_find? fun k' => ?_
  rw [find?_map, find?_insert, find?_insert, find?_map]
  split <;> rfl

omit [DecidableEq κ] in
theorem map_filter (f : α → β) (m : OrderedMap κ α) (p : κ → Bool) :
    (m.filter fun k _ => p k).map f = (m.map f).filter fun k _ => p k := by
  refine ext_find? fun k => ?_
  rw [find?_map, find?_filter, find?_filter, find?_map]
  cases m.find? k with
  | none => rfl
  | some x => cases p k <;> simp [Option.filter]

omit [DecidableEq κ] in
theorem map_erase (f : α → β) (m : OrderedMap κ α) (k : κ) :
    (m.erase k).map f = (m.map f).erase k :=
  map_filter f m _

/-- Giving a key the value that it has changes nothing. -/
theorem insert_of_find? {m : OrderedMap κ α} {k : κ} {x : α} (h : m.find? k = some x) :
    m.insert k x = m := by
  refine ext_find? fun k' => ?_
  rw [find?_insert]
  split
  · next hk => rw [hk, h]
  · rfl

end Map

/-! ## Sizes -/

section Sizes

variable [Std.LawfulEqOrd κ]

omit [Std.TransOrd κ] in
theorem nodup_entries (m : OrderedMap κ α) : m.entries.Nodup := by
  refine m.sorted.imp ?_
  rintro a b hlt rfl
  simp at hlt

variable [DecidableEq κ]

/-- A pair that is put is one more than the others. -/
theorem size_insert (m : OrderedMap κ α) (k : κ) (x : α) :
    (m.insert k x).size = (m.erase k).size + 1 := by
  have hfree : (k, x) ∉ (m.erase k).entries := by
    rw [← find?_eq_some_iff, find?_erase, if_pos rfl]
    simp
  have hnodup : ((k, x) :: (m.erase k).entries).Nodup :=
    List.nodup_cons.2 ⟨hfree, nodup_entries _⟩
  have hperm : (m.insert k x).entries.Perm ((k, x) :: (m.erase k).entries) := by
    rw [List.perm_ext_iff_of_nodup (nodup_entries _) hnodup]
    rintro ⟨k', x'⟩
    rw [List.mem_cons, ← find?_eq_some_iff, ← find?_eq_some_iff, find?_insert, find?_erase]
    by_cases hk : k' = k
    · simp [hk, eq_comm]
    · simp [hk]
  exact hperm.length_eq

/-- A key that is taken out is one less, if it was there. -/
theorem size_erase (m : OrderedMap κ α) (k : κ) :
    (m.erase k).size + (if (m.find? k).isSome then 1 else 0) = m.size := by
  cases hk : m.find? k with
  | some x =>
    rw [Option.isSome_some, if_pos rfl, ← size_insert m k x, insert_of_find? hk]
  | none =>
    have hsame : m.erase k = m := by
      refine ext_find? fun k' => ?_
      rw [find?_erase]
      split
      · next heq => rw [heq, hk]
      · rfl
    rw [hsame]
    rfl

end Sizes

end DebugRelay.OrderedMap
