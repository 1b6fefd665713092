import DebugRelay.Proofs.Registry.Histories

/-!
# What a put changes

A put tells what it did to the registry, and does no more than that. `Registry.Put` lists the four
things that a put into a sound registry can come to, each with all that it leaves
(`Sound.put_spec`). From these, `put_told` says for every history and every breakpoint what is at
its location afterwards, which other entries stay, how many there are, and that each of the four
answers is given exactly where its change was made. A second put of the same breakpoint finds
nothing to do (`put_put`).
-/

namespace DebugRelay

@[simp]
theorem Breakpoint.updateFrom_self (b : Breakpoint) : b.updateFrom b = b := rfl

@[simp]
theorem Breakpoint.updateFrom_updateFrom (b other : Breakpoint) :
    (b.updateFrom other).updateFrom other = b.updateFrom other := rfl

namespace Registry

/-- The marker of a breakpoint owns a location. -/
def OwnedBy (r : Registry) (b : Breakpoint) (l : Location) : Prop :=
  ∃ m, b.marker = some m ∧ r.owners.find? m = some l

/-- What putting a breakpoint into a registry comes to, with the registry that it leaves. -/
inductive Put (r s : Registry) (b : Breakpoint) : Change → Prop
  /-- The location was free and gets the breakpoint. -/
  | inserted (hhome : r.ownedElsewhere? b.marker b.location = none)
      (hfree : r.find? b.location = none) (hfind : s.find? b.location = some b)
      (hothers : ∀ k, k ≠ b.location → s.find? k = r.find? k) (hsize : s.size = r.size + 1) :
      Put r s b .inserted
  /-- The entry at the location takes over other attributes. -/
  | updated {existing : Breakpoint} (hhome : r.ownedElsewhere? b.marker b.location = none)
      (hold : r.find? b.location = some existing) (hnew : existing.updateFrom b ≠ existing)
      (hfind : s.find? b.location = some (existing.updateFrom b))
      (hothers : ∀ k, k ≠ b.location → s.find? k = r.find? k) (hsize : s.size = r.size) :
      Put r s b .updated
  /-- The entry at the location has these attributes. -/
  | unchanged {existing : Breakpoint} (hhome : r.ownedElsewhere? b.marker b.location = none)
      (hold : r.find? b.location = some existing) (hsame : existing.updateFrom b = existing)
      (hentries : s.entries = r.entries) :
      Put r s b .unchanged
  /-- The entry that the marker owns elsewhere goes, and the location gets the breakpoint. -/
  | moved {former : Location} {previous : Breakpoint}
      (haway : r.ownedElsewhere? b.marker b.location = some former)
      (hprevious : r.find? former = some previous) (hgone : s.find? former = none)
      (hfind : s.find? b.location = some b)
      (hothers : ∀ k, k ≠ b.location → k ≠ former → s.find? k = r.find? k)
      (hsize : s.size + (if (r.find? b.location).isSome then 1 else 0) = r.size) :
      Put r s b (.moved previous)

/-! ## Sizes -/

@[simp]
theorem entries_own (r : Registry) (marker : Option UInt64) (l : Location) :
    (r.own marker l).entries = r.entries := by
  cases marker <;> rfl

theorem size_clear (r : Registry) (l : Location) :
    (r.clear l).size + (if (r.find? l).isSome then 1 else 0) = r.size :=
  OrderedMap.size_erase r.entries l

/-- The size after an entry has been stored under a location. -/
theorem size_insert_entries (r : Registry) (l : Location) (b : Breakpoint) :
    ({ r with entries := r.entries.insert l b } : Registry).size = (r.clear l).size + 1 :=
  OrderedMap.size_insert r.entries l b

/-! ## A put -/

variable {r : Registry} {b : Breakpoint}

theorem ownedElsewhere?_eq_none_iff {l : Location} :
    r.ownedElsewhere? b.marker l = none ↔ ∀ k, r.OwnedBy b k → k = l := by
  rw [Option.eq_none_iff_forall_ne_some]
  constructor
  · intro hnone k hk
    by_contra hne
    exact hnone k (ownedElsewhere?_eq_some_iff.2 ⟨hk, hne⟩)
  · intro hhome k hk
    obtain ⟨hown, hne⟩ := ownedElsewhere?_eq_some_iff.1 hk
    exact hne (hhome k hown)

/-- Without a location that the marker owns elsewhere, all entries elsewhere stay. -/
theorem find?_put_of_home (hhome : r.ownedElsewhere? b.marker b.location = none) {k : Location}
    (hk : k ≠ b.location) : (r.put b).1.find? k = r.find? k := by
  rw [find?_put, if_neg hk, hhome]
  simp

theorem Sound.put_spec (hr : r.Sound) (b : Breakpoint) : Put r (r.put b).1 b (r.put b).2 := by
  have hfind : (r.put b).1.find? b.location = some (r.entryAfter b) := by
    rw [find?_put, if_pos rfl]
  cases haway : r.ownedElsewhere? b.marker b.location with
  | some former =>
    obtain ⟨previous, hprevious, hchange⟩ := hr.put_snd_of_elsewhere haway
    have hne : former ≠ b.location := (ownedElsewhere?_eq_some_iff.1 haway).2
    rw [hchange]
    refine .moved haway hprevious ?_ ?_ ?_ ?_
    · rw [find?_put, if_neg hne, if_pos haway]
    · rw [hfind, entryAfter, haway]
    · intro k hk hformer
      rw [find?_put, if_neg hk, haway, if_neg fun heq => hformer (Option.some.inj heq).symm]
    -- one entry goes, and one comes unless it takes the place of another
    · have hcleared := r.size_clear former
      rw [hprevious, Option.isSome_some, if_pos rfl] at hcleared
      have hplace := ((r.clear former).own b.marker b.location).size_clear b.location
      rw [find?_own, find?_clear, if_neg hne.symm] at hplace
      have hown : ((r.clear former).own b.marker b.location).size = (r.clear former).size := by
        rw [size, entries_own, size]
      rw [put_of_elsewhere haway, size_insert_entries]
      omega
  | none =>
    have hothers := fun k => find?_put_of_home (k := k) haway
    have hsize : (r.own b.marker b.location).size = r.size := by rw [size, entries_own, size]
    have hplace := (r.own b.marker b.location).size_clear b.location
    rw [find?_own] at hplace
    cases hold : r.find? b.location with
    | none =>
      rw [entryAfter, haway, hold] at hfind
      rw [hold] at hplace
      have hgrown : (r.put b).1.size = r.size + 1 := by
        rw [put_of_free haway hold, size_insert_entries]
        simpa [hsize] using hplace
      have hchange : (r.put b).2 = .inserted := by rw [put_of_free haway hold]
      rw [hchange]
      exact .inserted haway hold hfind hothers hgrown
    | some existing =>
      rw [entryAfter, haway, hold] at hfind
      rw [hold, Option.isSome_some, if_pos rfl] at hplace
      by_cases hsame : existing.updateFrom b = existing
      · have hput := (put_of_here haway hold).trans (if_pos hsame)
        have hentries : (r.put b).1.entries = r.entries := by rw [hput, entries_own]
        have hchange : (r.put b).2 = .unchanged := by rw [hput]
        rw [hchange]
        exact .unchanged haway hold hsame hentries
      · have hput := (put_of_here haway hold).trans (if_neg hsame)
        have hkept : (r.put b).1.size = r.size := by
          rw [hput, size_insert_entries, hplace, hsize]
        have hchange : (r.put b).2 = .updated := by rw [hput]
        rw [hchange]
        exact .updated haway hold hsame hfind hothers hkept

/-- A marker that owns a location cannot be made its owner. -/
theorem own_of_owned {l : Location} (h : ∀ m, b.marker = some m → r.owners.find? m = some l) :
    r.own b.marker l = r := by
  cases hm : b.marker with
  | none => rfl
  | some m => rw [own, OrderedMap.insert_of_find? (h m hm)]

theorem updateFrom_entryAfter (r : Registry) (b : Breakpoint) :
    (r.entryAfter b).updateFrom b = r.entryAfter b := by
  unfold entryAfter
  split
  · exact Breakpoint.updateFrom_updateFrom _ b
  · exact Breakpoint.updateFrom_self b

theorem owners_put_of_marker {m : UInt64} (hm : b.marker = some m) :
    (r.put b).1.owners.find? m = some b.location := by
  rw [owners_put, if_pos hm]

/-- A breakpoint that was put is there with all that a put could bring. -/
theorem put_put (r : Registry) (b : Breakpoint) :
    (r.put b).1.put b = ((r.put b).1, .unchanged) := by
  have hhome : (r.put b).1.ownedElsewhere? b.marker b.location = none := by
    rw [ownedElsewhere?_eq_none_iff]
    rintro k ⟨m, hm, hown⟩
    rw [owners_put_of_marker hm] at hown
    exact (Option.some.inj hown).symm
  have hfind : (r.put b).1.find? b.location = some (r.entryAfter b) := by
    rw [find?_put, if_pos rfl]
  rw [put_of_here hhome hfind, if_pos (updateFrom_entryAfter r b),
    own_of_owned fun m hm => owners_put_of_marker hm]

/-! ## What the answers mean -/

variable {s : Registry} {c : Change}

theorem Put.inserted_iff (h : Put r s b c) :
    (c = .inserted ↔ r.size < s.size) ∧ (c = .inserted → s.size = r.size + 1) := by
  cases h with
  | inserted hhome hfree hfind hothers hsize =>
    exact ⟨iff_of_true rfl (by omega), fun _ => hsize⟩
  | updated hhome hold hnew hfind hothers hsize =>
    exact ⟨iff_of_false (by simp) (by omega), fun h => by simp at h⟩
  | unchanged hhome hold hsame hentries =>
    have hsize : s.size = r.size := by rw [size, hentries, size]
    exact ⟨iff_of_false (by simp) (by omega), fun h => by simp at h⟩
  | moved haway hprevious hgone hfind hothers hsize =>
    exact ⟨iff_of_false (by simp) (by omega), fun h => by simp at h⟩

theorem Put.unchanged_iff (h : Put r s b c) : c = .unchanged ↔ ∀ k, s.find? k = r.find? k := by
  cases h with
  | inserted hhome hfree hfind hothers hsize =>
    refine iff_of_false (by simp) fun hall => ?_
    rw [hall, hfree] at hfind
    simp at hfind
  | updated hhome hold hnew hfind hothers hsize =>
    refine iff_of_false (by simp) fun hall => ?_
    rw [hall, hold] at hfind
    exact hnew (Option.some.inj hfind).symm
  | unchanged hhome hold hsame hentries =>
    exact iff_of_true rfl fun k => by rw [find?, hentries, find?]
  | moved haway hprevious hgone hfind hothers hsize =>
    refine iff_of_false (by simp) fun hall => ?_
    rw [hall, hprevious] at hgone
    simp at hgone

/-- The entry at the breakpoint's location was there and is another one now, and no other entry is
another one. -/
def OnlyEntryChanged (r s : Registry) (l : Location) : Prop :=
  (∃ x y, r.find? l = some x ∧ s.find? l = some y ∧ x ≠ y) ∧ ∀ k, k ≠ l → s.find? k = r.find? k

theorem Put.updated_iff (h : Put r s b c) :
    (c = .updated ↔ OnlyEntryChanged r s b.location) ∧
      (c = .updated → ∃ x y, r.find? b.location = some x ∧ s.find? b.location = some y ∧
        y.marker = x.marker) := by
  cases h with
  | inserted hhome hfree hfind hothers hsize =>
    refine ⟨iff_of_false (by simp) ?_, fun h => by simp at h⟩
    rintro ⟨⟨x, y, hx, -⟩, -⟩
    rw [hfree] at hx
    simp at hx
  | updated hhome hold hnew hfind hothers hsize =>
    refine ⟨iff_of_true rfl ⟨⟨_, _, hold, hfind, hnew.symm⟩, hothers⟩, fun _ => ?_⟩
    exact ⟨_, _, hold, hfind, rfl⟩
  | unchanged hhome hold hsame hentries =>
    refine ⟨iff_of_false (by simp) ?_, fun h => by simp at h⟩
    rintro ⟨⟨x, y, hx, hy, hne⟩, -⟩
    rw [find?, hentries, ← find?, hx] at hy
    exact hne (Option.some.inj hy)
  | moved haway hprevious hgone hfind hothers hsize =>
    refine ⟨iff_of_false (by simp) ?_, fun h => by simp at h⟩
    -- the place that the marker left is another one, and changed
    rintro ⟨-, hall⟩
    rw [hall _ (ownedElsewhere?_eq_some_iff.1 haway).2, hprevious] at hgone
    simp at hgone

theorem Put.moved_iff (h : Put r s b c) :
    (∃ q, c = .moved q) ↔ ∃ p, r.OwnedBy b p ∧ p ≠ b.location := by
  have hstays : r.ownedElsewhere? b.marker b.location = none →
      ¬ ∃ p, r.OwnedBy b p ∧ p ≠ b.location := by
    rintro hhome ⟨p, hown, hne⟩
    exact hne (ownedElsewhere?_eq_none_iff.1 hhome p hown)
  cases h with
  | inserted hhome hfree hfind hothers hsize => exact iff_of_false (by simp) (hstays hhome)
  | updated hhome hold hnew hfind hothers hsize => exact iff_of_false (by simp) (hstays hhome)
  | unchanged hhome hold hsame hentries => exact iff_of_false (by simp) (hstays hhome)
  | moved haway hprevious hgone hfind hothers hsize =>
    exact iff_of_true ⟨_, rfl⟩ ⟨_, ownedElsewhere?_eq_some_iff.1 haway⟩

/-- A put that moves an entry tells which, and leaves the breakpoint in its stead. -/
theorem Put.moved_from (h : Put r s b c) {p : Location} (hown : r.OwnedBy b p)
    (hp : p ≠ b.location) :
    ∃ q, r.find? p = some q ∧ c = .moved q ∧ s.find? p = none ∧ s.find? b.location = some b ∧
      s.size + (if (r.find? b.location).isSome then 1 else 0) = r.size := by
  have haway : r.ownedElsewhere? b.marker b.location = some p :=
    ownedElsewhere?_eq_some_iff.2 ⟨hown, hp⟩
  cases h with
  | inserted hhome hfree hfind hothers hsize => simp [haway] at hhome
  | updated hhome hold hnew hfind hothers hsize => simp [haway] at hhome
  | unchanged hhome hold hsame hentries => simp [haway] at hhome
  | moved hformer hprevious hgone hfind hothers hsize =>
    obtain rfl := Option.some.inj (haway.symm.trans hformer)
    exact ⟨_, hprevious, rfl, hgone, hfind, hsize⟩

/-- Entries stay that are neither at the breakpoint's location nor where its marker owned one. -/
theorem find?_put_of_not_owned {k : Location} (hk : k ≠ b.location) (hown : ¬ r.OwnedBy b k) :
    (r.put b).1.find? k = r.find? k := by
  rw [find?_put, if_neg hk, if_neg]
  intro haway
  exact hown (ownedElsewhere?_eq_some_iff.1 haway).1

theorem Sound.find?_put_location (hr : r.Sound) (b : Breakpoint) :
    ∃ x, (r.put b).1.find? b.location = some x ∧ x.file = b.file ∧ x.line = b.line ∧
      x.condition = b.condition ∧ x.hitCount = b.hitCount ∧ x.temporary = b.temporary ∧
      x.enabled = b.enabled := by
  have hloc := location_entryAfter hr b
  rw [Breakpoint.location, Breakpoint.location, Location.mk.injEq] at hloc
  -- taking the attributes over once more would change nothing, so they are there
  have hsame := updateFrom_entryAfter r b
  rw [Breakpoint.updateFrom, Breakpoint.mk.injEq] at hsame
  obtain ⟨-, -, hcondition, hcount, htemporary, henabled, -⟩ := hsame
  exact ⟨r.entryAfter b, by rw [find?_put, if_pos rfl], hloc.1, hloc.2, hcondition.symm,
    hcount.symm, htemporary.symm, henabled.symm⟩

/-- What a put changes after any history. The location of the breakpoint has an entry with all its
attributes; the other entries stay, but for the one that its marker owned elsewhere. The put answers
that it inserted an entry exactly if there is one more, that nothing changed exactly if no entry
did, that it updated an entry exactly if the one at the location, which keeps its marker, is all
that changed, and that it moved an entry exactly if the marker owned another location: then it
hands out the entry there, which is gone, and the breakpoint stands at the new location, where it
has taken the place of any other. Its marker owns the location, and the same put again changes
nothing at all. -/
theorem put_told (ops : List Op) (b : Breakpoint) :
    let r := empty.after ops
    let s := (r.put b).1
    let c := (r.put b).2
    let l := b.location
    (∃ x, s.find? l = some x ∧ x.file = b.file ∧ x.line = b.line ∧ x.condition = b.condition ∧
      x.hitCount = b.hitCount ∧ x.temporary = b.temporary ∧ x.enabled = b.enabled) ∧
    (∀ k, k ≠ l → ¬ r.OwnedBy b k → s.find? k = r.find? k) ∧
    (c = .inserted ↔ r.size < s.size) ∧ (c = .inserted → s.size = r.size + 1) ∧
    (c = .unchanged ↔ ∀ k, s.find? k = r.find? k) ∧
    (c = .updated ↔ OnlyEntryChanged r s l) ∧
    (c = .updated → ∃ x y, r.find? l = some x ∧ s.find? l = some y ∧ y.marker = x.marker) ∧
    ((∃ q, c = .moved q) ↔ ∃ p, r.OwnedBy b p ∧ p ≠ l) ∧
    (∀ p, r.OwnedBy b p → p ≠ l → ∃ q, r.find? p = some q ∧ c = .moved q ∧ s.find? p = none ∧
      s.find? l = some b ∧ s.size + (if (r.find? l).isSome then 1 else 0) = r.size) ∧
    (∀ m, b.marker = some m → s.owners.find? m = some l) ∧
    s.put b = (s, .unchanged) := by
  intro r s c l
  have hr : r.Sound := (coherent_after ops).toSound
  have hput : Put r s b c := hr.put_spec b
  refine ⟨hr.find?_put_location b, fun k => find?_put_of_not_owned, hput.inserted_iff.1,
    hput.inserted_iff.2, hput.unchanged_iff, hput.updated_iff.1, hput.updated_iff.2,
    hput.moved_iff, fun p => hput.moved_from, fun m => owners_put_of_marker, put_put r b⟩

end Registry

end DebugRelay
