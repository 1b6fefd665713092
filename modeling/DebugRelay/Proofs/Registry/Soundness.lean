import DebugRelay.Proofs.OrderedMap
import DebugRelay.Registry

/-!
# Soundness of the registry

Every operation of the registry is described by what it does to the lookups: `find?_clear`,
`find?_put` and `find?_unload` for the entries, `owners_clear`, `owners_put` and
`owners_unload_eq_some_iff` for the owners.
`Registry.Sound` is the invariant that the operations keep (`Sound.put`, `Sound.clear`,
`Sound.unload`): entries stand at their own location, and markers own locations with an entry.

In a sound registry the known lines of a file's enabled entries form a strictly increasing list
(`pairwise_knownLines`), whose members are characterised by `mem_knownLines_iff`.
-/

namespace DebugRelay

/-- The lines of breakpoints whose line is known. -/
def knownLines (bs : List Breakpoint) : List UInt32 := bs.filterMap (·.line)

@[simp]
theorem Breakpoint.location_updateFrom (b other : Breakpoint) :
    (b.updateFrom other).location = b.location := rfl

namespace Registry

/-! ## Lookups after each operation -/

theorem find?_clear (r : Registry) (l k : Location) :
    (r.clear l).find? k = if k = l then none else r.find? k :=
  OrderedMap.find?_erase r.entries l k

theorem owners_clear (r : Registry) (l : Location) (m : UInt64) :
    (r.clear l).owners.find? m = (r.owners.find? m).filter (· ≠ l) :=
  OrderedMap.find?_filter r.owners _ m

@[simp]
theorem find?_own (r : Registry) (marker : Option UInt64) (l k : Location) :
    (r.own marker l).find? k = r.find? k := by
  cases marker <;> rfl

theorem owners_own (r : Registry) (m m' : UInt64) (l : Location) :
    (r.own (some m) l).owners.find? m' = if m' = m then some l else r.owners.find? m' :=
  OrderedMap.find?_insert r.owners m m' l

theorem ownedElsewhere?_eq_some_iff {r : Registry} {marker : Option UInt64} {l former : Location} :
    r.ownedElsewhere? marker l = some former ↔
      (∃ m, marker = some m ∧ r.owners.find? m = some former) ∧ former ≠ l := by
  rw [ownedElsewhere?, Option.filter_eq_some_iff, Option.bind_eq_some_iff, decide_eq_true_iff]

/-- The entry that putting a breakpoint leaves at its location: the breakpoint itself where it
moves or the place is free, else the entry that was there with its attributes. -/
def entryAfter (r : Registry) (b : Breakpoint) : Breakpoint :=
  match r.ownedElsewhere? b.marker b.location, r.find? b.location with
  | none, some existing => existing.updateFrom b
  | _, _ => b

theorem put_of_elsewhere {r : Registry} {b : Breakpoint} {former : Location}
    (h : r.ownedElsewhere? b.marker b.location = some former) :
    r.put b =
      ({ (r.clear former).own b.marker b.location with
          entries := ((r.clear former).own b.marker b.location).entries.insert b.location b },
        match r.find? former with
        | some previous => .moved previous
        | none => .inserted) := by
  cases hp : r.find? former with
  | some previous => simp only [put, h, hp]
  | none => simp only [put, h, hp]

theorem put_of_here {r : Registry} {b existing : Breakpoint}
    (h : r.ownedElsewhere? b.marker b.location = none) (hl : r.find? b.location = some existing) :
    r.put b =
      if existing.updateFrom b = existing then (r.own b.marker b.location, .unchanged)
      else
        ({ r.own b.marker b.location with
            entries := (r.own b.marker b.location).entries.insert b.location
              (existing.updateFrom b) }, .updated) := by
  simp only [put, h, find?_own, hl]

theorem put_of_free {r : Registry} {b : Breakpoint}
    (h : r.ownedElsewhere? b.marker b.location = none) (hl : r.find? b.location = none) :
    r.put b =
      ({ r.own b.marker b.location with
          entries := (r.own b.marker b.location).entries.insert b.location b }, .inserted) := by
  simp only [put, h, find?_own, hl]

/-- Lookups after an entry has been stored under a location. -/
theorem find?_insert_entries (r : Registry) (l k : Location) (b : Breakpoint) :
    ({ r with entries := r.entries.insert l b } : Registry).find? k =
      if k = l then some b else r.find? k :=
  OrderedMap.find?_insert r.entries l k b

theorem find?_put (r : Registry) (b : Breakpoint) (k : Location) :
    (r.put b).1.find? k =
      if k = b.location then some (r.entryAfter b)
      else if r.ownedElsewhere? b.marker b.location = some k then none
      else r.find? k := by
  cases hformer : r.ownedElsewhere? b.marker b.location with
  | some former =>
    simp only [put_of_elsewhere hformer, entryAfter, hformer, find?_insert_entries, find?_own,
      find?_clear, Option.some.injEq, eq_comm (a := former)]
  | none =>
    cases hold : r.find? b.location with
    | none =>
      simp only [put_of_free hformer hold, entryAfter, hformer, hold, find?_insert_entries,
        find?_own, reduceCtorEq, if_false]
    | some existing =>
      simp only [put_of_here hformer hold, entryAfter, hformer, hold, reduceCtorEq, if_false]
      split
      -- the entry is stored only if its attributes change; otherwise it is there already
      · next hsame =>
        rw [find?_own]
        split
        · next hk => rw [hk, hold, hsame]
        · rfl
      · rw [find?_insert_entries, find?_own]

theorem find?_foldl_clear (ls : List Location) (r : Registry) (k : Location) :
    (ls.foldl clear r).find? k = if k ∈ ls then none else r.find? k := by
  -- the registry changes with each location, so the induction is for all of them
  induction ls generalizing r with
  | nil => simp
  | cons l rest ih =>
    rw [List.foldl_cons, ih, find?_clear]
    by_cases hk : k = l <;> simp [hk]

theorem owners_foldl_clear (ls : List Location) (r : Registry) (m : UInt64) :
    (ls.foldl clear r).owners.find? m = (r.owners.find? m).filter (· ∉ ls) := by
  induction ls generalizing r with
  | nil => cases hm : r.owners.find? m <;> simp [Option.filter, hm]
  | cons l rest ih =>
    rw [List.foldl_cons, ih, owners_clear]
    cases r.owners.find? m with
    | none => rfl
    | some k => by_cases hk : k = l <;> simp [Option.filter, hk]

theorem mem_locations_iff {r : Registry} {f : SourceFile} {l : Location} :
    l ∈ r.entries.keys.filter (fun l => l.file = f) ↔ (r.find? l).isSome ∧ l.file = f := by
  rw [List.mem_filter, OrderedMap.mem_keys_iff, decide_eq_true_iff]
  rfl

theorem find?_unload (r : Registry) (f : SourceFile) (k : Location) :
    (r.unload f).1.find? k = if k.file = f then none else r.find? k := by
  simp only [unload, find?_foldl_clear, mem_locations_iff]
  by_cases hf : k.file = f
  · cases hk : r.find? k <;> simp [hf]
  · simp [hf]

theorem owners_unload_eq_some_iff (r : Registry) {f : SourceFile} {l : Location} (m : UInt64)
    (hl : l.file ≠ f) :
    (r.unload f).1.owners.find? m = some l ↔ r.owners.find? m = some l := by
  simp only [unload, owners_foldl_clear, Option.filter_eq_some_iff, decide_eq_true_iff,
    mem_locations_iff]
  exact and_iff_left fun h => hl h.2

theorem exists_of_mem_unload {r : Registry} {f : SourceFile} {b : Breakpoint}
    (h : b ∈ (r.unload f).2) : ∃ l : Location, l.file = f ∧ r.find? l = some b := by
  obtain ⟨l, hl, hb⟩ := List.mem_filterMap.1 h
  exact ⟨l, (mem_locations_iff.1 hl).2, hb⟩

/-- Unloading a file without entries changes none. -/
theorem find?_unload_of_nil {r : Registry} {f : SourceFile} (h : (r.unload f).2 = [])
    (k : Location) : (r.unload f).1.find? k = r.find? k := by
  rw [find?_unload]
  split
  · next hf =>
    cases hk : r.find? k with
    | none => rfl
    | some b =>
      -- an entry in the file would have been returned
      have hmem : b ∈ (r.unload f).2 :=
        List.mem_filterMap.2 ⟨k, mem_locations_iff.2 ⟨by simp [hk], hf⟩, hk⟩
      simp [h] at hmem
  · rfl

/-! ## The invariant -/

/-- Every entry stands at its own location, and a marker owns only locations with an entry. -/
structure Sound (r : Registry) : Prop where
  located : ∀ {l b}, r.find? l = some b → b.location = l
  owned : ∀ {m l}, r.owners.find? m = some l → (r.find? l).isSome

theorem sound_empty : Sound empty where
  located h := by simp [find?, empty] at h
  owned h := by simp [empty] at h

variable {r : Registry}

theorem Sound.clear (hr : r.Sound) (l : Location) : (r.clear l).Sound where
  located h := by
    rw [find?_clear] at h
    split at h
    · simp at h
    · exact hr.located h
  owned h := by
    rw [owners_clear, Option.filter_eq_some_iff] at h
    -- an owner of the cleared location would have been dropped with it
    rw [find?_clear, if_neg (by simpa using h.2)]
    exact hr.owned h.1

theorem Sound.unload (hr : r.Sound) (f : SourceFile) : (r.unload f).1.Sound := by
  unfold Registry.unload
  induction r.entries.keys.filter (fun l => l.file = f) generalizing r with
  | nil => exact hr
  | cons l rest ih => exact ih (hr.clear l)

theorem location_entryAfter (hr : r.Sound) (b : Breakpoint) :
    (r.entryAfter b).location = b.location := by
  unfold entryAfter
  split
  · next h =>
    rw [Breakpoint.location_updateFrom]
    exact hr.located h
  · rfl

/-- A marker owns after a put what it owned before, unless it is the marker of the breakpoint,
which owns its location, or owned the place that the breakpoint left, and then owns nothing. -/
theorem owners_put (r : Registry) (b : Breakpoint) (m : UInt64) :
    (r.put b).1.owners.find? m =
      if b.marker = some m then some b.location
      else (r.owners.find? m).filter fun l => r.ownedElsewhere? b.marker b.location ≠ some l := by
  cases hformer : r.ownedElsewhere? b.marker b.location with
  | some former =>
    obtain ⟨⟨m', hm', -⟩, -⟩ := ownedElsewhere?_eq_some_iff.1 hformer
    rw [put_of_elsewhere hformer, hm']
    simp only [owners_own, owners_clear, Option.some.injEq, eq_comm (a := m), ne_eq,
      eq_comm (a := former)]
  | none =>
    have hown : (r.own b.marker b.location).owners.find? m =
        if b.marker = some m then some b.location else r.owners.find? m := by
      cases hb : b.marker with
      | none => rfl
      | some m' => simp [owners_own, eq_comm]
    -- no location is left behind, so the filter keeps every owner
    have hkeep : ((r.owners.find? m).filter fun l => none ≠ some l) = r.owners.find? m := by
      cases r.owners.find? m <;> rfl
    rw [hkeep, ← hown]
    cases hold : r.find? b.location with
    | none => rw [put_of_free hformer hold]
    | some existing =>
      rw [put_of_here hformer hold]
      split <;> rfl

theorem Sound.put (hr : r.Sound) (b : Breakpoint) : (r.put b).1.Sound where
  located {l x} h := by
    rw [find?_put] at h
    split at h
    · next hl =>
      rw [Option.some.injEq] at h
      rw [← h, location_entryAfter hr, hl]
    · split at h
      · simp at h
      · exact hr.located h
  owned {m l} h := by
    rw [owners_put] at h
    rw [find?_put]
    split
    · rfl
    · next hl =>
      split at h
      -- the breakpoint's own marker owns the new location, where the lookup cannot miss
      · next hm => exact absurd (Option.some.inj h).symm hl
      · rw [Option.filter_eq_some_iff, decide_eq_true_iff] at h
        rw [if_neg h.2]
        exact hr.owned h.1

/-- A put whose marker owns another location finds an entry there to replace, and tells which. -/
theorem Sound.put_snd_of_elsewhere (hr : r.Sound) {b : Breakpoint} {former : Location}
    (h : r.ownedElsewhere? b.marker b.location = some former) :
    ∃ previous, r.find? former = some previous ∧ (r.put b).2 = .moved previous := by
  obtain ⟨⟨m, -, hown⟩, -⟩ := ownedElsewhere?_eq_some_iff.1 h
  obtain ⟨previous, hprevious⟩ := Option.isSome_iff_exists.1 (hr.owned hown)
  refine ⟨previous, hprevious, ?_⟩
  rw [put_of_elsewhere h, hprevious]

/-! ## Enabled entries -/

theorem mem_enabledOf_iff {f : SourceFile} {b : Breakpoint} :
    b ∈ r.enabledOf f ↔ (∃ l, r.find? l = some b) ∧ b.enabled = true ∧ b.file = f := by
  rw [enabledOf, List.mem_filter, OrderedMap.mem_values_iff, Bool.and_eq_true, decide_eq_true_iff]
  rfl

theorem mem_enabled_iff {b : Breakpoint} :
    b ∈ r.enabled ↔ (∃ l, r.find? l = some b) ∧ b.enabled = true := by
  rw [enabled, List.mem_filter, OrderedMap.mem_values_iff]
  rfl

theorem Sound.mem_knownLines_iff (hr : r.Sound) {f : SourceFile} {line : UInt32} :
    line ∈ knownLines (r.enabledOf f) ↔
      ∃ b, r.find? ⟨f, some line⟩ = some b ∧ b.enabled = true := by
  simp only [knownLines, List.mem_filterMap, mem_enabledOf_iff]
  constructor
  · rintro ⟨b, ⟨⟨l, hl⟩, hb, rfl⟩, hline⟩
    have hloc := hr.located hl
    rw [Breakpoint.location, hline] at hloc
    exact ⟨b, by rw [hloc]; exact hl, hb⟩
  · rintro ⟨b, hb, he⟩
    have hloc := hr.located hb
    rw [Breakpoint.location, Location.mk.injEq] at hloc
    exact ⟨b, ⟨⟨_, hb⟩, he, hloc.1⟩, hloc.2⟩

theorem Sound.pairwise_values (hr : r.Sound) :
    r.entries.values.Pairwise fun a b => compare a.location b.location = .lt := by
  rw [OrderedMap.values, List.pairwise_map]
  refine r.entries.sorted.imp_of_mem fun {e e'} he he' hlt => ?_
  rw [hr.located (OrderedMap.find?_eq_some_iff.2 he),
    hr.located (OrderedMap.find?_eq_some_iff.2 he')]
  exact hlt

/-- Locations in one file are ordered by their lines. -/
theorem compare_location_of_file (f : SourceFile) (a b : Option UInt32) :
    compare (⟨f, a⟩ : Location) ⟨f, b⟩ = compare a b := by
  change compareLex (compareOn Location.file) (compareOn Location.line) _ _ = _
  simp [compareLex, compareOn]

theorem Sound.pairwise_knownLines (hr : r.Sound) (f : SourceFile) :
    (knownLines (r.enabledOf f)).Pairwise (· < ·) := by
  rw [knownLines, List.pairwise_filterMap]
  -- entries of one file stand in the order of their lines
  refine (hr.pairwise_values.filter _).imp_of_mem fun {a b} ha hb hlt => ?_
  intro x hx y hy
  have hfa : a.file = f := (mem_enabledOf_iff.1 ha).2.2
  have hfb : b.file = f := (mem_enabledOf_iff.1 hb).2.2
  rw [Breakpoint.location, Breakpoint.location, hfa, hfb, hx, hy,
    compare_location_of_file] at hlt
  exact Std.compare_eq_lt.1 hlt

end Registry

end DebugRelay
