import DebugRelay.Proofs.Registry.Histories
import Mathlib.Data.List.Dedup

/-!
# Walking the registry

A walk through the entries of a file meets each of them once, the one without a line first and then
in the order of lines (`Sound.mem_ofFile_iff`, `Sound.pairwise_ofFile`). A walk through all enabled
entries visits the files in the order of their paths (`Sound.enabled_eq_flatMap`).
`coherent_after_and_walks` puts these together with what every history of the registry keeps.
-/

namespace DebugRelay

/-- A breakpoint's location comes before that of another. -/
def Breakpoint.Before (a b : Breakpoint) : Prop := compare a.location b.location = .lt

theorem Breakpoint.Before.asymm {a b : Breakpoint} (h : a.Before b) : ¬ b.Before a := by
  intro h'
  have hgt : compare a.location b.location = .gt := Std.OrientedCmp.gt_of_lt h'
  rw [h] at hgt
  simp at hgt

instance : Std.Irrefl Breakpoint.Before where
  irrefl _ h := h.asymm h

instance : Std.Antisymm Breakpoint.Before where
  antisymm _ _ h h' := absurd h' h.asymm

/-- Lines are compared as the order of optional numbers has it, where none is the least. -/
theorem compare_line_eq_lt_iff {a b : Option UInt32} : compare a b = .lt ↔ a < b := by
  cases a with
  | none => cases b <;> simp [compare]
  | some x =>
    cases b with
    | none => simp [compare]
    | some y =>
      change compare x y = .lt ↔ x < y
      exact Std.compare_eq_lt

/-- A location in an earlier file comes first, whatever the lines are. -/
theorem compare_location_of_file_lt {l l' : Location} (h : compare l.file l'.file = .lt) :
    compare l l' = .lt := by
  change compareLex (compareOn Location.file) (compareOn Location.line) l l' = .lt
  simp [compareLex, compareOn, h]

/-- A location does not come before another one in an earlier file. -/
theorem compare_file_of_location_lt {l l' : Location} (h : compare l l' = .lt) :
    l.file = l'.file ∨ compare l.file l'.file = .lt := by
  cases hf : compare l.file l'.file with
  | lt => exact Or.inr rfl
  | eq => exact Or.inl (Std.LawfulEqCmp.eq_of_compare hf)
  | gt =>
    have hlt : compare l' l = .lt :=
      compare_location_of_file_lt (Std.OrientedCmp.lt_of_gt hf)
    rw [Std.OrientedCmp.gt_of_lt hlt] at h
    simp at h

namespace Registry

/-- The files that have entries, in the order of their paths. -/
def files (r : Registry) : List SourceFile := (r.entries.keys.map Location.file).dedup

variable {r : Registry}

theorem mem_files_iff {f : SourceFile} :
    f ∈ r.files ↔ ∃ line, (r.find? ⟨f, line⟩).isSome := by
  rw [files, List.mem_dedup, List.mem_map]
  constructor
  · rintro ⟨⟨g, line⟩, hl, rfl⟩
    exact ⟨line, OrderedMap.mem_keys_iff.1 hl⟩
  · rintro ⟨line, hline⟩
    exact ⟨⟨f, line⟩, OrderedMap.mem_keys_iff.2 hline, rfl⟩

theorem pairwise_files (r : Registry) : r.files.Pairwise fun f g => compare f g = .lt := by
  -- the keys are in order, so their files are weakly in order, and none is listed twice
  have hweak : (r.entries.keys.map Location.file).Pairwise
      fun f g => f = g ∨ compare f g = .lt := by
    rw [List.pairwise_map]
    exact r.entries.pairwise_keys.imp compare_file_of_location_lt
  have hnodup : r.files.Nodup := List.nodup_dedup _
  have hfiles := hweak.sublist (List.dedup_sublist _)
  refine (hfiles.and hnodup).imp fun {f g} h => ?_
  exact h.1.resolve_left h.2

theorem Sound.mem_ofFile_iff (hr : r.Sound) {f : SourceFile} {b : Breakpoint} :
    b ∈ r.ofFile f ↔ ∃ line, r.find? ⟨f, line⟩ = some b := by
  rw [ofFile, List.mem_filter, OrderedMap.mem_values_iff, decide_eq_true_iff]
  constructor
  · rintro ⟨⟨l, hl⟩, rfl⟩
    have hloc : ⟨b.file, b.line⟩ = l := hr.located hl
    exact ⟨b.line, by rw [hloc]; exact hl⟩
  · rintro ⟨line, hline⟩
    exact ⟨⟨_, hline⟩, congrArg Location.file (hr.located hline)⟩

theorem Sound.pairwise_ofFile (hr : r.Sound) (f : SourceFile) :
    (r.ofFile f).Pairwise fun a b => a.line < b.line := by
  refine (hr.pairwise_values.filter _).imp_of_mem fun {a b} ha hb hlt => ?_
  have hfa : a.file = f := by simpa using (List.mem_filter.1 ha).2
  have hfb : b.file = f := by simpa using (List.mem_filter.1 hb).2
  rw [Breakpoint.location, Breakpoint.location, hfa, hfb, compare_location_of_file] at hlt
  exact compare_line_eq_lt_iff.1 hlt

theorem Sound.nodup_ofFile (hr : r.Sound) (f : SourceFile) : (r.ofFile f).Nodup := by
  refine (hr.pairwise_ofFile f).imp fun {a b} hlt heq => ?_
  have hcmp : compare a.line b.line = .lt := compare_line_eq_lt_iff.2 hlt
  rw [heq, Std.compare_self] at hcmp
  simp at hcmp

theorem enabledOf_eq_filter (r : Registry) (f : SourceFile) :
    r.enabledOf f = (r.ofFile f).filter (·.enabled) := by
  rw [enabledOf, ofFile, List.filter_filter]

/-- All enabled entries are those of one file after the other. -/
theorem Sound.enabled_eq_flatMap (hr : r.Sound) : r.enabled = r.files.flatMap r.enabledOf := by
  -- both lists are in the order of locations, so it is enough that they have the same members
  apply List.Pairwise.eq_of_mem_iff (r := Breakpoint.Before)
  · exact hr.pairwise_values.filter _
  · rw [List.pairwise_flatMap]
    constructor
    · intro f _
      exact hr.pairwise_values.filter _
    · refine (pairwise_files r).imp fun {f g} hlt a ha b hb => ?_
      apply compare_location_of_file_lt
      rw [Breakpoint.location, Breakpoint.location, (mem_enabledOf_iff.1 ha).2.2,
        (mem_enabledOf_iff.1 hb).2.2]
      exact hlt
  · intro b
    rw [mem_enabled_iff, List.mem_flatMap]
    constructor
    · rintro ⟨⟨l, hl⟩, he⟩
      have hloc : ⟨b.file, b.line⟩ = l := hr.located hl
      have hsome : (r.find? ⟨b.file, b.line⟩).isSome := by rw [hloc, hl]; rfl
      exact ⟨b.file, mem_files_iff.2 ⟨b.line, hsome⟩, mem_enabledOf_iff.2 ⟨⟨l, hl⟩, he, rfl⟩⟩
    · rintro ⟨f, -, hb⟩
      exact ⟨(mem_enabledOf_iff.1 hb).1, (mem_enabledOf_iff.1 hb).2.1⟩

/-- What holds of the registry after every history. Entries stand at their own location; a marker
owns only locations with an entry, so that a put whose marker owns another location moves the entry
there; and the marker of an entry owns its location, so that no two entries carry one marker. A walk
through a file meets its entries once each in the order of lines, the unknown line first, a walk
through the enabled ones of them keeps the order, and a walk through all enabled entries takes one
file after the other in the order of paths. -/
theorem coherent_after_and_walks (ops : List Op) :
    let r := empty.after ops
    (∀ l b, r.find? l = some b → b.location = l) ∧
    (∀ m l, r.owners.find? m = some l → (r.find? l).isSome) ∧
    (∀ b m former, b.marker = some m → r.owners.find? m = some former → former ≠ b.location →
      ∃ previous, r.find? former = some previous ∧ (r.put b).2 = .moved previous) ∧
    (∀ l b m, r.find? l = some b → b.marker = some m → r.owners.find? m = some l) ∧
    (∀ l l' b b' m, r.find? l = some b → r.find? l' = some b' →
      b.marker = some m → b'.marker = some m → l = l') ∧
    (∀ f, (∀ b, b ∈ r.ofFile f ↔ ∃ line, r.find? ⟨f, line⟩ = some b) ∧
      (r.ofFile f).Nodup ∧
      (r.ofFile f).Pairwise (fun a b => a.line < b.line) ∧
      r.enabledOf f = (r.ofFile f).filter (·.enabled)) ∧
    r.enabled = r.files.flatMap r.enabledOf ∧
    r.files.Pairwise (fun f g => compare f g = .lt) ∧
    ∀ f, f ∈ r.files ↔ ∃ line, (r.find? ⟨f, line⟩).isSome := by
  intro r
  have hr : r.Coherent := coherent_after ops
  refine ⟨fun _ _ => hr.located, fun _ _ => hr.owned, ?_, fun _ _ _ => hr.carried,
    fun _ _ _ _ _ => hr.location_unique, ?_, hr.enabled_eq_flatMap, pairwise_files r,
    fun _ => mem_files_iff⟩
  · intro b m former hm hown hne
    apply hr.put_snd_of_elsewhere
    rw [ownedElsewhere?_eq_some_iff]
    exact ⟨⟨m, hm, hown⟩, hne⟩
  · intro f
    exact ⟨fun _ => hr.mem_ofFile_iff, hr.nodup_ofFile f, hr.pairwise_ofFile f,
      enabledOf_eq_filter r f⟩

end Registry

end DebugRelay
