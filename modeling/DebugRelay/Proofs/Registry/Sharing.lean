import DebugRelay.Proofs.Registry.Histories
import DebugRelay.Proofs.Splits

/-!
# Markers that share a location

Several markers can own one location, since a put onto an occupied location updates the entry there
and makes its marker an owner, too. An entry goes with the first owner that leaves: when a marker
is removed or put elsewhere, the location is cleared, and no other marker owns it any more.

`lost_iff_sharer_left` says that this is the only way in which a marker loses a breakpoint that
nobody took from it: after a history that spares the marker and its location, the entry is missing
exactly if another owner left and nothing was put there since. `lost_to_sharer` is such a history.
-/

namespace DebugRelay.Registry

/-! ## Operations at a location -/

/-- The operation puts a breakpoint at a location. -/
def Op.PutsAt (l : Location) : Op → Prop
  | .put b => b.location = l
  | .remove _ | .removeOwned _ | .unload _ => False

/-- The operation takes a marker away from a location: it removes the marker, or puts it
elsewhere. -/
def Op.TakesAway (m : UInt64) (l : Location) : Op → Prop
  | .put b => b.marker = some m ∧ b.location ≠ l
  | .removeOwned b => b.marker = some m
  | .remove _ | .unload _ => False

/-- The operation neither puts nor removes a marker, and takes out what is at a location neither by
its location nor with its file. -/
def Spares (r : Registry) (m : UInt64) (l : Location) : Op → Prop
  | .put b => b.marker ≠ some m
  | .remove k => k ≠ l
  | .removeOwned b => b.marker ≠ some m ∧ (b.marker.bind r.owners.find? = none → b.location ≠ l)
  | .unload f => l.file ≠ f

instance (r : Registry) (m : UInt64) (l : Location) : (o : Op) → Decidable (r.Spares m l o)
  | .put b => inferInstanceAs (Decidable (b.marker ≠ some m))
  | .remove k => inferInstanceAs (Decidable (k ≠ l))
  | .removeOwned b => inferInstanceAs (Decidable
      (b.marker ≠ some m ∧ (b.marker.bind r.owners.find? = none → b.location ≠ l)))
  | .unload f => inferInstanceAs (Decidable (l.file ≠ f))

/-- The operation takes another marker away from a location that this marker owns. -/
def SharerLeaves (r : Registry) (m : UInt64) (l : Location) (o : Op) : Prop :=
  ∃ other, other ≠ m ∧ r.owners.find? other = some l ∧ o.TakesAway other l

variable {r : Registry} {m : UInt64} {l : Location}

/-- What an operation that spares a marker and its location comes to there. -/
inductive Fate (r s : Registry) (m : UInt64) (l : Location) (o : Op) : Prop
  /-- The entry goes, and the marker does not own its place any more. -/
  | lost (h : r.SharerLeaves m l o) (hfind : s.find? l = none) (hown : s.owners.find? m ≠ some l)
  /-- Something is put there. -/
  | occupied (h : ¬ r.SharerLeaves m l o) (hputs : o.PutsAt l) (hfind : (s.find? l).isSome)
      (hown : s.owners.find? m = some l ↔ r.owners.find? m = some l)
  /-- The entry is as it was. -/
  | kept (h : ¬ r.SharerLeaves m l o) (hputs : ¬ o.PutsAt l) (hfind : s.find? l = r.find? l)
      (hown : s.owners.find? m = some l ↔ r.owners.find? m = some l)

theorem fate_put {b : Breakpoint} (hb : b.marker ≠ some m) :
    Fate r (r.put b).1 m l (.put b) := by
  by_cases hformer : r.ownedElsewhere? b.marker b.location = some l
  -- the marker of the breakpoint is another one, and leaves
  · obtain ⟨⟨other, hother, hown⟩, hne⟩ := ownedElsewhere?_eq_some_iff.1 hformer
    have hnot : other ≠ m := by
      intro heq
      exact hb (heq ▸ hother)
    apply Fate.lost
    · exact ⟨other, hnot, hown, hother, hne.symm⟩
    · rw [find?_put, if_neg hne, if_pos hformer]
    · intro hm
      rw [owners_put, if_neg hb, Option.filter_eq_some_iff, decide_eq_true_iff] at hm
      exact hm.2 hformer
  · have hstays : ¬ r.SharerLeaves m l (.put b) := by
      rintro ⟨other, -, hown, hother, hne⟩
      exact hformer (ownedElsewhere?_eq_some_iff.2 ⟨⟨other, hother, hown⟩, hne.symm⟩)
    have hown : (r.put b).1.owners.find? m = some l ↔ r.owners.find? m = some l := by
      rw [owners_put, if_neg hb, Option.filter_eq_some_iff, decide_eq_true_iff]
      exact and_iff_left hformer
    by_cases hl : b.location = l
    · have hfind : ((r.put b).1.find? l).isSome := by
        rw [find?_put, if_pos hl.symm]
        rfl
      exact .occupied hstays hl hfind hown
    · have hfind : (r.put b).1.find? l = r.find? l := by
        rw [find?_put, if_neg (Ne.symm hl), if_neg hformer]
      exact .kept hstays hl hfind hown

/-- Clearing another location keeps the entry. -/
theorem fate_clear {k : Location} {o : Op} (hk : k ≠ l) (h : ¬ r.SharerLeaves m l o)
    (hputs : ¬ o.PutsAt l) : Fate r (r.clear k) m l o := by
  apply Fate.kept h hputs
  · rw [find?_clear, if_neg hk.symm]
  · rw [owners_clear, Option.filter_eq_some_iff, decide_eq_true_iff]
    exact and_iff_left hk.symm

theorem fate_removeOwned {b : Breakpoint} (h : r.Spares m l (.removeOwned b)) :
    Fate r (r.removeOwned b).1 m l (.removeOwned b) := by
  obtain ⟨hb, hplace⟩ := h
  change Fate r (r.clear (r.removalTarget b)) m l (.removeOwned b)
  cases hbind : b.marker.bind r.owners.find? with
  -- without an owned location, the removal is about another place
  | none =>
    have htarget : r.removalTarget b = b.location := by rw [removalTarget, hbind]; rfl
    apply fate_clear
    · rw [htarget]
      exact hplace hbind
    · rintro ⟨other, -, hown, hother⟩
      rw [show b.marker = some other from hother, Option.bind_some, hown] at hbind
      simp at hbind
    · exact id
  | some k =>
    have htarget : r.removalTarget b = k := by rw [removalTarget, hbind]; rfl
    obtain ⟨other, hother, hown⟩ := Option.bind_eq_some_iff.1 hbind
    rw [htarget]
    by_cases hk : k = l
    -- the marker that is removed is another one, and owned the place
    · subst hk
      apply Fate.lost
      · refine ⟨other, ?_, hown, hother⟩
        intro heq
        exact hb (heq ▸ hother)
      · rw [find?_clear, if_pos rfl]
      · rw [owners_clear]
        intro hm
        simp [Option.filter_eq_some_iff] at hm
    · apply fate_clear hk
      · rintro ⟨another, -, hown', hanother⟩
        have heq : other = another := Option.some.inj (hother.symm.trans hanother)
        rw [← heq, hown, Option.some.injEq] at hown'
        exact hk hown'
      · exact id

theorem fate_unload {f : SourceFile} (hl : l.file ≠ f) :
    Fate r (r.unload f).1 m l (.unload f) := by
  apply Fate.kept
  · rintro ⟨other, -, -, hother⟩
    exact hother
  · exact id
  · rw [find?_unload, if_neg hl]
  · exact owners_unload_eq_some_iff r m hl

theorem fate_perform {o : Op} (h : r.Spares m l o) : Fate r (r.perform o) m l o := by
  cases o with
  | put b => exact fate_put h
  | remove k =>
    apply fate_clear h
    · rintro ⟨other, -, -, hother⟩
      exact hother
    · exact id
  | removeOwned b => exact fate_removeOwned h
  | unload f => exact fate_unload h

/-! ## Histories that spare a marker -/

/-- Every operation of a history spares a marker and a location. -/
def Spared (m : UInt64) (l : Location) : Registry → List Op → Prop
  | _, [] => True
  | r, o :: rest => r.Spares m l o ∧ Spared m l (r.perform o) rest

instance decidableSpared (m : UInt64) (l : Location) :
    (r : Registry) → (ops : List Op) → Decidable (Spared m l r ops)
  | _, [] => inferInstanceAs (Decidable True)
  | r, o :: rest =>
    have := decidableSpared m l (r.perform o) rest
    inferInstanceAs (Decidable (r.Spares m l o ∧ Spared m l (r.perform o) rest))

/-- An entry is missing after a history if another owner left and nothing was put there since, or
if it was missing before and nothing was put there at all. -/
theorem find?_after_eq_none_iff {ops : List Op} (h : Spared m l r ops) :
    (r.after ops).find? l = none ↔
      (∃ before o since, ops = before ++ o :: since ∧ (r.after before).SharerLeaves m l o ∧
        ∀ p ∈ since, ¬ p.PutsAt l) ∨
      (r.find? l = none ∧ ∀ p ∈ ops, ¬ p.PutsAt l) := by
  induction ops generalizing r with
  | nil => simp
  | cons o rest ih =>
    obtain ⟨ho, hrest⟩ := h
    rw [after_cons, ih hrest, exists_cons_eq_append_iff, after_nil, List.forall_mem_cons]
    simp only [after_cons]
    -- only the first operation is left to be looked at
    rw [or_comm (a := r.SharerLeaves m l o ∧ _), or_assoc]
    refine or_congr_right ?_
    cases fate_perform ho with
    | lost hleaves hfind hown => simp [hleaves, hfind]
    | occupied hstays hputs hfind hown =>
      rw [Option.isSome_iff_ne_none] at hfind
      simp [hstays, hputs, hfind]
    | kept hstays hputs hfind hown => simp [hstays, hputs, hfind]

/-- A marker owns its location after a history exactly if it did before, and no other owner left. -/
theorem owners_after_eq_some_iff {ops : List Op} (h : Spared m l r ops) :
    (r.after ops).owners.find? m = some l ↔
      r.owners.find? m = some l ∧
        ¬ ∃ before o since, ops = before ++ o :: since ∧ (r.after before).SharerLeaves m l o := by
  induction ops generalizing r with
  | nil => simp
  | cons o rest ih =>
    obtain ⟨ho, hrest⟩ := h
    rw [after_cons, ih hrest, exists_cons_eq_append_iff, after_nil, not_or, ← and_assoc]
    simp only [after_cons]
    refine and_congr_left fun _ => ?_
    cases fate_perform ho with
    | lost hleaves hfind hown => simp [hleaves, hown]
    | occupied hstays hputs hfind hown => simp [hstays, hown]
    | kept hstays hputs hfind hown => simp [hstays, hown]

/-- After a marker was put at a location, and a history spared both, the entry is missing exactly if
another owner of the location left it and nothing was put there since; and the marker owns the
location still exactly if no other owner left it. -/
theorem lost_iff_sharer_left {before since : List Op} {b : Breakpoint} (hb : b.marker = some m)
    (h : Spared m b.location (empty.after (before ++ [.put b])) since) :
    ((empty.after (before ++ .put b :: since)).find? b.location = none ↔
      ∃ earlier o later, since = earlier ++ o :: later ∧
        (empty.after (before ++ .put b :: earlier)).SharerLeaves m b.location o ∧
        ∀ p ∈ later, ¬ p.PutsAt b.location) ∧
    ((empty.after (before ++ .put b :: since)).owners.find? m = some b.location ↔
      ¬ ∃ earlier o later, since = earlier ++ o :: later ∧
        (empty.after (before ++ .put b :: earlier)).SharerLeaves m b.location o) := by
  have hsplit : ∀ ops, empty.after (before ++ .put b :: ops) =
      ((empty.after before).put b).1.after ops := by
    intro ops
    rw [after_append]
    rfl
  simp only [hsplit, after_nil] at h ⊢
  have hfind : ((empty.after before).put b).1.find? b.location ≠ none := by
    rw [find?_put, if_pos rfl]
    simp
  have hown : ((empty.after before).put b).1.owners.find? m = some b.location := by
    rw [owners_put, if_pos hb]
  constructor
  · rw [find?_after_eq_none_iff h]
    exact or_iff_left fun hmissing => hfind hmissing.1
  · rw [owners_after_eq_some_iff h]
    exact and_iff_right hown

/-! ## Two markers on one line -/

/-- An enabled breakpoint of a marker at a line of the file at the root. -/
def sampleOf (m : UInt64) (line : UInt32) : Breakpoint :=
  { Breakpoint.atLine ⟨[]⟩ line with marker := some m }

/-- Marker 2 is put onto the line of marker 1 and removed there: the entry of marker 1 is gone. -/
theorem lost_sampleRemoved :
    Spared 1 (sampleOf 1 10).location (empty.after ([] ++ [.put (sampleOf 1 10)]))
      [.put (sampleOf 2 10), .removeOwned (sampleOf 2 10)] ∧
    (empty.after ([] ++ .put (sampleOf 1 10) ::
      [.put (sampleOf 2 10), .removeOwned (sampleOf 2 10)])).find? (sampleOf 1 10).location =
        none := by
  have hspared : Spared 1 (sampleOf 1 10).location (empty.after ([] ++ [.put (sampleOf 1 10)]))
      [.put (sampleOf 2 10), .removeOwned (sampleOf 2 10)] := by decide
  have hown : (empty.after [.put (sampleOf 1 10), .put (sampleOf 2 10)]).owners.find? 2 =
      some (sampleOf 1 10).location := by decide
  refine ⟨hspared, (lost_iff_sharer_left rfl hspared).1.2 ?_⟩
  refine ⟨[.put (sampleOf 2 10)], .removeOwned (sampleOf 2 10), [], rfl, ?_, by simp⟩
  exact ⟨2, by decide, hown, rfl⟩

/-- Marker 2 is put onto the line of marker 1 and then moves on: the entry of marker 1 goes with it,
though nobody touched marker 1 or its line. -/
theorem lost_to_sharer :
    Spared 1 (sampleOf 1 10).location (empty.after [.put (sampleOf 1 10)])
      [.put (sampleOf 2 10), .put (sampleOf 2 12)] ∧
    (empty.after [.put (sampleOf 1 10), .put (sampleOf 2 10), .put (sampleOf 2 12)]).find?
      (sampleOf 1 10).location = none := by
  decide

end DebugRelay.Registry
