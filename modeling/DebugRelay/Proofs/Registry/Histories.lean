import DebugRelay.Proofs.Registry.Soundness

/-!
# Histories of the registry

`Registry.Op` are the operations of the registry, and `Registry.after` is the registry after a list
of them. `Registry.Coherent` is what every history that begins with the empty registry keeps
(`coherent_after`): the registry is sound, and the marker that an entry carries owns the entry's
location. So no two entries carry the same marker (`Coherent.location_unique`).
-/

namespace DebugRelay.Registry

/-- An operation of the registry. -/
inductive Op where
  | put (b : Breakpoint)
  | remove (l : Location)
  | removeOwned (b : Breakpoint)
  | unload (f : SourceFile)

/-- The registry after an operation. -/
def perform (r : Registry) : Op → Registry
  | .put b => (r.put b).1
  | .remove l => (r.remove l).1
  | .removeOwned b => (r.removeOwned b).1
  | .unload f => (r.unload f).1

/-- The registry after a list of operations, the first of them performed first. -/
def after (r : Registry) (ops : List Op) : Registry := ops.foldl perform r

@[simp]
theorem after_nil (r : Registry) : r.after [] = r := rfl

@[simp]
theorem after_cons (r : Registry) (o : Op) (ops : List Op) :
    r.after (o :: ops) = (r.perform o).after ops := rfl

theorem after_append (r : Registry) (ops more : List Op) :
    r.after (ops ++ more) = (r.after ops).after more :=
  List.foldl_append

/-- A sound registry in which the marker that an entry carries owns the entry's location. -/
structure Coherent (r : Registry) : Prop extends Sound r where
  carried : ∀ {l b m}, r.find? l = some b → b.marker = some m → r.owners.find? m = some l

theorem coherent_empty : Coherent empty where
  toSound := sound_empty
  carried h := by simp [find?, empty] at h

variable {r : Registry}

theorem Coherent.clear (hr : r.Coherent) (l : Location) : (r.clear l).Coherent where
  toSound := hr.toSound.clear l
  carried := by
    intro k b m hk hm
    rw [find?_clear] at hk
    split at hk
    · simp at hk
    · next hne =>
      rw [owners_clear, hr.carried hk hm, Option.filter_eq_some_iff, decide_eq_true_iff]
      exact ⟨rfl, hne⟩

/-- The entry that a put leaves carries the breakpoint's marker, unless it was there before and the
breakpoint came from nowhere else. -/
theorem marker_entryAfter (r : Registry) (b : Breakpoint) :
    (r.entryAfter b).marker = b.marker ∨
      r.ownedElsewhere? b.marker b.location = none ∧
        ∃ existing, r.find? b.location = some existing ∧
          (r.entryAfter b).marker = existing.marker := by
  unfold entryAfter
  split
  · next existing hnone hexisting => exact Or.inr ⟨hnone, existing, hexisting, rfl⟩
  · exact Or.inl rfl

theorem Coherent.put (hr : r.Coherent) (b : Breakpoint) : (r.put b).1.Coherent where
  toSound := hr.toSound.put b
  carried := by
    intro k x m hx hm
    rw [find?_put] at hx
    rw [owners_put]
    by_cases hk : k = b.location
    -- the entry at the place of the breakpoint
    · rw [if_pos hk, Option.some.injEq] at hx
      rw [← hx] at hm
      by_cases hb : b.marker = some m
      · rw [if_pos hb, hk]
      · rw [if_neg hb]
        rcases r.marker_entryAfter b with hmarker | ⟨hnone, existing, hexisting, hmarker⟩
        · exact absurd (hmarker.symm.trans hm) hb
        -- the entry was there before and keeps its owner
        · rw [hr.carried hexisting (hmarker.symm.trans hm), hnone, hk]
          rfl
    -- an entry elsewhere was there before, and is not the one that was replaced
    · rw [if_neg hk] at hx
      split at hx
      · simp at hx
      · next hkept =>
        have hown : r.owners.find? m = some k := hr.carried hx hm
        have hb : b.marker ≠ some m := by
          intro hb
          apply hkept
          rw [ownedElsewhere?_eq_some_iff]
          exact ⟨⟨m, hb, hown⟩, hk⟩
        rw [if_neg hb, hown, Option.filter_eq_some_iff, decide_eq_true_iff]
        exact ⟨rfl, hkept⟩

theorem Coherent.unload (hr : r.Coherent) (f : SourceFile) : (r.unload f).1.Coherent := by
  have hclear : ∀ (ls : List Location) (r : Registry), r.Coherent →
      (ls.foldl Registry.clear r).Coherent := by
    intro ls
    induction ls with
    | nil => intro r hr; exact hr
    | cons l rest ih => intro r hr; exact ih _ (hr.clear l)
  exact hclear _ r hr

theorem Coherent.perform (hr : r.Coherent) (o : Op) : (r.perform o).Coherent := by
  cases o with
  | put b => exact hr.put b
  | remove l => exact hr.clear l
  | removeOwned b => exact hr.clear (r.removalTarget b)
  | unload f => exact hr.unload f

theorem Coherent.after (hr : r.Coherent) (ops : List Op) : (r.after ops).Coherent := by
  induction ops generalizing r with
  | nil => exact hr
  | cons o rest ih => exact ih (hr.perform o)

theorem coherent_after (ops : List Op) : (empty.after ops).Coherent :=
  coherent_empty.after ops

/-- No marker is carried by the entries at two locations. -/
theorem Coherent.location_unique (hr : r.Coherent) {l l' : Location} {b b' : Breakpoint}
    {m : UInt64} (hb : r.find? l = some b) (hb' : r.find? l' = some b') (hm : b.marker = some m)
    (hm' : b'.marker = some m) : l = l' := by
  have hl := hr.carried hb hm
  have hl' := hr.carried hb' hm'
  rw [hl] at hl'
  exact Option.some.inj hl'

end DebugRelay.Registry
