import DebugRelay.Proofs.Registry.Histories
import DebugRelay.Proofs.Relay.Additions

/-!
# Removing a breakpoint by its marker

The IDE tells of a breakpoint that is gone. Its marker says which entry to take out, wherever the
breakpoint claims to be and whatever else cannot be told of it, but only after the breakpoint has
been resolved: `StoredBreakpoint.pathError?` is the one obstacle to that
(`Breakpoint.resolve_eq_error_iff`). `removed_unless_unlocated` says what becomes of the entry in
either case.
-/

namespace DebugRelay

/-- Why a stored breakpoint is in no file: its path cannot be told, or does not start at the
root. -/
def StoredBreakpoint.pathError? (stored : StoredBreakpoint) : Option Error :=
  match stored.path with
  | .error e => some (.unresolved ("no source location: " ++ e.message))
  | .ok path => if Path.isAbsolute path then none else some (.relativePath path)

/-- Exactly the absolute paths lead to a file. -/
theorem SourceFile.locate?_eq_none_iff {files : FileTree} {path : String} :
    locate? files path = none ↔ Path.isAbsolute path = false := by
  unfold locate?
  cases Path.isAbsolute path with
  | false => simp
  | true => cases files.follow [] (Path.steps path) <;> simp

namespace Breakpoint

variable {files : FileTree} {stored : StoredBreakpoint}

/-- A stored breakpoint fails to resolve for its path alone. -/
theorem resolve_eq_error_iff {e : Error} :
    resolve files stored = .error e ↔ stored.pathError? = some e := by
  unfold resolve StoredBreakpoint.pathError?
  cases stored.path with
  | error cause => simp
  | ok path =>
    have hnone : SourceFile.locate? files path = none ↔ Path.isAbsolute path = false :=
      SourceFile.locate?_eq_none_iff
    cases hfile : SourceFile.locate? files path with
    | none => simp [hfile, hnone.1 hfile]
    | some f =>
      have habsolute : Path.isAbsolute path = true := by simpa [hfile] using hnone
      simp [hfile, habsolute]

/-- What a stored breakpoint resolves to carries its marker. -/
theorem marker_of_resolve {b : Breakpoint} (h : resolve files stored = .ok b) :
    b.marker = stored.marker := by
  unfold resolve at h
  split at h
  · cases h
  · split at h
    · cases h
    · cases h
      rfl

end Breakpoint

namespace Relay

variable {r : Relay} {stored : StoredBreakpoint} {m : UInt64} {p : Location}

/-- A relay that accepts a kind of breakpoint resolves those of the kind that are in a file. -/
theorem exists_resolves (hmodel : r.supports stored.model = true)
    (hpath : stored.pathError? = none) : ∃ b, r.Resolves stored b := by
  cases hb : Breakpoint.resolve r.files stored with
  | ok b => exact ⟨b, hmodel, hb⟩
  | error e =>
    rw [Breakpoint.resolve_eq_error_iff, hpath] at hb
    cases hb

/-- A callback about a breakpoint in no file fails and changes nothing. -/
theorem withResolved_of_pathError {e : Error} (hmodel : r.supports stored.model = true)
    (he : stored.pathError? = some e) (act : Breakpoint → Relay) :
    r.withResolved stored act = (r, .error e) := by
  rw [withResolved, if_pos hmodel, Breakpoint.resolve_eq_error_iff.2 he]

/-- Taking out an entry that is there leaves no trace in the log. -/
theorem remove_of_find? {x : Breakpoint} (hx : r.registry.find? p = some x) :
    r.remove p = ({ r with registry := r.registry.clear p }, some x) := by
  simp only [remove, Registry.remove, hx]

/-- A marker that owns an entry leads a removal to it, wherever the breakpoint is now. -/
theorem breakpointRemoved_of_owned {b x : Breakpoint} (hb : r.Resolves stored b)
    (hm : stored.marker = some m) (hown : r.registry.owners.find? m = some p)
    (hx : r.registry.find? p = some x) :
    r.breakpointRemoved stored =
      (({ r with registry := r.registry.clear p } : Relay).send (.breakpointRemoved x),
        .ok ()) := by
  have htarget : r.registry.removalTarget b = p := by
    rw [Registry.removalTarget, Breakpoint.marker_of_resolve hb.2, hm, Option.bind_some, hown,
      Option.getD_some]
  rw [breakpointRemoved, withResolved_of_resolves hb, removeOwned, htarget, remove_of_find? hx]
  rfl

/-- A breakpoint of the IDE is gone whose marker owns an entry. Unless its path keeps it from any
file, that entry is taken out, whatever the lookups of its path, its line, its condition and its
state answer: the other entries stay as they are, and one event tells of the entry, in its file. A
breakpoint whose path cannot be told or does not start at the root is refused instead, and its entry
stays. -/
theorem removed_unless_unlocated {ops : List Registry.Op}
    (hr : r.registry = Registry.empty.after ops) (hmodel : r.supports stored.model = true)
    (hm : stored.marker = some m) (hown : r.registry.owners.find? m = some p) :
    ∃ x, r.registry.find? p = some x ∧ x.file = p.file ∧
      (stored.pathError? = none →
        (r.breakpointRemoved stored).2 = .ok () ∧
        (r.breakpointRemoved stored).1 = { r with
          registry := r.registry.clear p
          queue := (r.queue.enqueue (.breakpointRemoved x)).1 } ∧
        (r.registry.clear p).find? p = none ∧
        ∀ l, l ≠ p → (r.registry.clear p).find? l = r.registry.find? l) ∧
      ∀ e, stored.pathError? = some e → r.breakpointRemoved stored = (r, .error e) := by
  have hsound : r.registry.Sound := by
    rw [hr]
    exact (Registry.coherent_after ops).toSound
  obtain ⟨x, hx⟩ := Option.isSome_iff_exists.1 (hsound.owned hown)
  refine ⟨x, hx, congrArg Location.file (hsound.located hx), ?located, ?unlocated⟩
  case located =>
    intro hpath
    obtain ⟨b, hb⟩ := exists_resolves hmodel hpath
    have hremoved := breakpointRemoved_of_owned hb hm hown hx
    refine ⟨by rw [hremoved], by rw [hremoved]; rfl, ?_, ?_⟩
    · rw [Registry.find?_clear, if_pos rfl]
    · intro l hl
      rw [Registry.find?_clear, if_neg hl]
  case unlocated =>
    intro e he
    exact withResolved_of_pathError hmodel he _

/-! ## A marker whose resource is elsewhere or gone -/

/-- The session in which marker 7 owns an entry at line 10 of `/a.py`. -/
def sampleOwned : Relay :=
  { started sampleParts with
    registry := Registry.empty.after [.put ⟨sampleFile, some 10, none, 0, false, true, some 7⟩] }

/-- The breakpoint of marker 7 that is said to be in another file, with nothing else known. -/
def sampleMislaid : StoredBreakpoint :=
  ⟨"", .ok "/b.py", .error (.unresolved "no line"), .error (.unresolved "no condition"),
    .error (.unresolved "no state"), some 7⟩

/-- The breakpoint of marker 7 whose resource is deleted. -/
def sampleDeleted : StoredBreakpoint :=
  { sampleMislaid with path := .error (.unresolved "resource deleted") }

/-- Told of the wrong file, the relay still takes out the entry of the marker. -/
theorem removed_sampleMislaid :
    (sampleOwned.breakpointRemoved sampleMislaid).2 = .ok () ∧
    (sampleOwned.breakpointRemoved sampleMislaid).1.registry.find? ⟨sampleFile, some 10⟩ =
      none := by
  have hmodel : sampleOwned.supports sampleMislaid.model = true := by decide
  have hown : sampleOwned.registry.owners.find? 7 = some ⟨sampleFile, some 10⟩ := by decide
  obtain ⟨x, -, -, hlocated, -⟩ := removed_unless_unlocated rfl hmodel rfl hown
  obtain ⟨hok, hstate, hgone, -⟩ := hlocated (by decide)
  refine ⟨hok, ?_⟩
  rw [hstate]
  exact hgone

/-- Once the resource of the marker is deleted, its entry cannot be removed any more. -/
theorem kept_sampleDeleted :
    sampleOwned.supports sampleDeleted.model = true ∧ sampleDeleted.marker = some 7 ∧
    sampleOwned.registry.owners.find? 7 = some ⟨sampleFile, some 10⟩ ∧
    (sampleOwned.breakpointRemoved sampleDeleted).1.registry.find? ⟨sampleFile, some 10⟩ =
      some ⟨sampleFile, some 10, none, 0, false, true, some 7⟩ ∧
    (sampleOwned.breakpointRemoved sampleDeleted).1.queue.waiting = [] := by
  refine ⟨by decide, rfl, by decide, by decide, by decide⟩

end Relay

end DebugRelay
