import DebugRelay.Proofs.Relay.Callbacks
import DebugRelay.Proofs.Relay.Removals

/-!
# Breakpoints that fail for their file only

A stored breakpoint resolves if its path leads to a file, whatever its other lookups answer
(`StoredBreakpoint.Describes`). So this is the one thing that a callback can fail for, and then it
has done nothing yet; and of a list of stored breakpoints those in no file are passed over, each
without a trace but for a warning (`putAll_eq`). `fails_for_file_only` says both.
-/

namespace DebugRelay

/-- What a stored breakpoint says, looked up in a file tree. Of a lookup that fails it says
nothing, and a breakpoint that cannot tell whether it is enabled is not. -/
structure StoredBreakpoint.Describes (files : FileTree) (stored : StoredBreakpoint)
    (b : Breakpoint) : Prop where
  file : ∃ path, stored.path = .ok path ∧ SourceFile.locate? files path = some b.file
  line : ∀ n, b.line = some n ↔ stored.line = .ok n ∧ n ≠ 0
  condition : ∀ c, b.condition = some c ↔ stored.condition = .ok (some c)
  enabled : b.enabled = true ↔ stored.enabled = .ok true
  hitCount : b.hitCount = 0
  temporary : b.temporary = false
  marker : b.marker = stored.marker

/-- What stored breakpoints resolve to, in order. Those in no file are left out. -/
def Breakpoint.resolved (files : FileTree) (stored : List StoredBreakpoint) : List Breakpoint :=
  stored.filterMap fun s => (resolve files s).toOption

namespace Breakpoint

variable {files : FileTree} {stored : StoredBreakpoint} {b : Breakpoint}

/-! ## What a stored breakpoint resolves to -/

theorem describes_of_resolve (h : resolve files stored = .ok b) : stored.Describes files b := by
  unfold resolve at h
  split at h
  · cases h
  · next path hpath =>
    split at h
    · cases h
    · next file hfile =>
      cases h
      refine ⟨⟨path, hpath, hfile⟩, fun n => ?line, fun c => ?condition, ?enabled, rfl, rfl, rfl⟩
      case line =>
        -- zero is how the IDE tells that there is no line
        cases stored.line with
        | error e => simp [valueOr]
        | ok n' =>
          by_cases hzero : n' = 0
          · simp only [valueOr, hzero, if_true, reduceCtorEq, Except.ok.injEq, false_iff]
            rintro ⟨rfl, hn⟩
            exact hn rfl
          · simp only [valueOr, hzero, if_false, Option.some.injEq, Except.ok.injEq]
            exact ⟨fun hn => ⟨hn, hn ▸ hzero⟩, fun hn => hn.1⟩
      case condition => cases stored.condition <;> simp [valueOr]
      case enabled => cases stored.enabled <;> simp [valueOr]

/-- A stored breakpoint describes at most one breakpoint. -/
theorem eq_of_describes {b' : Breakpoint} (h : stored.Describes files b)
    (h' : stored.Describes files b') : b = b' := by
  obtain ⟨path, hpath, hfile⟩ := h.file
  obtain ⟨path', hpath', hfile'⟩ := h'.file
  obtain rfl : path = path' := Except.ok.inj (hpath.symm.trans hpath')
  have hline : b.line = b'.line := Option.ext fun n => (h.line n).trans (h'.line n).symm
  have hcondition : b.condition = b'.condition :=
    Option.ext fun c => (h.condition c).trans (h'.condition c).symm
  have henabled : b.enabled = b'.enabled :=
    Bool.eq_iff_iff.2 (h.enabled.trans h'.enabled.symm)
  have hsame : b.file = b'.file := Option.some.inj (hfile.symm.trans hfile')
  obtain ⟨file, line, condition, hitCount, temporary, enabled, marker⟩ := b
  obtain ⟨file', line', condition', hitCount', temporary', enabled', marker'⟩ := b'
  cases hsame
  cases hline
  cases hcondition
  cases henabled
  cases h.hitCount.trans h'.hitCount.symm
  cases h.temporary.trans h'.temporary.symm
  cases h.marker.trans h'.marker.symm
  rfl

/-- A stored breakpoint resolves to what it describes. -/
theorem describes_iff : stored.Describes files b ↔ resolve files stored = .ok b := by
  constructor
  · intro h
    cases hresolve : resolve files stored with
    | ok b' => rw [eq_of_describes h (describes_of_resolve hresolve)]
    | error e =>
      obtain ⟨path, hpath, hfile⟩ := h.file
      simp [resolve, hpath, hfile] at hresolve
  · exact describes_of_resolve

/-- What resolves is in a file. -/
theorem pathError?_of_resolve (h : resolve files stored = .ok b) : stored.pathError? = none := by
  rw [Option.eq_none_iff_forall_ne_some]
  intro e he
  rw [resolve_eq_error_iff.2 he] at h
  cases h

theorem resolved_cons_of_ok (h : resolve files stored = .ok b) (rest : List StoredBreakpoint) :
    resolved files (stored :: rest) = b :: resolved files rest := by
  rw [resolved, List.filterMap_cons, h]
  rfl

theorem resolved_cons_of_error {e : Error} (h : resolve files stored = .error e)
    (rest : List StoredBreakpoint) : resolved files (stored :: rest) = resolved files rest := by
  rw [resolved, List.filterMap_cons, h]
  rfl

/-- The breakpoints that a list of stored ones resolves to are those that the located ones of the
list describe. -/
theorem forall₂_describes_resolved (files : FileTree) (stored : List StoredBreakpoint) :
    List.Forall₂ (StoredBreakpoint.Describes files) (stored.filter (·.pathError?.isNone))
      (resolved files stored) := by
  induction stored with
  | nil => exact .nil
  | cons s rest ih =>
    cases hs : resolve files s with
    | ok b =>
      rw [resolved_cons_of_ok hs, List.filter_cons, pathError?_of_resolve hs]
      exact .cons (describes_iff.2 hs) ih
    | error e =>
      rw [resolved_cons_of_error hs, List.filter_cons, resolve_eq_error_iff.1 hs]
      exact ih

end Breakpoint

namespace Relay

variable {r : Relay} {stored : StoredBreakpoint}

/-- The warnings about those of a list of stored breakpoints that are in no file. -/
def skips (stored : List StoredBreakpoint) : List String :=
  (stored.filterMap (·.pathError?)).map fun e => "Skipping breakpoint: " ++ e.message

/-- To put stored breakpoints into the registry is to put those that resolve, in order. Each of the
others is worth a warning and nothing else. -/
theorem putAll_eq (r : Relay) (stored : List StoredBreakpoint) :
    r.putAll stored = (({ r with
      registry := r.registry.after ((Breakpoint.resolved r.files stored).map .put) } :
        Relay).warnAll (skips stored), (Breakpoint.resolved r.files stored).length) := by
  -- the rest is put into a relay that has the first one already, or the warning about it
  induction stored generalizing r with
  | nil => exact congrArg (·, 0) (warnAll_nil r).symm
  | cons s rest ih =>
    rw [putAll]
    cases hs : Breakpoint.resolve r.files s with
    | ok b =>
      have hskips : skips (s :: rest) = skips rest := by
        simp [skips, Breakpoint.pathError?_of_resolve hs]
      simp only [put_eq, ih]
      rw [Breakpoint.resolved_cons_of_ok hs, hskips]
      rfl
    | error e =>
      have hskips : skips (s :: rest) = ("Skipping breakpoint: " ++ e.message) :: skips rest := by
        simp [skips, Breakpoint.resolve_eq_error_iff.1 hs]
      simp only [ih]
      rw [Breakpoint.resolved_cons_of_error hs, hskips]
      simp [warn, note, warnAll]

/-- A callback about a breakpoint of another kind does nothing. Otherwise it fails exactly if the
path of the breakpoint leads to no file, with nothing changed; and if it does not fail, it changes
the registry for what the breakpoint describes and offers the events about that. Of any list of
stored breakpoints those in a file are put into the registry, in order, and counted, and this is
what the registry is filled with at the start. -/
theorem fails_for_file_only (r : Relay) :
    (∀ c stored, r.supports stored.model = false → r.callback c stored = (r, .ok ())) ∧
    (∀ c stored, r.supports stored.model = true →
      (∀ e, (r.callback c stored).2 = .error e ↔ stored.pathError? = some e) ∧
      (stored.pathError? ≠ none → (r.callback c stored).1 = r) ∧
      (stored.pathError? = none → ∃ b, stored.Describes r.files b ∧
        r.callback c stored = (({ r with
          registry := c.registry r.registry b
          queue := r.queue.offerAll (c.events r.registry b) } : Relay).warnAll
            (c.warnings r.registry b), .ok ()))) ∧
    (∀ stored, ∃ described,
      List.Forall₂ (StoredBreakpoint.Describes r.files) (stored.filter (·.pathError?.isNone))
        described ∧
      r.putAll stored = (({ r with
        registry := r.registry.after (described.map .put) } : Relay).warnAll (skips stored),
          described.length)) ∧
    r.loadBreakpoints = r.putAll (r.store.filter fun stored => r.supports stored.model) := by
  refine ⟨fun c stored hmodel => ?foreign, fun c stored hmodel => ?own, fun stored => ?list, rfl⟩
  case foreign =>
    obtain ⟨act, hact⟩ := r.callback_eq_withResolved c stored
    rw [hact, withResolved, hmodel, if_neg Bool.false_ne_true]
  case list =>
    exact ⟨_, Breakpoint.forall₂_describes_resolved r.files stored, r.putAll_eq stored⟩
  case own =>
    cases hpath : stored.pathError? with
    | some e =>
      obtain ⟨act, hact⟩ := r.callback_eq_withResolved c stored
      have hfails : r.callback c stored = (r, .error e) := by
        rw [hact, withResolved_of_pathError hmodel hpath act]
      simp [hfails]
    | none =>
      obtain ⟨b, hb⟩ := exists_resolves hmodel hpath
      have heq := callback_of_resolves c hb
      refine ⟨by simp [heq], fun hne => absurd rfl hne, fun _ => ?_⟩
      exact ⟨b, Breakpoint.describes_iff.2 hb.2, heq⟩

/-! ## A breakpoint of which only the path is known, and one of which it is not -/

/-- A breakpoint of a kind that the session is not for. -/
def sampleForeign : StoredBreakpoint := { sampleMislaid with model := "other" }

/-- The session has nothing to do with the first, refuses the second, and takes in the third. -/
theorem failed_sampleDeleted :
    sampleOwned.callback .changed sampleForeign = (sampleOwned, .ok ()) ∧
    (sampleOwned.callback .changed sampleDeleted).2 =
      .error (.unresolved "no source location: Breakpoint resolution failed: resource deleted") ∧
    (sampleOwned.callback .changed sampleDeleted).1 = sampleOwned ∧
    (sampleOwned.callback .changed sampleMislaid).2 = .ok () ∧
    (sampleOwned.putAll [sampleDeleted, sampleMislaid]).2 = 1 := by
  obtain ⟨hforeign, hown, hlist, -⟩ := fails_for_file_only sampleOwned
  obtain ⟨herror, hsame, -⟩ := hown .changed sampleDeleted (by decide)
  obtain ⟨-, -, hok⟩ := hown .changed sampleMislaid (by decide)
  obtain ⟨b, -, heq⟩ := hok (by decide)
  obtain ⟨described, hdescribed, hputAll⟩ := hlist [sampleDeleted, sampleMislaid]
  refine ⟨hforeign .changed sampleForeign (by decide), (herror _).2 rfl, hsame (by decide), ?_, ?_⟩
  · rw [heq]
  · rw [hputAll]
    exact hdescribed.length_eq.symm

end Relay

end DebugRelay
