import DebugRelay.Proofs.Relay.Convergence

/-!
# Additions and changes

The IDE tells of a breakpoint that is new and of one that changed through two callbacks that put it
into the registry alike, and announce it differently: a change that moves the entry to another file
announces the file it left, an addition never does. `Relay.dispatchAll` is the relay once every
waiting event is dispatched. Starting with all files in line, both callbacks then leave the same
registry, and the same table in every file that the entry did not leave; in a file that it left,
the addition keeps the line of the former entry in the table, and the change takes it out
(`added_agrees_unless_left`).
-/

namespace DebugRelay.Relay

/-- Dispatches as many events as wait. -/
def dispatchAll (r : Relay) : Relay := (fun s => s.move .dispatch)^[r.queue.waiting.length] r

/-- The files that waiting events are about. -/
def announced (r : Relay) : List SourceFile := r.queue.waiting.filterMap Event.file?

/-- The marker of a stored breakpoint owns the entry at a location in another file. -/
def Leaves (r : Relay) (stored : StoredBreakpoint) (l : Location) : Prop :=
  ∃ b m, r.Resolves stored b ∧ b.marker = some m ∧ r.registry.owners.find? m = some l ∧
    l.file ≠ b.file

variable {r : Relay}

/-! ## Dispatching what waits -/

/-- Dispatching an event about a file brings that file in line. -/
theorem Live.dispatch_of_file (h : r.Live) (hook : r.link.hook = some .direct) {e : Event}
    {rest : List Event} {f : SourceFile} (hw : r.queue.waiting = e :: rest)
    (he : e.file? = some f) :
    (r.move .dispatch).queue.waiting = rest ∧ (r.move .dispatch).registry = r.registry ∧
      (r.move .dispatch).native.tracer =
        (r.native.tracer.clearFile f).plantAll (r.registry.enabledOf f) := by
  rcases h.dispatch_cases with ⟨hnil, -⟩ | ⟨e', rest', s, stats, log, hw', hs, hd⟩
  · rw [hnil] at hw
    simp at hw
  · rw [hw] at hw'
    obtain ⟨rfl, rfl⟩ := List.cons.inj hw'
    -- an event about a file is consumed in one way only
    have hs' : s = ((r.taken rest).reconcile f).1 := by
      cases hs with
      | aligned he' => rw [Option.some.inj (he.symm.trans he')]
      | stepped kind => simp [Event.file?] at he
      | resent => simp [Event.file?] at he
      | notified hroute =>
        rw [Event.file?_of_route hroute] at he
        simp at he
    obtain ⟨calls, log', hrec⟩ := reconcile_direct (r := r.taken rest) hook f
    rw [hd, hs', hrec]
    exact ⟨rfl, rfl, rfl⟩

/-- Where only events about files wait, dispatching them all empties the queue, keeps the registry,
and brings exactly the announced files in line. -/
theorem Live.dispatchAll_of_files (h : r.Live) (hook : r.link.hook = some .direct)
    (hs : r.registry.Sound) (hfiles : ∀ e ∈ r.queue.waiting, ∃ f, e.file? = some f) :
    r.dispatchAll.queue.waiting = [] ∧ r.dispatchAll.registry = r.registry ∧
      ∀ f n, r.dispatchAll.native.tracer.planted? f n =
        if f ∈ r.announced then (r.registry.wanted? f n).map .ofBreakpoint
        else r.native.tracer.planted? f n := by
  unfold dispatchAll announced
  -- the induction is on the waiting events, the oldest of which goes first
  induction hw : r.queue.waiting generalizing r with
  | nil => exact ⟨hw, rfl, fun f n => by simp⟩
  | cons e rest ih =>
    obtain ⟨g, hg⟩ := hfiles e (hw ▸ List.mem_cons_self)
    obtain ⟨hrest, hregistry, htracer⟩ := h.dispatch_of_file hook hw hg
    obtain ⟨hlive, hhook⟩ := h.dispatch
    have hsound : (r.move .dispatch).registry.Sound := by
      rw [hregistry]
      exact hs
    have hfiles' : ∀ e ∈ (r.move .dispatch).queue.waiting, ∃ f, e.file? = some f := by
      intro x hx
      rw [hrest] at hx
      exact hfiles x (hw ▸ List.mem_cons_of_mem e hx)
    obtain ⟨hempty, hkept, hplanted⟩ := ih hlive (hhook.trans hook) hsound hfiles' hrest
    refine ⟨hempty, hkept.trans hregistry, fun f n => ?_⟩
    rw [List.length_cons, Function.iterate_succ_apply, hplanted, hregistry, htracer,
      Tracer.planted?_reconciled _ hs, List.filterMap_cons_some hg]
    by_cases hfg : f = g
    · subst hfg
      simp
    · simp [hfg]

/-! ## What the callbacks announce -/

/-- Without a former entry elsewhere, a put moves nothing. -/
theorem departures_put_of_stays {g : Registry} {b : Breakpoint}
    (h : g.ownedElsewhere? b.marker b.location = none) : departures b (g.put b).2 = [] := by
  cases hhere : g.find? b.location with
  | none =>
    rw [Registry.put_of_free h hhere]
    rfl
  | some existing =>
    rw [Registry.put_of_here h hhere]
    split <;> rfl

theorem leaves_iff {stored : StoredBreakpoint} {b : Breakpoint} (hb : r.Resolves stored b)
    {l : Location} :
    r.Leaves stored l ↔
      r.registry.ownedElsewhere? b.marker b.location = some l ∧ l.file ≠ b.file := by
  rw [Registry.ownedElsewhere?_eq_some_iff]
  constructor
  · rintro ⟨b', m, hb', hm, hown, hfile⟩
    obtain rfl : b = b' := Except.ok.inj (hb.2.symm.trans hb'.2)
    refine ⟨⟨⟨m, hm, hown⟩, ?_⟩, hfile⟩
    intro hloc
    exact hfile (congrArg Location.file hloc)
  · rintro ⟨⟨⟨m, hm, hown⟩, -⟩, hfile⟩
    exact ⟨b, m, hb, hm, hown, hfile⟩

/-- A change announces exactly the files that the entry left, besides its own. -/
theorem mem_departures_files_iff (hs : r.registry.Sound) {stored : StoredBreakpoint}
    {b : Breakpoint} (hb : r.Resolves stored b) {f : SourceFile} :
    f ∈ (departures b (r.registry.put b).2).filterMap Event.file? ↔
      ∃ line, r.Leaves stored ⟨f, line⟩ := by
  simp only [leaves_iff hb]
  cases hformer : r.registry.ownedElsewhere? b.marker b.location with
  | none => simp [departures_put_of_stays hformer]
  | some former =>
    obtain ⟨previous, hprevious, hmoved⟩ := hs.put_snd_of_elsewhere hformer
    have hfile : previous.file = former.file := congrArg Location.file (hs.located hprevious)
    rw [hmoved, departures, hfile]
    by_cases hsame : former.file = b.file
    · rw [if_pos hsame]
      constructor
      · simp
      · rintro ⟨line, hline, hne⟩
        rw [Option.some.inj hline] at hsame
        exact absurd hsame hne
    · rw [if_neg hsame, List.filterMap_cons_some (b := former.file) (by simp [Event.file?, hfile])]
      simp only [List.filterMap_nil, List.mem_singleton]
      constructor
      · rintro rfl
        exact ⟨former.line, rfl, hsame⟩
      · rintro ⟨line, hline, -⟩
        rw [Option.some.inj hline]

/-- A put changes what is wanted in another file only at the place that the entry left. -/
theorem wanted?_put_of_ne {g : Registry} {b : Breakpoint} {f : SourceFile} (hf : f ≠ b.file)
    (n : UInt32) :
    (g.put b).1.wanted? f n =
      if g.ownedElsewhere? b.marker b.location = some ⟨f, some n⟩ then none
      else g.wanted? f n := by
  rw [Registry.wanted?, Registry.find?_put, if_neg]
  · split <;> rfl
  · intro hloc
    exact hf (congrArg Location.file hloc)

/-- So it changes nothing there but what was wanted at the line that the entry left. -/
theorem wanted?_put_of_not_left {stored : StoredBreakpoint} {b : Breakpoint}
    (hb : r.Resolves stored b) {f : SourceFile} (hf : f ≠ b.file) {n : UInt32}
    (hn : ¬ (r.Leaves stored ⟨f, some n⟩ ∧ (r.registry.wanted? f n).isSome)) :
    (r.registry.put b).1.wanted? f n = r.registry.wanted? f n := by
  rw [wanted?_put_of_ne hf]
  split
  · next hformer =>
    have hleaves : r.Leaves stored ⟨f, some n⟩ := (leaves_iff hb).2 ⟨hformer, hf⟩
    have hnone : ¬ (r.registry.wanted? f n).isSome := fun hwanted => hn ⟨hleaves, hwanted⟩
    exact (Option.not_isSome_iff_eq_none.1 hnone).symm
  · rfl

/-! ## The two callbacks compared -/

section Callbacks

variable (h : r.Live) (hook : r.link.hook = some .direct) (hq : r.queue.waiting = [])
  (hs : r.registry.Sound)
include h hook hs

/-- A put that queues events about files: once they are dispatched, the registry is that after the
put, and the announced files are in line with it. -/
theorem dispatchAll_of_put (b : Breakpoint) {events : List Event}
    (hevents : ∀ e ∈ events, ∃ f, e.file? = some f) :
    let s := { r with
      registry := (r.registry.put b).1
      queue := { r.queue with waiting := events } }
    s.dispatchAll.queue.waiting = [] ∧ s.dispatchAll.registry = (r.registry.put b).1 ∧
      ∀ f n, s.dispatchAll.native.tracer.planted? f n =
        if f ∈ events.filterMap Event.file? then
          ((r.registry.put b).1.wanted? f n).map .ofBreakpoint
        else r.native.tracer.planted? f n := by
  intro s
  have hlive : s.Live := by
    refine h.of_eq rfl h.running rfl rfl fun e he => Or.inr ?_
    rintro rfl
    obtain ⟨f, hf⟩ := hevents _ he
    simp [Event.file?] at hf
  exact hlive.dispatchAll_of_files hook (hs.put b) hevents

include hq

/-- An addition brings the file of the breakpoint in line, and no other. -/
theorem dispatchAll_added {stored : StoredBreakpoint} {b : Breakpoint}
    (hb : r.Resolves stored b) :
    let s := (r.breakpointAdded stored).1.dispatchAll
    s.queue.waiting = [] ∧ s.registry = (r.registry.put b).1 ∧
      ∀ f n, s.native.tracer.planted? f n =
        if f = b.file then ((r.registry.put b).1.wanted? f n).map .ofBreakpoint
        else r.native.tracer.planted? f n := by
  have hevents : ∀ e ∈ [Event.breakpointAdded b], ∃ f, e.file? = some f := by
    simp [Event.file?]
  obtain ⟨hempty, hregistry, hplanted⟩ := dispatchAll_of_put h hook hs b hevents
  rw [breakpointAdded_eq h.accepts hb, hq, List.nil_append]
  refine ⟨hempty, hregistry, fun f n => ?_⟩
  rw [hplanted]
  simp [Event.file?]

/-- A change brings the file of the breakpoint in line, and the one that its entry left. -/
theorem dispatchAll_changed {stored : StoredBreakpoint} {b : Breakpoint}
    (hb : r.Resolves stored b) :
    let s := (r.breakpointChanged stored).1.dispatchAll
    s.queue.waiting = [] ∧ s.registry = (r.registry.put b).1 ∧
      (∀ f n, f = b.file ∨ (∃ line, r.Leaves stored ⟨f, line⟩) →
        s.native.tracer.planted? f n =
          ((r.registry.put b).1.wanted? f n).map .ofBreakpoint) ∧
      ∀ f n, f ≠ b.file → (∀ line, ¬ r.Leaves stored ⟨f, line⟩) →
        s.native.tracer.planted? f n = r.native.tracer.planted? f n := by
  have hhere : (r.registry.entryAfter b).file = b.file :=
    congrArg Location.file (Registry.location_entryAfter hs b)
  have hevents : ∀ e ∈ departures b (r.registry.put b).2 ++
      [.breakpointChanged (r.registry.entryAfter b)], ∃ f, e.file? = some f := by
    intro e he
    rcases List.mem_append.1 he with he | he
    · exact exists_file_of_mem_departures he
    · rw [List.mem_singleton.1 he]
      exact ⟨_, rfl⟩
  have hfiles : ∀ f, f ∈ (departures b (r.registry.put b).2 ++
      [Event.breakpointChanged (r.registry.entryAfter b)]).filterMap Event.file? ↔
        f = b.file ∨ ∃ line, r.Leaves stored ⟨f, line⟩ := by
    intro f
    rw [List.filterMap_append, List.mem_append, mem_departures_files_iff hs hb, or_comm]
    simp [Event.file?, hhere, eq_comm]
  obtain ⟨hempty, hregistry, hplanted⟩ := dispatchAll_of_put h hook hs b hevents
  rw [breakpointChanged_eq h.accepts hb, hq, List.nil_append]
  refine ⟨hempty, hregistry, fun f n hf => ?_, fun f n hf hleft => ?_⟩
  · rw [hplanted, if_pos ((hfiles f).2 hf)]
  · rw [hplanted, if_neg]
    rw [hfiles, not_or, not_exists]
    exact ⟨hf, hleft⟩

/-- Starting with an empty queue and every file in line, telling of a breakpoint as new and as
changed leave the same registry once all events are dispatched. The tables agree in every file that
the entry of the marker did not leave, counts included. In a file that it left, the two disagree
exactly at the line of the former entry, if that was enabled: the change takes it out of the table,
and the addition leaves it there. -/
theorem added_agrees_unless_left (hin : ∀ f, r.InLine f) (stored : StoredBreakpoint) :
    let added := (r.breakpointAdded stored).1.dispatchAll
    let changed := (r.breakpointChanged stored).1.dispatchAll
    added.queue.waiting = [] ∧ changed.queue.waiting = [] ∧ added.registry = changed.registry ∧
    (∀ f, (∀ line, ¬ r.Leaves stored ⟨f, line⟩) →
      ∀ n, added.native.tracer.planted? f n = changed.native.tracer.planted? f n) ∧
    (∀ f n, r.Leaves stored ⟨f, some n⟩ → (r.registry.wanted? f n).isSome →
      (added.native.tracer.planted? f n).isSome ∧ changed.native.tracer.planted? f n = none) ∧
    ∀ f n, ¬ (r.Leaves stored ⟨f, some n⟩ ∧ (r.registry.wanted? f n).isSome) →
      added.native.tracer.condition? f n = changed.native.tracer.condition? f n := by
  intro added changed
  rcases r.resolves_or stored with ⟨b, hb⟩ | ⟨hnot, hnone⟩
  · obtain ⟨hempty, hregistry, hadded⟩ := dispatchAll_added h hook hq hs hb
    obtain ⟨hempty', hregistry', hleft, hkept⟩ := dispatchAll_changed h hook hq hs hb
    refine ⟨hempty, hempty', hregistry.trans hregistry'.symm, ?_, ?_, ?_⟩
    case refine_1 =>
      intro f hstays n
      by_cases hf : f = b.file
      · exact (hadded f n).trans ((if_pos hf).trans (hleft f n (Or.inl hf)).symm)
      · exact (hadded f n).trans ((if_neg hf).trans (hkept f n hf hstays).symm)
    case refine_2 =>
      intro f n hleaves hwanted
      obtain ⟨hformer, hf⟩ := (leaves_iff hb).1 hleaves
      constructor
      · rw [hadded, if_neg hf, (hin f).isSome_iff]
        exact hwanted
      · rw [hleft f n (Or.inr ⟨_, hleaves⟩), wanted?_put_of_ne hf, if_pos hformer]
        rfl
    case refine_3 =>
      intro f n hagree
      by_cases hf : f = b.file
      · rw [Tracer.condition?, Tracer.condition?, hadded, if_pos hf, hleft f n (Or.inl hf)]
      · by_cases hstays : ∀ line, ¬ r.Leaves stored ⟨f, line⟩
        · rw [Tracer.condition?, Tracer.condition?, hadded, if_neg hf, hkept f n hf hstays]
        -- a left file is in line before and after, and only the line that was left is not wanted
        · have hwanted := wanted?_put_of_not_left hb hf hagree
          rw [Tracer.condition?, hadded, if_neg hf, Tracer.condition?,
            hleft f n (Or.inr (not_forall_not.1 hstays)), hwanted, Option.map_map]
          exact hin f n
  -- a breakpoint that does not resolve is ignored by both callbacks
  · have hadded : (r.breakpointAdded stored).1 = r := hnone _
    have hchanged : (r.breakpointChanged stored).1 = r := hnone _
    have hsame : added = changed := by
      simp only [added, changed, hadded, hchanged]
    have hidle : changed = r := by
      simp only [changed, hchanged, dispatchAll, hq, List.length_nil, Function.iterate_zero_apply]
    have hempty : changed.queue.waiting = [] := by
      rw [hidle]
      exact hq
    rw [hsame]
    refine ⟨hempty, hempty, rfl, fun f _ n => rfl, fun f n hleaves => ?_, fun f n _ => rfl⟩
    obtain ⟨b, -, hb, -⟩ := hleaves
    exact absurd hb (hnot b)

end Callbacks

/-! ## A marker that comes to another file -/

/-- An enabled breakpoint of the IDE with marker 7. -/
def markedAt (path : String) (line : UInt32) : StoredBreakpoint :=
  ⟨"", .ok path, .ok line, .ok none, .ok true, some 7⟩

/-- The session in which marker 7 got a breakpoint at line 10 of `/a.py`, and nothing waits. -/
def sampleMarked : Relay :=
  (((started sampleParts).setup .direct).1.move (.edit (.added (markedAt "/a.py" 10)))).move
    .dispatch

theorem reaches_sampleMarked : Reaches sampleParts sampleMarked := by
  refine .move .dispatch (.move _ (.setup .started rfl) fun b m l _ _ hown => ?_) trivial
  rw [show ((started sampleParts).setup .direct).1.registry.owners.find? m = none from rfl] at hown
  simp at hown

theorem waiting_sampleMarked : sampleMarked.queue.waiting = [] := by cbv

theorem hook_sampleMarked : sampleMarked.link.hook = some .direct := by
  rcases reaches_sampleMarked.converging.live.hook with hook | hook
  · have hattached : sampleMarked.isAttached = true := by cbv
    rw [isAttached, hook] at hattached
    simp at hattached
  · exact hook

theorem inLine_sampleMarked (f : SourceFile) : sampleMarked.InLine f := by
  rcases reaches_sampleMarked.converging.due hook_sampleMarked f with hin | ⟨e, he, -⟩
  · exact hin
  · rw [waiting_sampleMarked] at he
    simp at he

theorem resolves_markedAt :
    sampleMarked.Resolves (markedAt "/b.py" 5) ⟨sampleOther, some 5, none, 0, false, true, some 7⟩ :=
  ⟨by cbv, by cbv⟩

/-- Marker 7 comes to line 5 of `/b.py`, where the two tables agree; in `/a.py` they do not. -/
theorem added_agrees_sampleMarked :
    let added := (sampleMarked.breakpointAdded (markedAt "/b.py" 5)).1.dispatchAll
    let changed := (sampleMarked.breakpointChanged (markedAt "/b.py" 5)).1.dispatchAll
    added.registry = changed.registry ∧
    (∀ n, added.native.tracer.planted? sampleOther n =
      changed.native.tracer.planted? sampleOther n) ∧
    (added.native.tracer.planted? sampleFile 10).isSome ∧
    changed.native.tracer.planted? sampleFile 10 = none := by
  have hc := reaches_sampleMarked.converging
  obtain ⟨-, -, hregistry, hstays, hleaves, -⟩ :=
    added_agrees_unless_left hc.live hook_sampleMarked waiting_sampleMarked hc.sound
      inLine_sampleMarked (markedAt "/b.py" 5)
  have hleft : sampleMarked.Leaves (markedAt "/b.py" 5) ⟨sampleFile, some 10⟩ :=
    (leaves_iff resolves_markedAt).2 ⟨by cbv, by decide⟩
  refine ⟨hregistry, hstays sampleOther fun line hline => ?_, hleaves sampleFile 10 hleft (by cbv)⟩
  exact ((leaves_iff resolves_markedAt).1 hline).2 rfl

/-- Told as a new one, the breakpoint leaves its former line in the table; told as a changed one, it
does not. -/
theorem stale_after_added :
    Reaches sampleParts sampleMarked ∧ sampleMarked.queue.waiting = [] ∧
    (∀ f, sampleMarked.InLine f) ∧
    (sampleMarked.breakpointAdded (markedAt "/b.py" 5)).1.dispatchAll.native.tracer.linesOf
      sampleFile = [10] ∧
    (sampleMarked.breakpointChanged (markedAt "/b.py" 5)).1.dispatchAll.native.tracer.linesOf
      sampleFile = [] :=
  ⟨reaches_sampleMarked, waiting_sampleMarked, inLine_sampleMarked, by cbv, by cbv⟩

end DebugRelay.Relay
