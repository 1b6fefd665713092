import DebugRelay.Proofs.Relay.Callbacks

/-!
# Edits of the wanted breakpoints

The IDE's callbacks change the registry and queue events about breakpoints. `Relay.Edited` says
what such an edit keeps, and that it announces every file whose entries it touches; `edited_edit`
shows it for every edit. Only an addition may fail to announce a file: one whose marker owns an
entry in another file (`Relay.Announces`).
-/

namespace DebugRelay

/-- No entry ignores hits or is temporary. -/
def Registry.Lasting (r : Registry) : Prop :=
  ∀ l b, r.find? l = some b → b.hitCount = 0 ∧ b.temporary = false

theorem Registry.Lasting.clear {r : Registry} (h : r.Lasting) (l : Location) :
    (r.clear l).Lasting := by
  intro k b hb
  rw [find?_clear] at hb
  split at hb
  · simp at hb
  · exact h k b hb

theorem Registry.Lasting.unload {r : Registry} (h : r.Lasting) (f : SourceFile) :
    (r.unload f).1.Lasting := by
  intro k b hb
  rw [find?_unload] at hb
  split at hb
  · simp at hb
  · exact h k b hb

theorem Registry.Lasting.put {r : Registry} {b : Breakpoint} (h : r.Lasting)
    (hb : b.hitCount = 0 ∧ b.temporary = false) : (r.put b).1.Lasting := by
  intro k x hx
  rw [find?_put] at hx
  split at hx
  · rw [Option.some.injEq] at hx
    subst hx
    unfold entryAfter
    split <;> exact hb
  · split at hx
    · simp at hx
    · exact h k x hx

/-- A stored breakpoint never resolves to one that ignores hits or is temporary. -/
theorem Breakpoint.lasting_of_resolve {files : FileTree} {stored : StoredBreakpoint}
    {b : Breakpoint} (h : resolve files stored = .ok b) :
    b.hitCount = 0 ∧ b.temporary = false := by
  unfold resolve at h
  split at h
  · simp at h
  · split at h
    · simp at h
    · rw [Except.ok.injEq] at h
      subst h
      exact ⟨rfl, rfl⟩

/-- Two registries have the same entries in a file. -/
def Registry.AgreesIn (old new : Registry) (f : SourceFile) : Prop :=
  ∀ line, new.find? ⟨f, line⟩ = old.find? ⟨f, line⟩

namespace Relay

/-- What the IDE does to its breakpoints. -/
inductive Edit where
  | added (stored : StoredBreakpoint)
  | removed (stored : StoredBreakpoint)
  | changed (stored : StoredBreakpoint)
  | unloaded (f : SourceFile)

/-- The relay after an edit. -/
def edit (r : Relay) : Edit → Relay
  | .added stored => (r.breakpointAdded stored).1
  | .removed stored => (r.breakpointRemoved stored).1
  | .changed stored => (r.breakpointChanged stored).1
  | .unloaded f => (r.sourceUnloaded f).1

/-- The marker of a stored breakpoint owns no entry in another file than the breakpoint's. -/
def StaysInFile (r : Relay) (stored : StoredBreakpoint) : Prop :=
  ∀ b m l, Breakpoint.resolve r.files stored = .ok b → b.marker = some m →
    r.registry.owners.find? m = some l → l.file = b.file

/-- The edit announces every file that it touches. -/
def Announces (r : Relay) : Edit → Prop
  | .added stored => r.StaysInFile stored
  | .removed _ | .changed _ | .unloaded _ => True

/-- What an edit does: the registry becomes another one, which is sound and lasting like the old
one, and events about breakpoints are queued. -/
structure Edited (r : Relay) (d : Edit) (registry : Registry) (announced : List Event)
    (log : List LogEntry) : Prop where
  eq : r.edit d = { r with
    registry := registry
    queue := { r.queue with waiting := r.queue.waiting ++ announced }
    log := log }
  sound : registry.Sound
  lasting : registry.Lasting
  files : ∀ e ∈ announced, ∃ f, e.file? = some f
  covers : r.Announces d →
    ∀ f, r.registry.AgreesIn registry f ∨ ∃ e ∈ announced, e.file? = some f

variable {r : Relay}

theorem edited_of_eq {d : Edit} (hs : r.registry.Sound) (hl : r.registry.Lasting)
    (h : r.edit d = r) : Edited r d r.registry [] r.log where
  eq := by simp [h]
  sound := hs
  lasting := hl
  files := by simp
  covers _ _ := Or.inl fun _ => rfl

/-- A put that moves an entry tells which one it replaced. -/
theorem put_snd_of_elsewhere {b : Breakpoint} {former : Location} (hs : r.registry.Sound)
    (hformer : r.registry.ownedElsewhere? b.marker b.location = some former) :
    ∃ previous, (r.registry.put b).2 = .moved previous ∧ previous.file = former.file := by
  obtain ⟨previous, hprevious, hmoved⟩ := hs.put_snd_of_elsewhere hformer
  exact ⟨previous, hmoved, congrArg Location.file (hs.located hprevious)⟩

/-! ## What edits announce -/

section Edits

variable (hs : r.registry.Sound) (hl : r.registry.Lasting) (ha : r.queue.accepts = true)
include hs hl ha

theorem edited_added (stored : StoredBreakpoint) :
    ∃ registry announced log, Edited r (.added stored) registry announced log := by
  rcases r.resolves_or stored with ⟨b, hb⟩ | ⟨-, hnone⟩
  · refine ⟨(r.registry.put b).1, [.breakpointAdded b], r.log, ?_⟩
    constructor
    case eq => exact breakpointAdded_eq ha hb
    case sound => exact hs.put b
    case lasting => exact hl.put (Breakpoint.lasting_of_resolve hb.2)
    case files => simp [Event.file?]
    case covers =>
      intro hstay f
      -- the event is about the new file, and the marker has no entry in another one
      by_cases hf : f = b.file
      · exact Or.inr ⟨_, List.mem_singleton.2 rfl, by rw [hf]; rfl⟩
      · refine Or.inl fun line => ?_
        rw [Registry.find?_put, if_neg, if_neg]
        · intro hformer
          obtain ⟨⟨m, hm, hown⟩, -⟩ := Registry.ownedElsewhere?_eq_some_iff.1 hformer
          exact hf (hstay b m _ hb.2 hm hown)
        · intro hloc
          exact hf (congrArg Location.file hloc)
  · exact ⟨_, _, _, edited_of_eq hs hl (hnone _)⟩

theorem edited_removed (stored : StoredBreakpoint) :
    ∃ registry announced log, Edited r (.removed stored) registry announced log := by
  rcases r.resolves_or stored with ⟨b, hb⟩ | ⟨-, hnone⟩
  · obtain ⟨log, heq⟩ := breakpointRemoved_eq ha hb
    refine ⟨r.registry.clear (r.registry.removalTarget b), [.breakpointRemoved
      ((r.registry.find? (r.registry.removalTarget b)).getD b)], log, ?_⟩
    constructor
    case eq => exact heq
    case sound => exact hs.clear _
    case lasting => exact hl.clear _
    case files => simp [Event.file?]
    case covers =>
      intro _ f
      -- the event is about the entry taken out, wherever the marker had it
      generalize r.registry.removalTarget b = l
      by_cases hf : f = l.file
      · cases hx : r.registry.find? l with
        | none =>
          refine Or.inl fun line => ?_
          rw [Registry.find?_clear]
          split
          · next hk => rw [hk, hx]
          · rfl
        | some x =>
          refine Or.inr ⟨_, List.mem_singleton.2 rfl, ?_⟩
          rw [hf, ← hs.located hx]
          rfl
      · refine Or.inl fun line => ?_
        rw [Registry.find?_clear, if_neg]
        intro hloc
        exact hf (congrArg Location.file hloc)
  · exact ⟨_, _, _, edited_of_eq hs hl (hnone _)⟩

theorem edited_changed (stored : StoredBreakpoint) :
    ∃ registry announced log, Edited r (.changed stored) registry announced log := by
  rcases r.resolves_or stored with ⟨b, hb⟩ | ⟨-, hnone⟩
  · refine ⟨(r.registry.put b).1, departures b (r.registry.put b).2 ++
      [.breakpointChanged (r.registry.entryAfter b)], r.log, ?_⟩
    constructor
    case eq => exact breakpointChanged_eq ha hb
    case sound => exact hs.put b
    case lasting => exact hl.put (Breakpoint.lasting_of_resolve hb.2)
    case files =>
      intro e he
      rcases List.mem_append.1 he with he | he
      · exact exists_file_of_mem_departures he
      · rw [List.mem_singleton.1 he]
        exact ⟨_, rfl⟩
    case covers =>
      intro _ f
      by_cases hf : f = b.file
      · refine Or.inr ⟨_, List.mem_append_right _ (List.mem_singleton.2 rfl), ?_⟩
        have hfile : (r.registry.entryAfter b).file = b.file :=
          congrArg Location.file (Registry.location_entryAfter hs b)
        rw [hf, Event.file?, hfile]
      -- another file is touched only if the entry was moved away from it
      · by_cases hleft : ∃ former, former.file = f ∧
            r.registry.ownedElsewhere? b.marker b.location = some former
        · obtain ⟨former, hfile, hformer⟩ := hleft
          obtain ⟨previous, hmoved, hprevious⟩ := put_snd_of_elsewhere hs hformer
          have hne : previous.file ≠ b.file := by
            rw [hprevious, hfile]
            exact hf
          refine Or.inr ⟨.breakpointRemoved previous, List.mem_append_left _ ?_, ?_⟩
          · simp [departures, hmoved, hne]
          · rw [Event.file?, hprevious, hfile]
        · refine Or.inl fun line => ?_
          rw [Registry.find?_put, if_neg, if_neg]
          · exact fun hformer => hleft ⟨_, rfl, hformer⟩
          · exact fun hloc => hf (congrArg Location.file hloc)
  · exact ⟨_, _, _, edited_of_eq hs hl (hnone _)⟩

theorem edited_unloaded (f : SourceFile) :
    ∃ registry announced log, Edited r (.unloaded f) registry announced log := by
  cases hlast : (r.registry.unload f).2.getLast? with
  | none =>
    have hnil : (r.registry.unload f).2 = [] := List.getLast?_eq_none_iff.1 hlast
    refine ⟨(r.registry.unload f).1, [], r.log, ?_⟩
    constructor
    case eq => simp [edit, sourceUnloaded, unload, hlast]
    case sound => exact hs.unload f
    case lasting => exact hl.unload f
    case files => simp
    case covers => exact fun _ g => Or.inl fun line => Registry.find?_unload_of_nil hnil _
  -- one event is announced for all entries of the file
  | some last =>
    obtain ⟨l, hl', hfind⟩ := Registry.exists_of_mem_unload (List.mem_of_getLast? hlast)
    refine ⟨(r.registry.unload f).1, [.breakpointRemoved last], r.log, ?_⟩
    constructor
    case eq =>
      simp only [edit, sourceUnloaded, unload, hlast]
      exact send_of_accepts (r := { r with registry := (r.registry.unload f).1 }) ha _
    case sound => exact hs.unload f
    case lasting => exact hl.unload f
    case files => simp [Event.file?]
    case covers =>
      intro _ g
      by_cases hg : g = f
      · refine Or.inr ⟨_, List.mem_singleton.2 rfl, ?_⟩
        rw [hg, ← hl', ← hs.located hfind]
        rfl
      · refine Or.inl fun line => ?_
        rw [Registry.find?_unload, if_neg hg]

theorem edited_edit (d : Edit) : ∃ registry announced log, Edited r d registry announced log := by
  cases d with
  | added stored => exact edited_added hs hl ha stored
  | removed stored => exact edited_removed hs hl ha stored
  | changed stored => exact edited_changed hs hl ha stored
  | unloaded f => exact edited_unloaded hs hl ha f

end Edits

end Relay

end DebugRelay
