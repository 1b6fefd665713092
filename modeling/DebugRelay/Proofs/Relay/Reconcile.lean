import DebugRelay.Proofs.Relay.Edits

/-!
# Bringing files in line

`Registry.wanted?` is the enabled entry at a known line of a file, and a file is in line if the
table of the tracer has exactly the wanted breakpoints in it (`Relay.InLine`). Reconciling a file
brings it in line and leaves the others as they are (`planted?_reconciled`); installing all entries
into an empty table brings every file in line (`planted?_installed`).
-/

namespace DebugRelay

/-- The enabled entry at a known line of a file. -/
def Registry.wanted? (g : Registry) (f : SourceFile) (n : UInt32) : Option Breakpoint :=
  (g.find? ⟨f, some n⟩).filter (·.enabled)

namespace Registry

variable {g : Registry}

theorem wanted?_eq_some_iff {f : SourceFile} {n : UInt32} {b : Breakpoint} :
    g.wanted? f n = some b ↔ g.find? ⟨f, some n⟩ = some b ∧ b.enabled = true :=
  Option.filter_eq_some_iff

theorem AgreesIn.wanted? {old : Registry} {f : SourceFile} (h : old.AgreesIn g f) (n : UInt32) :
    g.wanted? f n = old.wanted? f n := by
  rw [Registry.wanted?, Registry.wanted?, h]

/-- The enabled entry at a location is listed where its location says. -/
theorem Sound.wanted?_iff_mem_enabled (hg : g.Sound) {f : SourceFile} {n : UInt32}
    {b : Breakpoint} :
    g.wanted? f n = some b ↔ b ∈ g.enabled ∧ b.location = ⟨f, some n⟩ := by
  rw [wanted?_eq_some_iff, mem_enabled_iff]
  constructor
  · rintro ⟨hb, he⟩
    exact ⟨⟨⟨_, hb⟩, he⟩, hg.located hb⟩
  · rintro ⟨⟨⟨l, hb⟩, he⟩, hloc⟩
    rw [hg.located hb] at hloc
    exact ⟨hloc ▸ hb, he⟩

theorem mem_enabledOf_iff_mem_enabled {f : SourceFile} {b : Breakpoint} :
    b ∈ g.enabledOf f ↔ b ∈ g.enabled ∧ b.file = f := by
  rw [mem_enabledOf_iff, mem_enabled_iff, and_assoc]

theorem Sound.mem_knownLines_iff_wanted? (hg : g.Sound) {f : SourceFile} {n : UInt32} :
    n ∈ knownLines (g.enabledOf f) ↔ (g.wanted? f n).isSome := by
  rw [hg.mem_knownLines_iff, Option.isSome_iff_exists]
  simp only [wanted?_eq_some_iff]

end Registry

namespace Tracer

/-- Planting a list of breakpoints that has one at most at a line: the line gets the one listed for
it, and without one stays as it is. -/
theorem planted?_plantAll {bs : List Breakpoint} {f : SourceFile} {n : UInt32}
    {wanted : Option Breakpoint}
    (h : ∀ b, wanted = some b ↔ b ∈ bs ∧ b.location = ⟨f, some n⟩) (t : Tracer) :
    (t.plantAll bs).planted? f n =
      (wanted.map Planted.ofBreakpoint).or (t.planted? f n) := by
  cases wanted with
  | none =>
    refine planted?_plantAll_of_not_mem (fun b hb hloc => ?_) t
    simpa using (h b).2 ⟨hb, hloc⟩
  | some b =>
    obtain ⟨hb, hloc⟩ := (h b).1 rfl
    refine planted?_plantAll_of_mem hb hloc (fun b' hb' hloc' => ?_) t
    exact (Option.some.inj ((h b').2 ⟨hb', hloc'⟩)).symm

/-- After a file has been cleared and planted anew, it has what the registry wants in it; the other
files are as they were. -/
theorem planted?_reconciled (t : Tracer) {g : Registry} (hg : g.Sound) (f k : SourceFile)
    (n : UInt32) :
    ((t.clearFile f).plantAll (g.enabledOf f)).planted? k n =
      if k = f then (g.wanted? f n).map Planted.ofBreakpoint else t.planted? k n := by
  split
  · next hk =>
    subst hk
    have hlisted : ∀ b, g.wanted? k n = some b ↔ b ∈ g.enabledOf k ∧ b.location = ⟨k, some n⟩ := by
      intro b
      rw [hg.wanted?_iff_mem_enabled, Registry.mem_enabledOf_iff_mem_enabled, and_assoc]
      exact and_congr_right fun _ =>
        ⟨fun hloc => ⟨congrArg Location.file hloc, hloc⟩, fun hloc => hloc.2⟩
    rw [planted?_plantAll hlisted, planted?_clearFile, if_pos rfl, Option.or_none]
  · next hk =>
    -- nothing that is planted belongs to another file
    rw [planted?_plantAll_of_not_mem, planted?_clearFile, if_neg hk]
    intro b hb hloc
    have hfile : b.file = f := (Registry.mem_enabledOf_iff_mem_enabled.1 hb).2
    exact hk ((congrArg Location.file hloc).symm.trans hfile)

/-- After all enabled entries have been planted, each wanted line has its breakpoint. -/
theorem planted?_installed (t : Tracer) {g : Registry} (hg : g.Sound) (f : SourceFile)
    (n : UInt32) :
    (t.plantAll g.enabled).planted? f n =
      ((g.wanted? f n).map Planted.ofBreakpoint).or (t.planted? f n) :=
  planted?_plantAll (fun _ => hg.wanted?_iff_mem_enabled) t

/-- Clearing a file and planting what the registry wants in it gives it the wanted conditions. -/
theorem condition?_reconciled (t : Tracer) {g : Registry} (hg : g.Sound) (f k : SourceFile)
    (n : UInt32) :
    ((t.clearFile f).plantAll (g.enabledOf f)).condition? k n =
      if k = f then (g.wanted? f n).map (·.condition) else t.condition? k n := by
  rw [condition?, planted?_reconciled t hg]
  split
  · rw [Option.map_map]
    rfl
  · rfl

theorem Lasting.reconciled {t : Tracer} {g : Registry} (ht : t.Lasting) (hg : g.Lasting)
    (f : SourceFile) : ((t.clearFile f).plantAll (g.enabledOf f)).Lasting :=
  (ht.clearFile f).plantAll fun b hb =>
    have ⟨l, hl⟩ := (Registry.mem_enabledOf_iff.1 hb).1
    hg l b hl

end Tracer

/-- The table of the tracer has a breakpoint at exactly the wanted lines of a file, each with the
condition of its entry. -/
def Relay.InLine (r : Relay) (f : SourceFile) : Prop :=
  ∀ n, r.native.tracer.condition? f n = (r.registry.wanted? f n).map (·.condition)

/-- A table that has a breakpoint at exactly the wanted lines of a file lists these lines. -/
theorem Tracer.linesOf_eq {t : Tracer} {g : Registry} (hg : g.Sound) {f : SourceFile}
    (h : ∀ n, (t.planted? f n).isSome ↔ (g.wanted? f n).isSome) :
    t.linesOf f = knownLines (g.enabledOf f) := by
  refine (t.pairwise_linesOf f).eq_of_mem_iff (hg.pairwise_knownLines f) fun n => ?_
  rw [mem_linesOf_iff, hg.mem_knownLines_iff_wanted?, h]

theorem Relay.InLine.isSome_iff {r : Relay} {f : SourceFile} (h : r.InLine f) (n : UInt32) :
    (r.native.tracer.planted? f n).isSome ↔ (r.registry.wanted? f n).isSome := by
  have hn := congrArg Option.isSome (h n)
  rw [Tracer.condition?, Option.isSome_map, Option.isSome_map] at hn
  rw [hn]

/-- In a file that is in line, a wanted line has its condition, ignores no hits and stays. -/
theorem Relay.InLine.planted?_eq {r : Relay} {f : SourceFile} (h : r.InLine f)
    (hl : r.native.tracer.Lasting) {n : UInt32} {b : Breakpoint}
    (hb : r.registry.wanted? f n = some b) :
    ∃ hits, r.native.tracer.planted? f n = some ⟨b.condition, 0, false, hits⟩ := by
  have hn := h n
  rw [hb, Tracer.condition?, Option.map_some, Option.map_eq_some_iff] at hn
  obtain ⟨p, hp, hcondition⟩ := hn
  obtain ⟨hignore, htemporary⟩ := hl f n p hp
  obtain ⟨condition, ignore, temporary, hits⟩ := p
  subst hcondition hignore htemporary
  exact ⟨hits, hp⟩

end DebugRelay
