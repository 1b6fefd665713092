import DebugRelay.Proofs.OrderedMap
import DebugRelay.Tracer

/-!
# The breakpoint table of a tracer

Each step of the tracer is described by what it does to the table: `planted?_plant`,
`planted?_clearFile` and `planted?_plantAll` for the commands, `planted?_hit` and `Lasting.line` for
the reports of the engine. A table is *lasting* if its breakpoints ignore no hits and are not temporary; tracing
changes nothing in such a table but the counted hits, and a line stops for a breakpoint exactly
where one is planted (`Lasting.stops_iff`).
-/

namespace DebugRelay.Tracer

/-- What a breakpoint looks like in the table before its first hit. -/
def Planted.ofBreakpoint (b : Breakpoint) : Planted :=
  ⟨b.condition, b.hitCount, b.temporary, 0⟩

/-- Plants the breakpoints whose line is known, in their order. -/
def plantAll (t : Tracer) : List Breakpoint → Tracer
  | [] => t
  | b :: rest =>
    match b.line with
    | some line => (t.plant line b).plantAll rest
    | none => t.plantAll rest

/-! ## Lookups in the table -/

theorem planted?_plant (t : Tracer) (line n : UInt32) (b : Breakpoint) (f : SourceFile) :
    (t.plant line b).planted? f n =
      if f = b.file ∧ n = line then some (.ofBreakpoint b) else t.planted? f n := by
  rw [planted?, plant, OrderedMap.find?_insert]
  simp only [Spot.mk.injEq]
  rfl

theorem planted?_clearFile (t : Tracer) (f g : SourceFile) (n : UInt32) :
    (t.clearFile f).planted? g n = if g = f then none else t.planted? g n := by
  rw [planted?, clearFile, OrderedMap.find?_filter]
  by_cases h : g = f
  · cases t.table.find? ⟨g, n⟩ <;> simp [h]
  · rw [if_neg h, planted?]
    cases t.table.find? ⟨g, n⟩ <;> simp [h]

theorem planted?_plantAll_of_not_mem {bs : List Breakpoint} {f : SourceFile} {n : UInt32}
    (h : ∀ b ∈ bs, b.location ≠ ⟨f, some n⟩) (t : Tracer) :
    (t.plantAll bs).planted? f n = t.planted? f n := by
  induction bs generalizing t with
  | nil => rfl
  | cons b rest ih =>
    have ih' := ih fun b' hb' => h b' (List.mem_cons_of_mem _ hb')
    have hb := h b List.mem_cons_self
    unfold plantAll
    split
    · next line hline =>
      rw [ih', planted?_plant, if_neg]
      rintro ⟨rfl, rfl⟩
      exact hb (by rw [Breakpoint.location, hline])
    · exact ih' t

/-- A listed breakpoint is planted, if no other of the list has its place. -/
theorem planted?_plantAll_of_mem {bs : List Breakpoint} {b : Breakpoint} {f : SourceFile}
    {n : UInt32} (hb : b ∈ bs) (hloc : b.location = ⟨f, some n⟩)
    (huniq : ∀ b' ∈ bs, b'.location = ⟨f, some n⟩ → b' = b) (t : Tracer) :
    (t.plantAll bs).planted? f n = some (.ofBreakpoint b) := by
  induction bs generalizing t with
  | nil => simp at hb
  | cons c rest ih =>
    have huniq' : ∀ b' ∈ rest, b'.location = ⟨f, some n⟩ → b' = b :=
      fun b' hb' => huniq b' (List.mem_cons_of_mem _ hb')
    by_cases hrest : b ∈ rest
    · unfold plantAll
      split
      · exact ih hrest huniq' _
      · exact ih hrest huniq' t
    -- `b` is not listed again, so nothing planted later takes its place
    · obtain rfl : b = c := (List.mem_cons.1 hb).resolve_right hrest
      have hnone : ∀ b' ∈ rest, b'.location ≠ ⟨f, some n⟩ := by
        intro b' hb' hloc'
        exact hrest (huniq' b' hb' hloc' ▸ hb')
      rw [Breakpoint.location, Location.mk.injEq] at hloc
      obtain ⟨rfl, hline⟩ := hloc
      simp only [plantAll, hline]
      rw [planted?_plantAll_of_not_mem hnone, planted?_plant, if_pos ⟨rfl, rfl⟩]

theorem mem_linesOf_iff {t : Tracer} {f : SourceFile} {n : UInt32} :
    n ∈ t.linesOf f ↔ (t.planted? f n).isSome := by
  simp only [linesOf, List.mem_map, List.mem_filter, decide_eq_true_iff]
  constructor
  · rintro ⟨⟨f', n'⟩, ⟨hs, rfl⟩, rfl⟩
    exact OrderedMap.mem_keys_iff.1 hs
  · intro h
    exact ⟨⟨f, n⟩, ⟨OrderedMap.mem_keys_iff.2 h, rfl⟩, rfl⟩

theorem pairwise_linesOf (t : Tracer) (f : SourceFile) : (t.linesOf f).Pairwise (· < ·) := by
  rw [linesOf, List.pairwise_map]
  refine (t.table.pairwise_keys.filter _).imp_of_mem fun {a b} ha hb hlt => ?_
  obtain ⟨fa, na⟩ := a
  obtain ⟨fb, nb⟩ := b
  simp only [List.mem_filter, decide_eq_true_iff] at ha hb
  obtain ⟨-, rfl⟩ := ha
  obtain ⟨-, rfl⟩ := hb
  change compareLex (compareOn Spot.file) (compareOn Spot.line) _ _ = _ at hlt
  simp only [compareLex, compareOn, Std.ReflCmp.compare_self] at hlt
  exact Std.compare_eq_lt.1 hlt

/-! ## Reports of the engine -/

theorem hit_of_none {t : Tracer} {f : SourceFile} {n : UInt32} (h : t.planted? f n = none) :
    t.hit f n = (t, false) := by
  rw [planted?] at h
  simp only [hit, h]

theorem hit_of_some {t : Tracer} {f : SourceFile} {n : UInt32} {p : Planted}
    (h : t.planted? f n = some p) :
    t.hit f n =
      if 0 < p.ignore then
        ({ t with table := t.table.insert ⟨f, n⟩
                    { p with ignore := p.ignore - 1, hits := p.hits + 1 } }, false)
      else if p.temporary then ({ t with table := t.table.erase ⟨f, n⟩ }, true)
      else ({ t with table := t.table.insert ⟨f, n⟩ { p with hits := p.hits + 1 } }, true) := by
  rw [planted?] at h
  simp only [hit, h]

/-- What a check leaves of a breakpoint in the table: an ignored hit is counted off, and a temporary
breakpoint goes with its first stop. -/
def Planted.next? (p : Planted) : Option Planted :=
  if 0 < p.ignore then some { p with ignore := p.ignore - 1, hits := p.hits + 1 }
  else if p.temporary then none
  else some { p with hits := p.hits + 1 }

theorem planted?_hit (t : Tracer) (f g : SourceFile) (n m : UInt32) :
    (t.hit f n).1.planted? g m =
      if g = f ∧ m = n then (t.planted? f n).bind Planted.next? else t.planted? g m := by
  have hspot : (⟨g, m⟩ : Spot) = ⟨f, n⟩ ↔ g = f ∧ m = n := by simp
  cases hp : t.planted? f n with
  | none =>
    rw [hit_of_none hp]
    split
    · next h =>
      rw [h.1, h.2, hp]
      rfl
    · rfl
  | some p =>
    rw [hit_of_some hp, Option.bind_some, Planted.next?]
    -- each of the three outcomes is one update of the table at the spot
    by_cases hignore : 0 < p.ignore
    · rw [if_pos hignore, if_pos hignore]
      simp only [planted?, OrderedMap.find?_insert, hspot]
    · rw [if_neg hignore, if_neg hignore]
      cases p.temporary with
      | true => simp only [planted?, OrderedMap.find?_erase, hspot, if_true]
      | false =>
        simp only [planted?, OrderedMap.find?_insert, hspot, Bool.false_eq_true, if_false]

theorem hit_snd (t : Tracer) (f : SourceFile) (n : UInt32) :
    (t.hit f n).2 = (t.planted? f n).any fun p => decide ¬ 0 < p.ignore := by
  cases hp : t.planted? f n with
  | none =>
    rw [hit_of_none hp]
    rfl
  | some p =>
    rw [hit_of_some hp, Option.any_some]
    by_cases hignore : 0 < p.ignore
    · simp only [hignore, if_true, not_true, decide_false]
    · rw [if_neg hignore, decide_eq_true hignore]
      split <;> rfl

/-- Counting a hit changes nothing but the table. -/
theorem hit_eq (t : Tracer) (f : SourceFile) (n : UInt32) :
    ∃ table, (t.hit f n).1 = { t with table := table } := by
  cases hp : t.planted? f n with
  | none => exact ⟨t.table, by rw [hit_of_none hp]⟩
  | some p =>
    rw [hit_of_some hp]
    split
    · exact ⟨_, rfl⟩
    · split <;> exact ⟨_, rfl⟩

theorem reasonHere_fst (t : Tracer) (f : SourceFile) (n : UInt32) :
    (t.reasonHere f n).1 = (t.hit f n).1 := by
  unfold reasonHere
  simp only
  split
  · rfl
  · split <;> rfl

/-- A line is the occasion of a stop at the start or at a load, or it is looked at for itself. -/
theorem reason_cases (t : Tracer) (f : SourceFile) (n : UInt32) :
    ∃ first load,
      t.reason f n = ({ t with atFirstLine := first, loadPending := load }, some .startup) ∨
      t.reason f n = ({ t with atFirstLine := first, loadPending := load }, some .scriptLoad) ∨
      t.reason f n = { t with atFirstLine := first, loadPending := load }.reasonHere f n := by
  unfold reason
  split
  · simp only
    split
    · exact ⟨_, _, Or.inl rfl⟩
    · exact ⟨_, _, Or.inr (Or.inr rfl)⟩
  · split
    · exact ⟨_, _, Or.inr (Or.inl rfl)⟩
    · exact ⟨t.atFirstLine, t.loadPending, Or.inr (Or.inr rfl)⟩

/-- Looking for a reason to stop changes the table and the two flags for first lines only. -/
theorem reason_eq (t : Tracer) (f : SourceFile) (n : UInt32) :
    ∃ table first load, (t.reason f n).1 =
      { t with table := table, atFirstLine := first, loadPending := load } := by
  obtain ⟨first, load, h | h | h⟩ := t.reason_cases f n
  · exact ⟨t.table, first, load, by rw [h]⟩
  · exact ⟨t.table, first, load, by rw [h]⟩
  · obtain ⟨table, ht⟩ := hit_eq { t with atFirstLine := first, loadPending := load } f n
    exact ⟨table, first, load, by rw [h, reasonHere_fst, ht]⟩

/-- What a traced line can come to. -/
theorem line_cases (t : Tracer) (stack : List Frame) :
    (t.line stack = (t, .passed .continue_) ∧ top? stack = none) ∨
    (t.line stack = (t, .passed .quit) ∧ t.quitting = true) ∨
    ∃ f n, top? stack = some (f, n) ∧ t.quitting = false ∧
      ((t.line stack = ((t.reason f n).1, .passed .continue_) ∧ (t.reason f n).2 = none) ∨
        ∃ reason, (t.reason f n).2 = some reason ∧
          t.line stack =
            ({ (t.reason f n).1 with suspended := true, release := none, mode := .free },
              .stopped reason)) := by
  unfold line
  cases htop : top? stack with
  | none => exact Or.inl ⟨rfl, rfl⟩
  | some place =>
    obtain ⟨f, n⟩ := place
    cases hquit : t.quitting with
    | true => exact Or.inr (Or.inl ⟨by simp, rfl⟩)
    | false =>
      refine Or.inr (Or.inr ⟨f, n, rfl, rfl, ?_⟩)
      cases hr : t.reason f n with
      | mk t' reason =>
        cases reason with
        | none => exact Or.inl ⟨by simp [hr], rfl⟩
        | some reason => exact Or.inr ⟨reason, rfl, by simp [hr]⟩

theorem observed_line (t : Tracer) (stack : List Frame) :
    (t.line stack).1.observed = t.observed := by
  rcases t.line_cases stack with
    ⟨hl, -⟩ | ⟨hl, -⟩ | ⟨f, n, -, -, ⟨hl, -⟩ | ⟨reason, -, hl⟩⟩
  · rw [hl]
  · rw [hl]
  · obtain ⟨table, first, load, hr⟩ := t.reason_eq f n
    rw [hl, hr]
  · obtain ⟨table, first, load, hr⟩ := t.reason_eq f n
    rw [hl, hr]

/-- With a file on top and nobody quitting, a line stops for the reason found. -/
theorem line_eq_stopped_iff (t : Tracer) {stack : List Frame} {f : SourceFile} {n : UInt32}
    (htop : top? stack = some (f, n)) (hquit : t.quitting = false) (reason : StopReason) :
    (t.line stack).2 = .stopped reason ↔ (t.reason f n).2 = some reason := by
  simp only [line, htop, hquit, Bool.false_eq_true, if_false]
  cases t.reason f n with
  | mk t' found => cases found <;> simp

/-- Parking the thread leaves the table as the search for a reason left it. -/
theorem planted?_line (t : Tracer) {stack : List Frame} {f : SourceFile} {n : UInt32}
    (htop : top? stack = some (f, n)) (hquit : t.quitting = false) (g : SourceFile) (m : UInt32) :
    (t.line stack).1.planted? g m = (t.reason f n).1.planted? g m := by
  simp only [line, htop, hquit, Bool.false_eq_true, if_false]
  cases t.reason f n with
  | mk t' reason => cases reason <;> rfl

/-! ## Lasting tables -/

/-- No breakpoint ignores hits or goes with its first stop. -/
def Lasting (t : Tracer) : Prop :=
  ∀ f n p, t.planted? f n = some p → p.ignore = 0 ∧ p.temporary = false

/-- The condition of the breakpoint at a line, if there is a breakpoint. -/
def condition? (t : Tracer) (f : SourceFile) (n : UInt32) : Option (Option String) :=
  (t.planted? f n).map (·.condition)

section Lasting

variable {t : Tracer}

theorem Lasting.plantAll {bs : List Breakpoint} (h : t.Lasting)
    (hbs : ∀ b ∈ bs, b.hitCount = 0 ∧ b.temporary = false) : (t.plantAll bs).Lasting := by
  induction bs generalizing t with
  | nil => exact h
  | cons b rest ih =>
    have hrest : ∀ b' ∈ rest, b'.hitCount = 0 ∧ b'.temporary = false :=
      fun b' hb' => hbs b' (List.mem_cons_of_mem _ hb')
    unfold Tracer.plantAll
    split
    · next line _ =>
      refine ih (fun f n p hp => ?_) hrest
      rw [planted?_plant] at hp
      split at hp
      · rw [Option.some.injEq] at hp
        rw [← hp]
        exact hbs b List.mem_cons_self
      · exact h f n p hp
    · exact ih h hrest

theorem Lasting.clearFile (h : t.Lasting) (f : SourceFile) : (t.clearFile f).Lasting := by
  intro g n p hp
  rw [planted?_clearFile] at hp
  split at hp
  · simp at hp
  · exact h g n p hp

theorem next?_of_lasting {p : Planted} (hignore : p.ignore = 0) (htemporary : p.temporary = false) :
    p.next? = some { p with hits := p.hits + 1 } := by
  rw [Planted.next?, hignore, htemporary]
  rfl

theorem Lasting.hit_snd (h : t.Lasting) (f : SourceFile) (n : UInt32) :
    (t.hit f n).2 = (t.planted? f n).isSome := by
  rw [Tracer.hit_snd]
  cases hp : t.planted? f n with
  | none => rfl
  | some p => simp [(h f n p hp).1]

theorem Lasting.hit (h : t.Lasting) (f : SourceFile) (n : UInt32) :
    (t.hit f n).1.Lasting ∧ ∀ g m, (t.hit f n).1.condition? g m = t.condition? g m := by
  constructor
  · intro g m q hq
    rw [planted?_hit] at hq
    split at hq
    · obtain ⟨p, hp, hnext⟩ := Option.bind_eq_some_iff.1 hq
      obtain ⟨hignore, htemporary⟩ := h f n p hp
      rw [next?_of_lasting hignore htemporary, Option.some.injEq] at hnext
      rw [← hnext]
      exact ⟨hignore, htemporary⟩
    · exact h g m q hq
  -- the hit is counted, and the condition stays
  · intro g m
    rw [condition?, condition?, planted?_hit]
    split
    · next hgm =>
      rw [hgm.1, hgm.2]
      cases hp : t.planted? f n with
      | none => rfl
      | some p =>
        obtain ⟨hignore, htemporary⟩ := h f n p hp
        rw [Option.bind_some, next?_of_lasting hignore htemporary]
        rfl
    · rfl

/-- Looking for a reason to stop keeps a lasting table and the conditions in it. -/
theorem Lasting.reason (h : t.Lasting) (f : SourceFile) (n : UInt32) :
    (t.reason f n).1.Lasting ∧ ∀ g m, (t.reason f n).1.condition? g m = t.condition? g m := by
  obtain ⟨first, load, hr | hr | hr⟩ := t.reason_cases f n
  · rw [hr]
    exact ⟨h, fun _ _ => rfl⟩
  · rw [hr]
    exact ⟨h, fun _ _ => rfl⟩
  · rw [hr, reasonHere_fst]
    exact Lasting.hit (t := { t with atFirstLine := first, loadPending := load }) h f n

theorem Lasting.line (h : t.Lasting) (stack : List Frame) :
    (t.line stack).1.Lasting ∧ ∀ g m, (t.line stack).1.condition? g m = t.condition? g m := by
  rcases t.line_cases stack with ⟨hl, -⟩ | ⟨hl, -⟩ | ⟨f, n, -, -, ⟨hl, -⟩ | ⟨reason, -, hl⟩⟩
  · rw [hl]
    exact ⟨h, fun _ _ => rfl⟩
  · rw [hl]
    exact ⟨h, fun _ _ => rfl⟩
  · rw [hl]
    exact h.reason f n
  · rw [hl]
    exact h.reason f n

theorem condition?_releaseIn (t : Tracer) (mode : Mode) (f : SourceFile) (n : UInt32) :
    (t.releaseIn mode).condition? f n = t.condition? f n := by
  unfold releaseIn
  split <;> rfl

theorem Lasting.releaseIn (h : t.Lasting) (mode : Mode) : (t.releaseIn mode).Lasting := by
  unfold Tracer.releaseIn
  split <;> exact h

theorem reasonHere_eq_breakpoint_iff (t : Tracer) (f : SourceFile) (n : UInt32) :
    (t.reasonHere f n).2 = some .breakpoint ↔ (t.hit f n).2 = true := by
  unfold reasonHere
  simp only
  split
  · next h => simp [h]
  · next h =>
    rw [Bool.not_eq_true] at h
    split <;> simp [h]

/-- In a lasting table, a line that is not the occasion of a stop at the start or at a load stops
for a breakpoint exactly if one is planted there. -/
theorem Lasting.stops_iff (h : t.Lasting) {stack : List Frame} {f : SourceFile} {n : UInt32}
    (htop : top? stack = some (f, n)) (hquit : t.quitting = false)
    (hstart : (t.line stack).2 ≠ .stopped .startup)
    (hload : (t.line stack).2 ≠ .stopped .scriptLoad) :
    (t.line stack).2 = .stopped .breakpoint ↔ (t.planted? f n).isSome := by
  rw [ne_eq, t.line_eq_stopped_iff htop hquit] at hstart hload
  rw [t.line_eq_stopped_iff htop hquit]
  obtain ⟨first, load, hr | hr | hr⟩ := t.reason_cases f n
  · rw [hr] at hstart
    exact absurd rfl hstart
  · rw [hr] at hload
    exact absurd rfl hload
  -- what is left is a line that is looked at for itself
  · rw [hr, reasonHere_eq_breakpoint_iff]
    rw [Lasting.hit_snd (t := { t with atFirstLine := first, loadPending := load }) h]
    rfl

end Lasting

end DebugRelay.Tracer
