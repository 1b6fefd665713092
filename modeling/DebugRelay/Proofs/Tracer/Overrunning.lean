import DebugRelay.Proofs.Tracer.Ignoring
import DebugRelay.Proofs.Tracer.Loading

/-!
# How far the hits of a breakpoint are counted

The table counts the checks of a planted breakpoint modulo `2 ^ 32`, and nothing ends the count
before that. A check *overruns* if its hit takes the count to a number that cannot be held. Which
checks of a breakpoint do so is a matter of their number alone (`act_overruns_iff`), so that a run
overruns as soon as it has enough of them (`overruns_iff`, `exists_overrunsAfter_iff`), and until
then the count is right (`overruns_after_two_pow`).
-/

namespace DebugRelay

/-- The hit of the check of a breakpoint that follows `k` others cannot be counted, and the
breakpoint is still there. -/
def Breakpoint.OverrunsAfter (b : Breakpoint) (k : Nat) : Prop :=
  2 ^ 32 ∣ k + 1 ∧ ¬ (b.temporary = true ∧ b.hitCount.toNat < k)

/-- A check that overruns is one that stops: no more hits are ignored than can be counted. -/
theorem Breakpoint.OverrunsAfter.stopsAfter {b : Breakpoint} {k : Nat} (h : b.OverrunsAfter k) :
    b.StopsAfter k := by
  obtain ⟨hdvd, hstays⟩ := h
  have hk : 2 ^ 32 ≤ k + 1 := Nat.le_of_dvd k.succ_pos hdvd
  have hignored : b.hitCount.toNat ≤ k := by
    have hlt := b.hitCount.toNat_lt
    omega
  refine ⟨hignored, fun htemporary => ?_⟩
  have hlast : ¬ b.hitCount.toNat < k := fun hlt => hstays ⟨htemporary, hlt⟩
  omega

/-- One of the first `k` checks overruns if there are enough of them, unless the breakpoint goes
before. -/
theorem Breakpoint.exists_overrunsAfter_iff {b : Breakpoint} {k : Nat} :
    (∃ j < k, b.OverrunsAfter j) ↔
      2 ^ 32 ≤ k ∧ (b.temporary = true → b.hitCount.toNat + 1 = 2 ^ 32) := by
  have hlt := b.hitCount.toNat_lt
  constructor
  · rintro ⟨j, hjk, hover⟩
    have hj : 2 ^ 32 ≤ j + 1 := Nat.le_of_dvd j.succ_pos hover.1
    refine ⟨by omega, fun htemporary => ?_⟩
    have hlast := hover.stopsAfter.2 htemporary
    omega
  · rintro ⟨hk, htemporary⟩
    refine ⟨2 ^ 32 - 1, by omega, dvd_rfl, fun hgone => ?_⟩
    have hlargest := htemporary hgone.1
    omega

namespace Tracer

/-- The act checks a line, and the breakpoint there has counted as many hits as it can. -/
def Act.Overruns (t : Tracer) (f : SourceFile) (n : UInt32) (a : Act) : Prop :=
  a.Checks t f n ∧ ∃ p, t.planted? f n = some p ∧ 2 ^ 32 ≤ p.hits.toNat + 1

/-- One of a list of acts, the first of them done first, overruns. -/
def Overruns (t : Tracer) (f : SourceFile) (n : UInt32) : List Act → Prop
  | [] => False
  | a :: rest => a.Overruns t f n ∨ (t.act a).Overruns f n rest

variable {t : Tracer} {f : SourceFile} {n : UInt32} {b : Breakpoint}

/-- The hits of what is left after `k` checks are `k`, up to a multiple of `2 ^ 32`. -/
theorem toNat_hits_of_afterChecks {k : Nat} {p : Planted} (h : Planted.afterChecks b k = some p) :
    p.hits.toNat = k % 2 ^ 32 := by
  rw [Planted.afterChecks] at h
  split at h
  · simp at h
  · rw [← Option.some.inj h]
    exact UInt32.toNat_ofNat'

/-- The hits that stand in the table are right as long as no check overran. -/
theorem toNat_hits_eq_iff {k : Nat} {p : Planted} (h : Planted.afterChecks b k = some p) :
    p.hits.toNat = k ↔ ¬ ∃ j < k, b.OverrunsAfter j := by
  have htemporary : b.temporary = true → k < 2 ^ 32 := by
    intro htemporary
    have hstays : ¬ b.hitCount.toNat < k := by
      intro hlt
      simp [Planted.afterChecks, htemporary, hlt] at h
    have hlt := b.hitCount.toNat_lt
    omega
  rw [toNat_hits_of_afterChecks h, Breakpoint.exists_overrunsAfter_iff, not_and]
  constructor
  · intro hright hk
    omega
  · intro hright
    refine Nat.mod_eq_of_lt ?_
    by_contra hk
    exact hright (not_lt.1 hk) fun ht => absurd (htemporary ht) hk

/-- After `k` checks the count is at its end exactly if the next check overruns. -/
theorem exists_full_iff {k : Nat} :
    (∃ p, Planted.afterChecks b k = some p ∧ 2 ^ 32 ≤ p.hits.toNat + 1) ↔ b.OverrunsAfter k := by
  have hdvd : 2 ^ 32 ∣ k + 1 ↔ 2 ^ 32 ≤ k % 2 ^ 32 + 1 := by omega
  rw [Breakpoint.OverrunsAfter, hdvd]
  constructor
  · rintro ⟨p, hp, hfull⟩
    rw [toNat_hits_of_afterChecks hp] at hfull
    refine ⟨hfull, fun hgone => ?_⟩
    simp [Planted.afterChecks, if_pos hgone] at hp
  · rintro ⟨hfull, hstays⟩
    obtain ⟨p, hp, -⟩ := (exists_of_afterChecks b k).2 hstays
    refine ⟨p, hp, ?_⟩
    rwa [toNat_hits_of_afterChecks hp]

theorem act_overruns_iff {a : Act} {k : Nat} (hp : t.planted? f n = Planted.afterChecks b k) :
    a.Overruns t f n ↔ a.Checks t f n ∧ b.OverrunsAfter k := by
  rw [Act.Overruns, hp, exists_full_iff]

/-! ## A line that is traced over and over -/

/-- Nobody quits, and neither the start nor a load is the occasion of a stop. -/
structure Watching (t : Tracer) : Prop where
  quitting : t.quitting = false
  start : t.stopsAtStart = false
  load : t.loadPending = false

/-- A start stop was wanted. -/
theorem stopsAtStart_of_startup (h : (t.reason f n).2 = some .startup) : t.stopsAtStart = true := by
  unfold reason at h
  split at h
  · simp only at h
    split at h
    · next hwanted => exact hwanted
    · exact absurd h (reasonHere_snd _ f n).1
  · split at h
    · simp at h
    · exact absurd h (reasonHere_snd _ f n).1

theorem stopsAtStart_line (t : Tracer) (stack : List Frame) :
    (t.line stack).1.stopsAtStart = t.stopsAtStart := by
  cases hline : (t.line stack).2 with
  | passed outcome =>
    obtain ⟨table, first, load, heq⟩ := line_eq_of_passed hline
    rw [heq]
  | stopped reason =>
    obtain ⟨-, table, first, load, heq⟩ := line_eq_of_stopped hline
    rw [heq]

/-- While the tracer watches, each traced line is checked. -/
theorem Watching.checks {stack : List Frame} (h : t.Watching) (htop : top? stack = some (f, n)) :
    t.Checks f n stack := by
  refine ⟨htop, h.quitting, ?_, ?_⟩
  · rw [ne_eq, t.line_eq_stopped_iff htop h.quitting]
    intro hstart
    simpa [h.start] using stopsAtStart_of_startup hstart
  · rw [ne_eq, t.line_eq_stopped_iff htop h.quitting]
    intro hload
    simpa [h.load] using loadPending_of_scriptLoad hload

/-- A traced line does not keep the tracer from watching. -/
theorem Watching.line {stack : List Frame} (h : t.Watching) (htop : top? stack = some (f, n)) :
    (t.line stack).1.Watching where
  quitting := (t.quitting_line stack).trans h.quitting
  start := (t.stopsAtStart_line stack).trans h.start
  load := loadPending_line h.quitting ((counts_iff stack).2 (by rw [htop, Option.isSome_some]))

theorem Watching.checksOf_replicate {stack : List Frame} (h : t.Watching)
    (htop : top? stack = some (f, n)) (k : Nat) :
    t.checksOf f n (List.replicate k (.report (.line stack))) = k := by
  induction k generalizing t with
  | zero => rfl
  | succ k ih =>
    have hchecks : (Act.report (.line stack)).Checks t f n := h.checks htop
    rw [List.replicate_succ, checksOf, if_pos hchecks]
    exact congrArg (· + 1) (ih (h.line htop))

/-! ## How far a run counts -/

/-- A run overruns exactly if one of its checks does, counted from those before the run. -/
theorem overruns_iff {acts : List Act} {k : Nat} (hr : ∀ a ∈ acts, ¬ a.Replants f n)
    (hp : t.planted? f n = Planted.afterChecks b k) :
    t.Overruns f n acts ↔ ∃ j < k + t.checksOf f n acts, k ≤ j ∧ b.OverrunsAfter j := by
  induction acts generalizing t k with
  | nil =>
    refine iff_of_false id ?_
    rintro ⟨j, hjk, hkj, -⟩
    exact absurd hjk (not_lt.2 hkj)
  | cons a rest ih =>
    have hnext := planted?_act (hr a List.mem_cons_self) hp
    have hrest := ih (fun a' ha' => hr a' (List.mem_cons_of_mem _ ha')) hnext
    rw [Overruns, act_overruns_iff hp, hrest, checksOf]
    by_cases hc : a.Checks t f n
    · simp only [hc, if_true, true_and]
      constructor
      · rintro (hover | ⟨j, hj, hkj, hover⟩)
        · exact ⟨k, by omega, le_rfl, hover⟩
        · exact ⟨j, by omega, by omega, hover⟩
      · rintro ⟨j, hj, hkj, hover⟩
        rcases hkj.eq_or_lt with rfl | hlt
        · exact Or.inl hover
        · exact Or.inr ⟨j, by omega, by omega, hover⟩
    · simp only [hc, if_false, false_and, false_or, Nat.add_zero]

/-- A breakpoint that is set overruns in the course of a run exactly if one of its checks does. -/
theorem overruns_of_setBreak (t : Tracer) (hn : b.line = some n) {acts : List Act}
    (hr : ∀ a ∈ acts, ¬ a.Replants b.file n) :
    (t.act (.command (.setBreak b))).Overruns b.file n acts ↔
      ∃ j < (t.act (.command (.setBreak b))).checksOf b.file n acts, b.OverrunsAfter j := by
  rw [overruns_iff hr (t.planted?_setBreak hn)]
  simp only [Nat.zero_add, Nat.zero_le, true_and]

/-- A breakpoint is set, and then anything is done that neither sets a breakpoint at its line nor
clears its file, in the course of which its line is checked `k` times. One of these checks overran
exactly if there were `2 ^ 32` or more; a temporary breakpoint comes that far only with the largest
number of hits to be ignored. While the breakpoint is in the table its hits are `k` modulo
`2 ^ 32`, and so the number of checks exactly if none of them overran. A line that overruns is one
that stops for the breakpoint. -/
theorem overruns_after_two_pow (t : Tracer) (hn : b.line = some n) {acts : List Act}
    (hr : ∀ a ∈ acts, ¬ a.Replants b.file n) :
    let s := t.act (.command (.setBreak b))
    let u := s.after acts
    let k := s.checksOf b.file n acts
    (s.Overruns b.file n acts ↔
      2 ^ 32 ≤ k ∧ (b.temporary = true → b.hitCount.toNat + 1 = 2 ^ 32)) ∧
    (∀ p, u.planted? b.file n = some p →
      p.hits.toNat = k % 2 ^ 32 ∧ (p.hits.toNat = k ↔ ¬ s.Overruns b.file n acts)) ∧
    ∀ stack, (Act.report (.line stack)).Overruns u b.file n → u.Stops b.file n stack := by
  intro s u k
  have hu : u.planted? b.file n = Planted.afterChecks b k := by
    have hafter := planted?_after hr (t.planted?_setBreak hn)
    rwa [Nat.zero_add] at hafter
  have hover : s.Overruns b.file n acts ↔ ∃ j < k, b.OverrunsAfter j := t.overruns_of_setBreak hn hr
  refine ⟨hover.trans Breakpoint.exists_overrunsAfter_iff, fun p hp => ?_, fun stack hstack => ?_⟩
  · rw [hu] at hp
    exact ⟨toNat_hits_of_afterChecks hp, (toNat_hits_eq_iff hp).trans (not_congr hover.symm)⟩
  · obtain ⟨hchecks, hafter⟩ := (act_overruns_iff hu).1 hstack
    exact (hchecks.line_of_planted hu).2.2 hafter.stopsAfter

/-- The pass over the line of the breakpoint that is ignored once is counted. -/
theorem counted_sampleIgnored :
    (∀ a ∈ samplePass, ¬ a.Replants sampleIgnored.file 1) ∧
      ¬ sampleIgnoring.Overruns sampleIgnored.file 1 samplePass := by
  have hothers : ∀ a ∈ samplePass, ¬ a.Replants sampleIgnored.file 1 := by
    simp [samplePass, Act.Replants, Breakpoint.atLine]
  obtain ⟨hover, -, -⟩ := overruns_after_two_pow ({} : Tracer) (b := sampleIgnored) rfl hothers
  refine ⟨hothers, fun h => ?_⟩
  have hk := (hover.1 h).1
  rw [← sampleIgnoring, checksOf_samplePass] at hk
  omega

/-- A breakpoint at line 1 that ignores as many hits as it can be told to. -/
def samplePatient : Breakpoint := ⟨⟨[]⟩, some 1, none, 4294967295, false, true, none⟩

/-- The tracer after it was set. -/
def sampleWatching : Tracer := ({} : Tracer).act (.command (.setBreak samplePatient))

/-- The line is traced until the breakpoint is due. Then it has no hits. -/
theorem overruns_samplePatient :
    let acts := List.replicate (2 ^ 32) (Act.report (.line sampleFirst))
    (∀ a ∈ acts, ¬ a.Replants samplePatient.file 1) ∧
      sampleWatching.checksOf samplePatient.file 1 acts = 2 ^ 32 ∧
      sampleWatching.Overruns samplePatient.file 1 acts ∧
      ∃ p, (sampleWatching.after acts).planted? samplePatient.file 1 = some p ∧
        p.hits.toNat = 0 := by
  intro acts
  have hothers : ∀ a ∈ acts, ¬ a.Replants samplePatient.file 1 := by
    intro a ha
    obtain rfl := List.eq_of_mem_replicate ha
    exact id
  have hwatching : sampleWatching.Watching := ⟨rfl, rfl, rfl⟩
  have hchecks : sampleWatching.checksOf samplePatient.file 1 acts = 2 ^ 32 :=
    hwatching.checksOf_replicate rfl _
  refine ⟨hothers, hchecks, ?_, ?_⟩
  · rw [sampleWatching, overruns_of_setBreak _ rfl hothers, ← sampleWatching, hchecks]
    exact Breakpoint.exists_overrunsAfter_iff.2 ⟨le_rfl, by simp [samplePatient]⟩
  · have hafter := planted?_after hothers (({} : Tracer).planted?_setBreak (b := samplePatient) rfl)
    rw [← sampleWatching, hchecks] at hafter
    obtain ⟨p, hp, -⟩ := (exists_of_afterChecks samplePatient (0 + 2 ^ 32)).2 (by simp [samplePatient])
    exact ⟨p, hafter.trans hp, toNat_hits_of_afterChecks hp⟩

end Tracer

end DebugRelay
