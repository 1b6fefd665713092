import DebugRelay.Proofs.Tracer.Table

/-!
# Counting checks

A line of a script is *checked* if the tracer looks for a breakpoint there (`Tracer.Checks`): its
stop is not used up by the start of the script or the load of its file. The table keeps the count of
the checks since a breakpoint was planted: `Planted.afterChecks` is what is left of a breakpoint
after a number of them, and `Breakpoint.stopsIn` is how many of them stop the script. One traced
line takes both from one number to the next (`line_of_checks`), and no other line of the script
touches them (`line_of_not_checks`).
-/

namespace DebugRelay

/-- How many of the first `k` checks of a breakpoint stop the script: those after the ignored ones,
and only the first of these for a temporary breakpoint. -/
def Breakpoint.stopsIn (b : Breakpoint) (k : Nat) : Nat :=
  if b.temporary then min 1 (k - b.hitCount.toNat) else k - b.hitCount.toNat

/-- The check of a breakpoint that follows `k` others stops the script. -/
def Breakpoint.StopsAfter (b : Breakpoint) (k : Nat) : Prop :=
  b.hitCount.toNat ≤ k ∧ (b.temporary = true → k = b.hitCount.toNat)

instance (b : Breakpoint) (k : Nat) : Decidable (b.StopsAfter k) :=
  inferInstanceAs (Decidable (_ ∧ _))

theorem Breakpoint.stopsIn_succ (b : Breakpoint) (k : Nat) :
    b.stopsIn (k + 1) = b.stopsIn k + if b.StopsAfter k then 1 else 0 := by
  rw [stopsIn, stopsIn]
  by_cases hstops : b.StopsAfter k
  · rw [if_pos hstops]
    obtain ⟨hignored, hfirst⟩ := hstops
    split
    · next htemporary =>
      have hk := hfirst htemporary
      omega
    · omega
  · rw [if_neg hstops]
    split
    · have hk : k ≠ b.hitCount.toNat := fun heq => hstops ⟨heq.ge, fun _ => heq⟩
      omega
    · next htemporary =>
      have hk : ¬ b.hitCount.toNat ≤ k := fun hle => hstops ⟨hle, fun h => absurd h htemporary⟩
      omega

namespace Tracer

/-- What is in the table `k` checks after a breakpoint was planted. -/
def Planted.afterChecks (b : Breakpoint) (k : Nat) : Option Planted :=
  if b.temporary = true ∧ b.hitCount.toNat < k then none
  else some ⟨b.condition, .ofNat (b.hitCount.toNat - k), b.temporary, .ofNat k⟩

/-- The tracer looks for a breakpoint at the line that a stack is at. -/
def Checks (t : Tracer) (f : SourceFile) (n : UInt32) (stack : List Frame) : Prop :=
  top? stack = some (f, n) ∧ t.quitting = false ∧ (t.line stack).2 ≠ .stopped .startup ∧
    (t.line stack).2 ≠ .stopped .scriptLoad

instance (t : Tracer) (f : SourceFile) (n : UInt32) (stack : List Frame) :
    Decidable (t.Checks f n stack) :=
  inferInstanceAs (Decidable (_ ∧ _ ∧ _ ∧ _))

/-- The tracer stops for a breakpoint at the line that a stack is at. -/
def Stops (t : Tracer) (f : SourceFile) (n : UInt32) (stack : List Frame) : Prop :=
  top? stack = some (f, n) ∧ (t.line stack).2 = .stopped .breakpoint

instance (t : Tracer) (f : SourceFile) (n : UInt32) (stack : List Frame) :
    Decidable (t.Stops f n stack) :=
  inferInstanceAs (Decidable (_ ∧ _))

/-! ## Counts after checks -/

theorem Planted.afterChecks_zero (b : Breakpoint) :
    Planted.afterChecks b 0 = some (.ofBreakpoint b) := by
  rw [afterChecks, if_neg]
  · simp [ofBreakpoint]
  · simp

theorem map_ofBreakpoint (wanted : Option Breakpoint) :
    wanted.map Planted.ofBreakpoint = wanted.bind (Planted.afterChecks · 0) := by
  cases wanted with
  | none => rfl
  | some b => exact (Planted.afterChecks_zero b).symm

/-- How many hits a breakpoint still ignores does not wrap around. -/
theorem toNat_ignore (b : Breakpoint) (k : Nat) :
    (UInt32.ofNat (b.hitCount.toNat - k)).toNat = b.hitCount.toNat - k := by
  rw [UInt32.toNat_ofNat']
  have h := b.hitCount.toNat_lt
  omega

theorem ignore_pos_iff (b : Breakpoint) (k : Nat) :
    0 < UInt32.ofNat (b.hitCount.toNat - k) ↔ k < b.hitCount.toNat := by
  rw [UInt32.lt_iff_toNat_lt, toNat_ignore, UInt32.toNat_zero]
  omega

theorem ignore_succ {b : Breakpoint} {k : Nat} (h : k < b.hitCount.toNat) :
    UInt32.ofNat (b.hitCount.toNat - k) - 1 = UInt32.ofNat (b.hitCount.toNat - (k + 1)) := by
  have hstep : b.hitCount.toNat - k = (b.hitCount.toNat - (k + 1)) + 1 := by omega
  rw [hstep, UInt32.ofNat_add]
  simp

/-- A check takes what is left after `k` checks to what is left after one more. -/
theorem Planted.next?_afterChecks (b : Breakpoint) (k : Nat) :
    (Planted.afterChecks b k).bind Planted.next? = Planted.afterChecks b (k + 1) := by
  unfold afterChecks
  by_cases hgone : b.temporary = true ∧ b.hitCount.toNat < k
  · rw [if_pos hgone, if_pos ⟨hgone.1, by omega⟩]
    rfl
  · rw [if_neg hgone, Option.bind_some, next?]
    by_cases hignored : k < b.hitCount.toNat
    · rw [if_pos ((ignore_pos_iff b k).2 hignored), if_neg (by omega), ignore_succ hignored]
      rw [UInt32.ofNat_add]
      rfl
    -- nothing is left to be ignored, so a temporary breakpoint is at its first stop
    · rw [if_neg (mt (ignore_pos_iff b k).1 hignored)]
      cases htemporary : b.temporary with
      | true => simp; omega
      | false =>
        have hzero : b.hitCount.toNat - k = b.hitCount.toNat - (k + 1) := by omega
        simp [hzero]

/-- What is left after `k` checks ignores no more hits exactly if the next check stops. -/
theorem any_afterChecks (b : Breakpoint) (k : Nat) :
    ((Planted.afterChecks b k).any fun p => decide ¬ 0 < p.ignore) = decide (b.StopsAfter k) := by
  rw [Planted.afterChecks]
  by_cases hgone : b.temporary = true ∧ b.hitCount.toNat < k
  · have hpast : ¬ b.StopsAfter k := by
      intro h
      have hfirst := h.2 hgone.1
      omega
    rw [if_pos hgone, decide_eq_false hpast]
    rfl
  · rw [if_neg hgone, Option.any_some]
    simp only [ignore_pos_iff, not_lt]
    refine decide_eq_decide.2 ⟨fun h => ⟨h, fun htemporary => ?_⟩, And.left⟩
    have hleft : ¬ b.hitCount.toNat < k := fun hlt => hgone ⟨htemporary, hlt⟩
    omega

/-! ## Traced lines -/

variable {t : Tracer} {f : SourceFile} {n : UInt32} {stack : List Frame}

/-- Stopping for a breakpoint takes a check. -/
theorem Stops.checks (h : t.Stops f n stack) : t.Checks f n stack := by
  obtain ⟨htop, hstop⟩ := h
  refine ⟨htop, ?_, by simp [hstop], by simp [hstop]⟩
  cases hquit : t.quitting with
  | false => rfl
  | true => simp [line, htop, hquit] at hstop

theorem reasonHere_snd (t : Tracer) (f : SourceFile) (n : UInt32) :
    (t.reasonHere f n).2 ≠ some .startup ∧ (t.reasonHere f n).2 ≠ some .scriptLoad := by
  unfold reasonHere
  simp only
  split
  · simp
  · split <;> simp

/-- A line that is checked counts a hit, and stops for a breakpoint if the hit does. -/
theorem Checks.line (h : t.Checks f n stack) :
    (t.line stack).1.planted? f n = (t.hit f n).1.planted? f n ∧
      (t.Stops f n stack ↔ (t.hit f n).2 = true) := by
  obtain ⟨htop, hquit, hstart, hload⟩ := h
  rw [ne_eq, t.line_eq_stopped_iff htop hquit] at hstart hload
  obtain ⟨first, load, hr | hr | hr⟩ := t.reason_cases f n
  · rw [hr] at hstart
    exact absurd rfl hstart
  · rw [hr] at hload
    exact absurd rfl hload
  -- the two flags that were cleared before are no part of the table
  · constructor
    · rw [t.planted?_line htop hquit, hr, reasonHere_fst, planted?_hit, planted?_hit]
      rfl
    · rw [Stops, t.line_eq_stopped_iff htop hquit, hr, reasonHere_eq_breakpoint_iff, hit_snd,
        hit_snd]
      exact and_iff_right htop

/-- A check of a wanted breakpoint takes the table from the count of checks to the next, and stops
where the breakpoint says. -/
theorem Checks.line_of_wanted {wanted : Option Breakpoint} {k : Nat} (h : t.Checks f n stack)
    (hp : t.planted? f n = wanted.bind (Planted.afterChecks · k)) :
    (t.line stack).1.planted? f n = wanted.bind (Planted.afterChecks · (k + 1)) ∧
      (t.Stops f n stack ↔ ∃ b, wanted = some b ∧ b.StopsAfter k) := by
  rw [h.line.1, h.line.2, planted?_hit, if_pos ⟨rfl, rfl⟩, hit_snd, hp]
  cases wanted with
  | none => simp
  | some b =>
    rw [Option.bind_some, Planted.next?_afterChecks, any_afterChecks]
    simp

/-- A line that is not checked leaves the breakpoint at it as it is. -/
theorem line_of_not_checks (h : ¬ t.Checks f n stack) :
    (t.line stack).1.planted? f n = t.planted? f n := by
  rcases t.line_cases stack with ⟨hl, -⟩ | ⟨hl, -⟩ | ⟨g, m, htop, hquit, -⟩
  · rw [hl]
  · rw [hl]
  · rw [t.planted?_line htop hquit]
    obtain ⟨first, load, hr | hr | hr⟩ := t.reason_cases g m
    · rw [hr]
      rfl
    · rw [hr]
      rfl
    · rw [hr, reasonHere_fst, planted?_hit, if_neg]
      · rfl
      -- the line would be checked if it were the one in question
      · rintro ⟨rfl, rfl⟩
        obtain ⟨hstart, hload⟩ :=
          reasonHere_snd { t with atFirstLine := first, loadPending := load } f n
        rw [← hr] at hstart hload
        refine h ⟨htop, hquit, ?_, ?_⟩
        · rw [ne_eq, t.line_eq_stopped_iff htop hquit]
          exact hstart
        · rw [ne_eq, t.line_eq_stopped_iff htop hquit]
          exact hload

end Tracer

end DebugRelay
