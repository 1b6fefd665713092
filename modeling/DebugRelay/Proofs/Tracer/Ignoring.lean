import Mathlib
import DebugRelay.Proofs.Tracer.Acts
import DebugRelay.Proofs.Tracer.Counting

/-!
# How often a planted breakpoint is ignored

What becomes of one breakpoint in a tracer, whatever else is done to it. An act *replants* a line if
it sets a breakpoint there or clears its file, and *checks* it if it traces it and its stop is not
used up by the start of the script or the load of its file. Between two acts that replant the line,
the acts that check it are all that the breakpoint depends on (`planted?_act`), so that their number
tells what is left of it and whether the next check stops (`stops_after_ignored`).
-/

namespace DebugRelay.Tracer

/-- The act sets a breakpoint at a line of a file, or clears the file. -/
def Act.Replants (f : SourceFile) (n : UInt32) : Act → Prop
  | .command (.setBreak b) => b.file = f ∧ b.line = some n
  | .command (.clearFile g) => g = f
  | _ => False

/-- The act traces a line of a file, and the tracer looks for a breakpoint there. -/
def Act.Checks (t : Tracer) (f : SourceFile) (n : UInt32) : Act → Prop
  | .report (.line stack) => t.Checks f n stack
  | _ => False

instance (t : Tracer) (f : SourceFile) (n : UInt32) : (a : Act) → Decidable (a.Checks t f n)
  | .attach | .command _ | .proceed | .report (.enter _) | .report .leave =>
    inferInstanceAs (Decidable False)
  | .report (.line stack) => inferInstanceAs (Decidable (t.Checks f n stack))

/-- How many of a list of acts check a line. -/
def checksOf (t : Tracer) (f : SourceFile) (n : UInt32) : List Act → Nat
  | [] => 0
  | a :: rest => (t.act a).checksOf f n rest + if a.Checks t f n then 1 else 0

variable {t : Tracer} {f : SourceFile} {n : UInt32} {b : Breakpoint}

/-- A check takes what is left of a breakpoint from one number of checks to the next, and stops where
the breakpoint says. -/
theorem Checks.line_of_planted {stack : List Frame} {k : Nat} (h : t.Checks f n stack)
    (hp : t.planted? f n = Planted.afterChecks b k) :
    (t.line stack).1.planted? f n = Planted.afterChecks b (k + 1) ∧
      (t.Stops f n stack ↔ b.StopsAfter k) := by
  have hwanted : t.planted? f n = (some b).bind (Planted.afterChecks · k) := hp
  obtain ⟨hplanted, hstops⟩ := h.line_of_wanted hwanted
  refine ⟨hplanted, ?_⟩
  simpa using hstops

theorem planted?_command {c : Command} (hc : ¬ (Act.command c).Replants f n) :
    (t.act (.command c)).planted? f n = t.planted? f n := by
  have hrelease : ∀ mode, (t.releaseIn mode).planted? f n = t.planted? f n := by
    intro mode
    obtain ⟨release, heq⟩ := t.releaseIn_eq mode
    rw [heq]
    rfl
  cases c with
  | setBreak b =>
    change (t.invoke (.setBreak b)).1.planted? f n = _
    rw [invoke_setBreak]
    refine planted?_plantAll_of_not_mem (fun b' hb' hloc => hc ?_) t
    obtain rfl := List.mem_singleton.1 hb'
    exact ⟨congrArg Location.file hloc, congrArg Location.line hloc⟩
  | clearFile g =>
    change (t.clearFile g).planted? f n = _
    rw [planted?_clearFile, if_neg fun hf : f = g => hc hf.symm]
  | stepInto => exact hrelease _
  | stepOver => exact hrelease _
  | stepOut => exact hrelease _
  | continue_ => exact hrelease _
  | suspendOnStartup enabled => rfl
  | suspendOnScriptLoad enabled => rfl
  | quit => rfl

/-- An act that neither replants nor checks a line leaves the breakpoint there as it is. -/
theorem planted?_act_of_not_checks {a : Act} (hr : ¬ a.Replants f n) (hc : ¬ a.Checks t f n) :
    (t.act a).planted? f n = t.planted? f n := by
  cases a with
  | attach => rfl
  | command c => exact planted?_command hr
  | report p =>
    cases p with
    | enter g =>
      obtain ⟨current, load, heq, -⟩ := Relay.tracer_enter_eq t g
      change (t.enter g).1.planted? f n = _
      rw [heq]
      rfl
    | leave => rfl
    | line stack => exact line_of_not_checks hc
  | proceed =>
    obtain ⟨suspended, release, mode, heq⟩ := t.act_proceed_eq
    rw [heq]
    rfl

/-- An act takes a breakpoint from the number of checks since it was planted to the next, if it
checks its line. -/
theorem planted?_act {a : Act} {k : Nat} (hr : ¬ a.Replants f n)
    (hp : t.planted? f n = Planted.afterChecks b k) :
    (t.act a).planted? f n = Planted.afterChecks b (k + if a.Checks t f n then 1 else 0) := by
  by_cases hc : a.Checks t f n
  · rw [if_pos hc]
    cases a with
    | report p =>
      cases p with
      | line stack => exact (Tracer.Checks.line_of_planted hc hp).1
      | enter g => exact hc.elim
      | leave => exact hc.elim
    | attach => exact hc.elim
    | command c => exact hc.elim
    | proceed => exact hc.elim
  · rw [if_neg hc, planted?_act_of_not_checks hr hc]
    exact hp

/-- The checks of its line are all that a breakpoint depends on until its line is planted anew. -/
theorem planted?_after {acts : List Act} {k : Nat} (hr : ∀ a ∈ acts, ¬ a.Replants f n)
    (hp : t.planted? f n = Planted.afterChecks b k) :
    (t.after acts).planted? f n = Planted.afterChecks b (k + t.checksOf f n acts) := by
  induction acts generalizing t k with
  | nil => exact hp
  | cons a rest ih =>
    have hnext := planted?_act (hr a List.mem_cons_self) hp
    have hrest := ih (fun a' ha' => hr a' (List.mem_cons_of_mem _ ha')) hnext
    rw [after_cons, hrest, checksOf, Nat.add_assoc, Nat.add_comm (ite _ _ _)]

/-- A breakpoint that is set stands as at its first check. -/
theorem planted?_setBreak (t : Tracer) (hn : b.line = some n) :
    (t.act (.command (.setBreak b))).planted? b.file n = Planted.afterChecks b 0 := by
  have hplant : t.act (.command (.setBreak b)) = t.plant n b := by
    simp only [act, invoke, hn]
  rw [hplant, planted?_plant, if_pos ⟨rfl, rfl⟩, Planted.afterChecks_zero]

/-- After `k` checks a temporary breakpoint that ignores fewer hits is gone; else it has counted
them, and has taken them off the hits that it ignores. -/
theorem exists_of_afterChecks (b : Breakpoint) (k : Nat) :
    (b.temporary = true ∧ b.hitCount.toNat < k → Planted.afterChecks b k = none) ∧
    (¬ (b.temporary = true ∧ b.hitCount.toNat < k) →
      ∃ p, Planted.afterChecks b k = some p ∧ p.condition = b.condition ∧
        p.temporary = b.temporary ∧ p.ignore.toNat = b.hitCount.toNat - k ∧
        (k < 2 ^ 32 → p.hits.toNat = k)) := by
  constructor
  · intro hgone
    rw [Planted.afterChecks, if_pos hgone]
  · intro hstays
    refine ⟨_, if_neg hstays, rfl, rfl, toNat_ignore b k, fun hk => ?_⟩
    rw [UInt32.toNat_ofNat']
    exact Nat.mod_eq_of_lt hk

/-- A breakpoint is set, and then anything is done that neither sets a breakpoint at its line nor
clears its file, in the course of which its line is checked `k` times. Then the table has it with
the hits and the hits to be ignored that `k` checks leave, or does not have it any more if it is
temporary and more were checked than it ignores. The next check stops for a breakpoint if `k` have
been ignored, each if it stays and only the first if it is temporary, and the line does not stop for
a breakpoint without a check. Nothing else that is done changes the entry. -/
theorem stops_after_ignored (t : Tracer) (hn : b.line = some n) {acts : List Act}
    (hr : ∀ a ∈ acts, ¬ a.Replants b.file n) :
    let s := t.act (.command (.setBreak b))
    let u := s.after acts
    let k := s.checksOf b.file n acts
    ((b.temporary = true ∧ b.hitCount.toNat < k → u.planted? b.file n = none) ∧
      (¬ (b.temporary = true ∧ b.hitCount.toNat < k) →
        ∃ p, u.planted? b.file n = some p ∧ p.condition = b.condition ∧
          p.temporary = b.temporary ∧ p.ignore.toNat = b.hitCount.toNat - k ∧
          (k < 2 ^ 32 → p.hits.toNat = k))) ∧
    (∀ stack, u.Checks b.file n stack → (u.Stops b.file n stack ↔
      b.hitCount.toNat ≤ k ∧ (b.temporary = true → k = b.hitCount.toNat))) ∧
    (∀ stack, u.Stops b.file n stack → u.Checks b.file n stack) ∧
    ∀ a, ¬ a.Replants b.file n → ¬ a.Checks u b.file n →
      (u.act a).planted? b.file n = u.planted? b.file n := by
  intro s u k
  have hu : u.planted? b.file n = Planted.afterChecks b k := by
    have hafter := planted?_after hr (t.planted?_setBreak hn)
    rwa [Nat.zero_add] at hafter
  refine ⟨?_, ?_, fun stack => Stops.checks, fun a => planted?_act_of_not_checks⟩
  · rw [hu]
    exact exists_of_afterChecks b k
  · intro stack hchecks
    exact (hchecks.line_of_planted hu).2

/-! ## A temporary breakpoint that ignores one hit -/

/-- A temporary breakpoint at line 1 that is ignored once. -/
def sampleIgnored : Breakpoint := ⟨⟨[]⟩, some 1, none, 1, true, true, none⟩

/-- The first line of its file. -/
def sampleFirst : List Frame := [.ofFile .zero ⟨[]⟩ 1 ∅]

/-- The line is traced once, among other things. -/
def samplePass : List Act :=
  [.report (.enter ⟨[]⟩), .command (.setBreak (.atLine ⟨[]⟩ 2)), .report (.line sampleFirst),
    .report .leave, .command .continue_]

/-- The tracer after the breakpoint was set. -/
def sampleIgnoring : Tracer := ({} : Tracer).act (.command (.setBreak sampleIgnored))

theorem checksOf_samplePass : sampleIgnoring.checksOf sampleIgnored.file 1 samplePass = 1 := by
  cbv

/-- The second time the line is traced it stops. -/
theorem stops_sampleIgnored :
    (∀ a ∈ samplePass, ¬ a.Replants sampleIgnored.file 1) ∧
      (sampleIgnoring.after samplePass).Stops sampleIgnored.file 1 sampleFirst := by
  have hothers : ∀ a ∈ samplePass, ¬ a.Replants sampleIgnored.file 1 := by
    simp [samplePass, Act.Replants, Breakpoint.atLine]
  have hverdict : ((sampleIgnoring.after samplePass).line sampleFirst).2 = .stopped .breakpoint := by
    cbv
  have hchecks : (sampleIgnoring.after samplePass).Checks sampleIgnored.file 1 sampleFirst :=
    ⟨by cbv, by cbv, by simp [hverdict], by simp [hverdict]⟩
  obtain ⟨-, hstops, -, -⟩ := stops_after_ignored ({} : Tracer) (b := sampleIgnored) rfl hothers
  refine ⟨hothers, (hstops sampleFirst hchecks).2 ?_⟩
  rw [← sampleIgnoring, checksOf_samplePass]
  decide

end DebugRelay.Tracer
