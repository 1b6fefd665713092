import DebugRelay.Proofs.Link.Turns

/-!
# The life of an installed debugger

A debugger lives from the setup that installs it to the turn that ends the script or drops it. In
between only that debugger is called, and it is told to quit once at most, by the turn that ends the
script (`Lived`). From then on, until another setup goes through, every call is idle (`idle_since`).
Every end of a script takes a debugger away that a setup installed (`terminations_add_le`).
`life_cycle` puts these together for every list of turns.
-/

namespace DebugRelay.Relay

/-- How many of a list of turns install a debugger. -/
def installations (r : Relay) : List Turn → Nat
  | [] => 0
  | t :: rest => (r.installs t).toNat + (r.turn t).installations rest

/-- How many of a list of turns end the script. -/
def terminations (r : Relay) : List Turn → Nat
  | [] => 0
  | t :: rest => (r.terminates t).toNat + (r.turn t).terminations rest

/-- The commands that are sent in a list of turns, apart from those of setups. -/
def relayed (r : Relay) : List Turn → List Command
  | [] => []
  | t :: rest => (if t.call.aim = .install then [] else r.sent t) ++ (r.turn t).relayed rest

variable {r : Relay} {t : Turn} {ts : List Turn}

theorem installations_append (r : Relay) (ts more : List Turn) :
    r.installations (ts ++ more) = r.installations ts + (r.turned ts).installations more := by
  induction ts generalizing r with
  | nil => exact (Nat.zero_add _).symm
  | cons t rest ih => rw [List.cons_append, installations, installations, ih, Nat.add_assoc]; rfl

theorem installations_cons_eq_zero_iff :
    r.installations (t :: ts) = 0 ↔ r.installs t = false ∧ (r.turn t).installations ts = 0 := by
  rw [installations, Nat.add_eq_zero_iff, Bool.toNat_eq_zero]

/-! ## Without a debugger -/

/-- Turns that install no debugger leave the relay without one, and send nothing. -/
theorem detached_turned (h : r.link.hook = none) (hnone : r.installations ts = 0) :
    (r.turned ts).link.hook = none ∧ r.relayed ts = [] := by
  induction ts generalizing r with
  | nil => exact ⟨h, rfl⟩
  | cons t rest ih =>
    obtain ⟨hinstalls, hrest⟩ := installations_cons_eq_zero_iff.1 hnone
    have hnext : (r.turn t).link.hook = none := by
      rw [← isAttached_eq_false_iff, isAttached_turn, hinstalls, isAttached_eq_false_iff.2 h]
      rfl
    obtain ⟨hend, hrelayed⟩ := ih hnext hrest
    refine ⟨hend, ?_⟩
    rw [relayed, hrelayed, List.append_nil]
    split
    · rfl
    · next haim => exact (idle_of_detached h haim).sent

/-- A debugger that was dropped leaves nothing to do but for a setup. -/
theorem hook_of_drops (h : r.drops t = true) : (r.turn t).link.hook = none := by
  have hinstalls : r.installs t = false := by
    apply installs_of_ne
    intro haim
    rw [drops_of_ne (by simp [haim]) (by simp [haim])] at h
    cases h
  rw [← isAttached_eq_false_iff, isAttached_turn, hinstalls, h]
  simp

theorem drops_of_terminates (h : r.terminates t = true) : r.drops t = true := by
  rw [drops, h, Bool.true_or]

/-- Once a turn has taken the debugger away, every call is idle until a setup goes through. -/
theorem idle_since (hdrops : r.drops t = true) (hnone : (r.turn t).installations ts = 0)
    {x : Turn} (hx : x.call.aim ≠ .install) : ((r.turn t).turned ts).Idle x :=
  idle_of_detached (detached_turned (hook_of_drops hdrops) hnone).1 hx

/-! ## With a debugger -/

/-- Until another one is installed, no other debugger is called. -/
theorem hook_turned (hnone : r.installations ts = 0) :
    (r.turned ts).link.hook = none ∨ (r.turned ts).link.hook = r.link.hook := by
  induction ts generalizing r with
  | nil => exact Or.inr rfl
  | cons t rest ih =>
    obtain ⟨hinstalls, hrest⟩ := installations_cons_eq_zero_iff.1 hnone
    have hone : (r.turn t).link.hook = none ∨ (r.turn t).link.hook = r.link.hook := by
      cases r.handled t with
      | installed i hcall hinstalled => simp [hinstalls] at hinstalled
      | failed haim hfails hlink => exact Or.inr (congrArg Link.hook hlink)
      | idle haim hook hook' => exact Or.inl hook'
      | ended haim hook hook' => exact Or.inl hook'
      | dropped haim hook hook' => exact Or.inl hook'
      | served haim hook hook' => exact Or.inr hook'
    rcases ih hrest with hend | hend
    · exact Or.inl hend
    · rcases hone with hone | hone
      · exact Or.inl (hend.trans hone)
      · exact Or.inr (hend.trans hone)

/-- The command to quit is relayed once for each turn that ends the script. -/
theorem count_quit_relayed (r : Relay) (ts : List Turn) :
    (r.relayed ts).count .quit = r.terminations ts := by
  induction ts generalizing r with
  | nil => rfl
  | cons t rest ih =>
    rw [relayed, terminations, List.count_append, ih, Nat.add_right_cancel_iff]
    cases h : r.terminates t with
    | true =>
      have haim : t.call.aim ≠ .install := by simp [(quit_of_terminates h).1]
      rw [if_neg haim, sent_of_terminates h]
      rfl
    | false =>
      have hquit : .quit ∉ r.sent t := by
        rw [quit_mem_sent_iff, h]
        simp
      split
      · rfl
      · exact List.count_eq_zero.2 hquit

/-- What a turn ends it must have found: a debugger is there for every end. -/
theorem terminations_add_le (r : Relay) (ts : List Turn) :
    r.terminations ts + (r.turned ts).isAttached.toNat ≤
      r.installations ts + r.isAttached.toNat := by
  induction ts generalizing r with
  | nil => exact Nat.le_refl _
  | cons t rest ih =>
    have hone : (r.terminates t).toNat + (r.turn t).isAttached.toNat ≤
        (r.installs t).toNat + r.isAttached.toNat := by
      rw [isAttached_turn, drops]
      -- only a turn that ends the script counts on the left, and it takes the debugger away
      cases hends : r.terminates t with
      | false =>
        cases r.installs t <;> cases r.isAttached <;> cases (decide (t.call.aim = .drop)) <;> decide
      | true =>
        obtain ⟨haim, hattached⟩ := quit_of_terminates hends
        have hinstalls : r.installs t = false := installs_of_ne (by simp [haim])
        rw [hinstalls, hattached, Bool.true_or]
        decide
    have hrest := ih (r.turn t)
    rw [turned_cons, terminations, installations]
    omega

/-- A turn that ends the script was the first to do so since a debugger was installed. -/
theorem terminations_eq_zero (hnone : r.installations ts = 0)
    (hends : (r.turned ts).terminates t = true) : r.terminations ts = 0 := by
  have hle := r.terminations_add_le ts
  have hattached := (quit_of_terminates hends).2
  rw [hnone, hattached, Bool.toNat_true] at hle
  have hone := r.isAttached.toNat_le
  omega

/-- Without setups, everything that is sent is relayed. -/
theorem commands_turned (hsetup : ∀ t ∈ ts, t.call.aim ≠ .install) :
    (r.turned ts).commands = r.commands ++ r.relayed ts := by
  induction ts generalizing r with
  | nil => exact (List.append_nil _).symm
  | cons t rest ih =>
    have hrest := ih (r := r.turn t) fun x hx => hsetup x (List.mem_cons_of_mem t hx)
    rw [turned_cons, hrest, commands_turn, relayed, if_neg (hsetup t List.mem_cons_self),
      List.append_assoc]

/-- What becomes of a debugger that a relay has, until another one is installed. -/
structure Lived (r : Relay) (h : Hook) (ts : List Turn) : Prop where
  /-- No other debugger is called. -/
  hook : (r.turned ts).link.hook = none ∨ (r.turned ts).link.hook = some h
  /-- It is told to quit once at most, by the turn that ends the script. -/
  quits : (r.relayed ts).count .quit = r.terminations ts ∧ r.terminations ts ≤ 1
  /-- Before that it is not told to quit, and nothing is sent afterwards. -/
  last : ∀ before t since, ts = before ++ t :: since → (r.turned before).terminates t = true →
    .quit ∉ r.relayed before ∧ (r.turned before).sent t = [.quit] ∧
      ((r.turned before).turn t).relayed since = []
  /-- If no setup is tried, it gets everything that is sent. -/
  sent : (∀ t ∈ ts, t.call.aim ≠ .install) →
    (r.turned ts).commands = r.commands ++ r.relayed ts

theorem lived {h : Hook} (hook : r.link.hook = some h) (hnone : r.installations ts = 0) :
    r.Lived h ts where
  hook := by
    rw [← hook]
    exact hook_turned hnone
  quits := by
    refine ⟨r.count_quit_relayed ts, ?_⟩
    have hle := r.terminations_add_le ts
    have hone := r.isAttached.toNat_le
    omega
  last := by
    rintro before t since rfl hends
    rw [installations_append, Nat.add_eq_zero_iff, installations_cons_eq_zero_iff] at hnone
    obtain ⟨hbefore, -, hsince⟩ := hnone
    -- no earlier turn ended the script, and later ones find no debugger
    refine ⟨?_, sent_of_terminates hends, ?_⟩
    · rw [← List.count_eq_zero, count_quit_relayed]
      exact terminations_eq_zero hbefore hends
    · exact (detached_turned (hook_of_drops (drops_of_terminates hends)) hsince).2
  sent := commands_turned

/-- Beginning without a debugger, after every list of turns. From a turn that ended the script or
dropped the debugger, until another setup goes through, every call but a setup is idle: it sends
nothing, answers no, and announces no going on. A debugger that a setup has installed is the only
one that is called until another setup goes through; it is told to quit once at most, by the turn
that ends the script, and gets nothing afterwards. The command to quit is sent by no other turns,
and never have more turns ended the script than setups gone through. -/
theorem life_cycle (hr : r.isAttached = false) (ts : List Turn) :
    (∀ before x since t, ts = before ++ x :: (since ++ [t]) → (r.turned before).drops x = true →
      ((r.turned before).turn x).installations since = 0 → t.call.aim ≠ .install →
      (((r.turned before).turn x).turned since).Idle t) ∧
    (∀ before x i since, ts = before ++ x :: since → x.call = .setup i →
      (r.turned before).installs x = true →
      ((r.turned before).turn x).installations since = 0 →
      ((r.turned before).turn x).Lived i.hook since) ∧
    (∀ before t since, ts = before ++ t :: since →
      (.quit ∈ (r.turned before).sent t ↔ (r.turned before).terminates t = true)) ∧
    r.terminations ts ≤ r.installations ts := by
  refine ⟨?idle, ?lived, fun before t _ _ => quit_mem_sent_iff _ t, ?balanced⟩
  case idle =>
    intro before x since t _ hdrops hnone haim
    exact idle_since hdrops hnone haim
  case lived =>
    intro before x i since _ hcall hinstalls hnone
    cases (r.turned before).handled x with
    | installed j hcall' hinstalls' hook' =>
      rw [hcall] at hcall'
      cases hcall'
      exact lived hook' hnone
    | failed haim hfails => simp [hinstalls] at hfails
    | idle haim => simp [hcall, LinkCall.aim] at haim
    | ended haim => simp [hcall, LinkCall.aim] at haim
    | dropped haim => simp [hcall, LinkCall.aim] at haim
    | served haim => simp [hcall, LinkCall.aim] at haim
  case balanced =>
    have hle := r.terminations_add_le ts
    rw [hr, Bool.toNat_false, Nat.add_zero] at hle
    exact Nat.le_of_add_right_le hle

/-! ## A script that is ended twice -/

/-- A tracer is installed and let go on, and the script is ended twice. -/
def sampleTurns : List Turn :=
  [.of (.setup .direct), .of (.step .stepInto), .of .terminate, .of (.request .terminateRequest)]

/-- The second end of the script is idle, and the tracer was told to quit by the first. -/
theorem life_cycle_sampleTurns :
    (started sampleParts).terminations sampleTurns = 1 ∧
    (started sampleParts).terminations sampleTurns ≤
      (started sampleParts).installations sampleTurns ∧
    (((started sampleParts).turn (.of (.setup .direct))).relayed (sampleTurns.drop 1)).count
      .quit ≤ 1 ∧
    ((started sampleParts).turned (sampleTurns.take 3)).Idle (.of (.request .terminateRequest)) := by
  have hdetached : (started sampleParts).isAttached = false := rfl
  obtain ⟨hidle, hlived, -, hbalanced⟩ := life_cycle hdetached sampleTurns
  have hlife := hlived [] (.of (.setup .direct)) .direct (sampleTurns.drop 1) rfl rfl rfl rfl
  refine ⟨rfl, hbalanced, hlife.quits.1.trans_le hlife.quits.2, ?_⟩
  exact hidle (sampleTurns.take 2) (.of .terminate) [] (.of (.request .terminateRequest)) rfl rfl
    rfl (by decide)

end DebugRelay.Relay
