import DebugRelay.Proofs.Link.LifeCycle
import DebugRelay.Proofs.Splits

/-!
# Setups that fail

A setup that fails leaves the link as it was. So the relay is without a debugger afterwards unless
an earlier one is still in force (`InForce`), that is, was installed and neither told to quit nor
dropped since: `detached_iff_not_inForce` says so for every history of the link, and
`attached_after_failure` is one in which the earlier debugger stays.
-/

namespace DebugRelay.Relay

/-- None of a list of turns ends the script or drops the debugger. -/
def Keeps (r : Relay) (ts : List Turn) : Prop :=
  ¬ ∃ before x since, ts = before ++ x :: since ∧ (r.turned before).drops x = true

/-- One of a list of turns installs a debugger, and none since ends the script or drops it. -/
def InForce (r : Relay) (ts : List Turn) : Prop :=
  ∃ before x since, ts = before ++ x :: since ∧ (r.turned before).installs x = true ∧
    ((r.turned before).turn x).Keeps since

variable {r : Relay} {t : Turn} {ts : List Turn}

theorem keeps_nil (r : Relay) : r.Keeps [] := by
  rintro ⟨before, x, since, h, -⟩
  cases before <;> cases h

theorem not_inForce_nil (r : Relay) : ¬ r.InForce [] := by
  rintro ⟨before, x, since, h, -⟩
  cases before <;> cases h

theorem keeps_cons_iff : r.Keeps (t :: ts) ↔ r.drops t = false ∧ (r.turn t).Keeps ts := by
  have hsplit : (∃ before x since, t :: ts = before ++ x :: since ∧
      (r.turned before).drops x = true) ↔ r.drops t = true ∨ ∃ before x since,
        ts = before ++ x :: since ∧ (r.turned (t :: before)).drops x = true :=
    exists_cons_eq_append_iff (p := fun before x _ => (r.turned before).drops x = true)
  rw [Keeps, hsplit, not_or, Bool.not_eq_true]
  exact Iff.rfl

theorem inForce_cons_iff :
    r.InForce (t :: ts) ↔
      r.installs t = true ∧ (r.turn t).Keeps ts ∨ (r.turn t).InForce ts :=
  exists_cons_eq_append_iff (p := fun before x since =>
    (r.turned before).installs x = true ∧ ((r.turned before).turn x).Keeps since)

/-- A debugger is installed after a list of turns if one was there and is kept, or if one of the
turns installs one that is still in force. -/
theorem isAttached_turned_iff (r : Relay) (ts : List Turn) :
    (r.turned ts).isAttached = true ↔ r.isAttached = true ∧ r.Keeps ts ∨ r.InForce ts := by
  induction ts generalizing r with
  | nil =>
    constructor
    · intro h
      exact Or.inl ⟨h, keeps_nil r⟩
    · rintro (⟨h, -⟩ | h)
      · exact h
      · exact absurd h (not_inForce_nil r)
  | cons t rest ih =>
    rw [turned_cons, ih, keeps_cons_iff, inForce_cons_iff, isAttached_turn, Bool.or_eq_true,
      Bool.and_eq_true, Bool.not_eq_true']
    constructor
    · rintro (⟨hinstalls | ⟨hattached, hdrops⟩, hkeeps⟩ | hforce)
      · exact Or.inr (Or.inl ⟨hinstalls, hkeeps⟩)
      · exact Or.inl ⟨hattached, hdrops, hkeeps⟩
      · exact Or.inr (Or.inr hforce)
    · rintro (⟨hattached, hdrops, hkeeps⟩ | ⟨hinstalls, hkeeps⟩ | hforce)
      · exact Or.inl ⟨Or.inr ⟨hattached, hdrops⟩, hkeeps⟩
      · exact Or.inl ⟨Or.inl hinstalls, hkeeps⟩
      · exact Or.inr hforce

/-- After a setup that fails, whichever of its calls fails and whatever was done before, the link is
what it was. So no debugger is installed, and every later call but a setup is idle until a setup
goes through, exactly if no debugger that was installed before is still in force. -/
theorem detached_iff_not_inForce (hr : r.isAttached = false) (ts : List Turn) {t : Turn}
    {i : Interpreter} {e : Error} (hcall : t.call = .setup i)
    (hfails : (((r.turned ts).found t).setup i).2 = .error e) :
    ((r.turned ts).turn t).link = (r.turned ts).link ∧
    (((r.turned ts).turn t).isAttached = false ∧
      (∀ since x, ((r.turned ts).turn t).installations since = 0 → x.call.aim ≠ .install →
        (((r.turned ts).turn t).turned since).Idle x) ↔
      ¬ r.InForce ts) := by
  have hlink : ((r.turned ts).turn t).link = (r.turned ts).link := by
    rw [turn, hcall]
    rcases ((r.turned ts).found t).link_setup i with ⟨hok, -⟩ | ⟨e', -, hlink⟩
    · rw [hfails] at hok
      cases hok
    · exact hlink
  have hforce : (r.turned ts).isAttached = true ↔ r.InForce ts := by
    rw [isAttached_turned_iff, hr]
    simp
  have hsame : ((r.turned ts).turn t).isAttached = (r.turned ts).isAttached := by
    rw [isAttached, isAttached, hlink]
  refine ⟨hlink, ?_⟩
  rw [← hforce, Bool.not_eq_true, hsame]
  constructor
  · rintro ⟨hdetached, -⟩
    exact hdetached
  · intro hdetached
    refine ⟨hdetached, fun since x hnone haim => ?_⟩
    have hhook : ((r.turned ts).turn t).link.hook = none := by
      rw [← isAttached_eq_false_iff, hsame, hdetached]
    exact idle_of_detached (detached_turned hhook hnone).1 haim

/-! ## A debugger that was dropped and one that was not -/

/-- An interpreter whose setup script cannot be run. -/
def sampleUnloadable : Interpreter := ⟨none, some (.io "no such file"), none, .direct⟩

/-- A tracer is installed and dropped, and the next setup fails: no debugger is left. -/
theorem detached_sampleUnloadable :
    (((started sampleParts).turned [.of (.setup .direct), .of .detach]).turn
      (.of (.setup sampleUnloadable))).isAttached = false := by
  have hdetached : (started sampleParts).isAttached = false := rfl
  obtain ⟨-, hiff⟩ := detached_iff_not_inForce hdetached [.of (.setup .direct), .of .detach]
    (t := .of (.setup sampleUnloadable)) rfl rfl
  refine (hiff.2 ?_).1
  rw [inForce_cons_iff, inForce_cons_iff, keeps_cons_iff]
  rintro (⟨-, hdrops, -⟩ | ⟨hinstalls, -⟩ | hforce)
  · cases hdrops
  · cases hinstalls
  · exact not_inForce_nil _ hforce

/-- A tracer is installed and the next setup fails: the first debugger is still there, and gets what
the IDE asks for. -/
theorem attached_after_failure :
    let s := ((started sampleParts).setup .direct).1
    (started sampleParts).isAttached = false ∧ ((started sampleParts).setup .direct).2 = .ok () ∧
    (s.setup sampleUnloadable).2 =
      .error (.setup "failed to execute : IO error: no such file") ∧
    (s.setup sampleUnloadable).1.isAttached = true ∧
    ((s.setup sampleUnloadable).1.step .resume).2 = true :=
  ⟨rfl, rfl, by decide, rfl, rfl⟩

end DebugRelay.Relay
