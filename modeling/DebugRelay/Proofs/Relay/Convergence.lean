import Mathlib
import DebugRelay.Proofs.Relay.Moves
import DebugRelay.Proofs.Relay.Reconcile

/-!
# Convergence of the breakpoint table

The IDE edits the registry, and the tracer's table follows through queued events. `Reaches` are the
states of a session whose debugger is installed once, after any moves and before any moves.
`Converging` is the invariant: with a debugger installed, a file that is not in line has an event
waiting that will bring it in line. Every state that is reached is converging, and so, once no such
event waits, no breakpoint is missing from the table, and none is left over.
-/

namespace DebugRelay.Relay

/-- What a move needs: the registry is filled before the debugger is installed, and edits announce
the files that they touch. -/
def Admits (r : Relay) : Move → Prop
  | .load => r.isAttached = false
  | .edit d => r.Announces d
  | .requestStep _ | .requestFrames | .enter _ | .leave | .line _ _ | .wake | .dispatch => True

/-- The states of a session made from given parts. -/
inductive Reaches (parts : Relay.Parts) : Relay → Prop
  | started : Reaches parts (started parts)
  | move {r : Relay} (m : Move) (hr : Reaches parts r) (hm : r.Admits m) : Reaches parts (r.move m)
  | setup {r : Relay} (hr : Reaches parts r) (hd : r.isAttached = false) :
      Reaches parts (r.setup .direct).1

/-- Every file whose breakpoints are not in line has an event waiting that concerns it. Before the
debugger is installed, the table is empty. -/
structure Converging (r : Relay) : Prop where
  live : r.Live
  sound : r.registry.Sound
  wants : r.registry.Lasting
  lasting : r.native.tracer.Lasting
  empty : r.link.hook = none → ∀ f n, r.native.tracer.condition? f n = none
  due : r.link.hook = some .direct →
    ∀ f, r.InLine f ∨ ∃ e ∈ r.queue.waiting, e.file? = some f

theorem converging_started (parts : Relay.Parts) : (started parts).Converging where
  live := live_started parts
  sound := Registry.sound_empty
  wants l b h := by simp [started, create, call, Registry.find?, Registry.empty] at h
  lasting f n p h := by
    rw [show (started parts).native.tracer.planted? f n = none from rfl] at h
    simp at h
  empty _ f n := rfl
  due h := by simp [started, create, call] at h

variable {r : Relay}

/-- A step that leaves the registry, the debugger and the conditions in the table alone keeps the
invariant, if it takes no event about a breakpoint while a debugger is installed. -/
theorem Converging.of_eq {r' : Relay} (h : r.Converging) (hlive : r'.Live)
    (hreg : r'.registry = r.registry) (hhook : r'.link.hook = r.link.hook)
    (hlast : r'.native.tracer.Lasting)
    (hcond : ∀ f n, r'.native.tracer.condition? f n = r.native.tracer.condition? f n)
    (hw : r.link.hook = some .direct →
      ∀ e ∈ r.queue.waiting, e.file?.isSome → e ∈ r'.queue.waiting) : r'.Converging where
  live := hlive
  sound := hreg ▸ h.sound
  wants := hreg ▸ h.wants
  lasting := hlast
  empty hd f n := (hcond f n).trans (h.empty (hhook ▸ hd) f n)
  due ha f := by
    refine (h.due (hhook ▸ ha) f).imp (fun hin n => ?_) ?_
    · rw [hcond, hreg, hin n]
    · rintro ⟨e, he, hf⟩
      exact ⟨e, hw (hhook ▸ ha) e he (by rw [hf]; rfl), hf⟩

/-- A step that brings a file in line keeps the invariant, even if it takes the last event that
concerns the file. -/
theorem Converging.of_reconciled {r' : Relay} {f : SourceFile} (h : r.Converging)
    (ha : r.link.hook = some .direct) (hlive : r'.Live)
    (hreg : r'.registry = r.registry) (hhook : r'.link.hook = r.link.hook)
    (t : Tracer) (ht : t.Lasting) (hcond : ∀ k n, t.condition? k n = r.native.tracer.condition? k n)
    (hnative : r'.native.tracer = (t.clearFile f).plantAll (r.registry.enabledOf f))
    (hw : ∀ e ∈ r.queue.waiting, e.file?.isSome → e.file? ≠ some f → e ∈ r'.queue.waiting) :
    r'.Converging where
  live := hlive
  sound := hreg ▸ h.sound
  wants := hreg ▸ h.wants
  lasting := hnative ▸ ht.reconciled h.wants f
  empty hd := by rw [hhook, ha] at hd; simp at hd
  due _ k := by
    by_cases hk : k = f
    · refine Or.inl fun n => ?_
      rw [hnative, hreg, Tracer.condition?_reconciled t h.sound, if_pos hk, hk]
    · refine (h.due ha k).imp (fun hin n => ?_) ?_
      · rw [hnative, hreg, Tracer.condition?_reconciled t h.sound, if_neg hk, hcond, hin n]
      -- the event that was taken is about `f`, so that of another file still waits
      · rintro ⟨e, he, hf⟩
        refine ⟨e, hw e he (by rw [hf]; rfl) ?_, hf⟩
        rw [hf]
        exact fun heq => hk (Option.some.inj heq)

theorem Converging.edit (h : r.Converging) (d : Edit) (hd : r.Announces d) :
    (r.edit d).Converging := by
  obtain ⟨registry, announced, log, he⟩ := edited_edit h.sound h.wants h.live.accepts d
  have hlive := he.live h.live
  have hcovers := he.covers hd
  rw [he.eq] at hlive ⊢
  constructor
  case live => exact hlive
  case sound => exact he.sound
  case wants => exact he.lasting
  case lasting => exact h.lasting
  case empty => exact h.empty
  case due =>
    intro ha f
    rcases hcovers f with hsame | ⟨e, hmem, hf⟩
    · refine (h.due ha f).imp (fun hin n => ?_) ?_
      · exact (hin n).trans (by rw [hsame.wanted?])
      · rintro ⟨e, hmem, hf⟩
        exact ⟨e, List.mem_append_left _ hmem, hf⟩
    · exact Or.inr ⟨e, List.mem_append_right _ hmem, hf⟩

theorem Converging.dispatch (h : r.Converging) : (r.move .dispatch).Converging := by
  have hlive := h.live.dispatch.1
  rcases h.live.dispatch_cases with ⟨-, hd⟩ | ⟨e, rest, s, stats, log, hw, hs, hd⟩
  · rw [hd]
    exact h
  · rw [hd] at hlive ⊢
    have hrest : ∀ x ∈ r.queue.waiting, x ≠ e → x ∈ rest := by
      intro x hx hne
      rw [hw] at hx
      exact (List.mem_cons.1 hx).resolve_left hne
    -- an event that concerns no file is not one that a file waits for
    have hkept : e.file? = none → ∀ x ∈ r.queue.waiting, x.file?.isSome → x ∈ rest := by
      intro hnone x hx hfile
      refine hrest x hx ?_
      rintro rfl
      rw [hnone] at hfile
      simp at hfile
    cases hs with
    | @aligned _ f hf =>
      rcases h.live.hook with hook | hook
      -- without a debugger nothing is due, so the event may go
      · rw [reconcile_detached (r := r.taken rest) hook] at hlive ⊢
        exact h.of_eq hlive rfl rfl h.lasting (fun _ _ => rfl) fun ha => by
          rw [hook] at ha
          simp at ha
      -- the event that is gone has done what it was waiting for
      · obtain ⟨calls, log', hrec⟩ := reconcile_direct (r := r.taken rest) hook f
        rw [hrec] at hlive ⊢
        refine h.of_reconciled hook hlive rfl rfl r.native.tracer h.lasting (fun _ _ => rfl) rfl
          fun x hx _ hne => hrest x hx ?_
        rintro rfl
        exact hne hf
    | stepped kind =>
      rcases h.live.hook with hook | hook
      · rw [step_detached (r := r.taken rest) hook] at hlive ⊢
        exact h.of_eq hlive rfl rfl h.lasting (fun _ _ => rfl) fun _ => hkept rfl
      · obtain ⟨calls, log', mode, hstep⟩ :=
          step_direct (r := r.taken rest) hook h.live.accepts kind
        rw [hstep] at hlive ⊢
        exact h.of_eq hlive rfl rfl (h.lasting.releaseIn mode)
          (fun f n => Tracer.condition?_releaseIn _ mode f n)
          fun _ x hx hfile => List.mem_append_left _ (hkept rfl x hx hfile)
    | resent =>
      rw [resendSuspension_eq (r := r.taken rest) h.live.accepts] at hlive ⊢
      exact h.of_eq hlive rfl rfl h.lasting (fun _ _ => rfl)
        fun _ x hx hfile => List.mem_append_left _ (hkept rfl x hx hfile)
    | notified hroute =>
      obtain ⟨log', hn⟩ := (r.taken rest).handleNotification_spec e
      rw [hn] at hlive ⊢
      exact h.of_eq hlive rfl rfl h.lasting (fun _ _ => rfl) fun _ =>
        hkept (Event.file?_of_route hroute)

theorem Converging.move (h : r.Converging) (m : Move) (hm : r.Admits m) :
    (r.move m).Converging := by
  have hlive := h.live.move h.sound h.wants m
  cases m with
  | load =>
    obtain ⟨registry, log, heq, hsound, hwants⟩ := loadBreakpoints_eq h.sound h.wants
    rw [Relay.move, heq] at hlive ⊢
    exact ⟨hlive, hsound, hwants, h.lasting, h.empty, fun ha => by
      rw [Admits, isAttached, ha] at hm
      simp at hm⟩
  | edit d => exact h.edit d hm
  | requestStep kind =>
    rw [Relay.move] at hlive ⊢
    rcases requestStep_cases h.live.accepts kind with heq | heq
    · rw [heq]
      exact h
    · rw [heq] at hlive ⊢
      exact h.of_eq hlive rfl rfl h.lasting (fun _ _ => rfl)
        fun _ e he _ => List.mem_append_left _ he
  | requestFrames =>
    rw [Relay.move, Relay.requestFrames, send_of_accepts h.live.accepts] at hlive ⊢
    exact h.of_eq hlive rfl rfl h.lasting (fun _ _ => rfl)
      fun _ e he _ => List.mem_append_left _ he
  | enter f =>
    obtain ⟨entered, tracer, calls, log, heq, ⟨current, load, rfl⟩, htracer⟩ :=
      enterFrame_cases h.live.hook f
    rw [Relay.move, heq] at hlive ⊢
    rcases htracer with rfl | ⟨hook, rfl⟩
    · exact h.of_eq hlive rfl rfl h.lasting (fun _ _ => rfl) fun _ e he _ => he
    -- the file that is entered is brought in line at once, whatever waits for it
    · refine h.of_reconciled hook hlive rfl rfl _ ?_ ?_ rfl fun e he _ _ => he
      · exact h.lasting
      · exact fun _ _ => rfl
  | leave => exact h.of_eq hlive rfl rfl h.lasting (fun _ _ => rfl) fun _ e he _ => he
  | line thread stack =>
    obtain ⟨hlast, hcond⟩ := h.lasting.line stack
    rw [Relay.move] at hlive ⊢
    rcases traceLine_cases h.live.accepts thread stack with
      ⟨outcome, -, heq⟩ | ⟨reason, -, -, heq⟩ | ⟨reason, -, -, heq⟩
    · rw [heq] at hlive ⊢
      exact h.of_eq hlive rfl rfl hlast hcond fun _ e he _ => he
    · rw [heq] at hlive ⊢
      exact h.of_eq hlive rfl rfl hlast hcond fun _ e he _ => he
    · rw [heq] at hlive ⊢
      exact h.of_eq hlive rfl rfl hlast hcond fun _ e he _ => List.mem_append_left _ he
  | wake =>
    rw [Relay.move] at hlive ⊢
    rcases r.wake?_cases with ⟨heq, -⟩ | ⟨-, heq⟩ | ⟨mode, -, -, heq⟩
    · rw [heq]
      exact h
    · rw [heq] at hlive ⊢
      exact h.of_eq hlive rfl rfl h.lasting (fun _ _ => rfl) fun _ e he _ => he
    · rw [heq] at hlive ⊢
      exact h.of_eq hlive rfl rfl h.lasting (fun _ _ => rfl) fun _ e he _ => he
  | dispatch => exact h.dispatch

theorem Converging.setup (h : r.Converging) (hd : r.isAttached = false) :
    (r.setup .direct).1.Converging := by
  have hlive := h.live.setup
  have hempty := h.empty (by simpa [isAttached] using hd)
  obtain ⟨calls, log, hsetup⟩ := setup_direct r
  rw [hsetup] at hlive ⊢
  constructor
  case live => exact hlive
  case sound => exact h.sound
  case wants => exact h.wants
  case lasting =>
    refine Tracer.Lasting.plantAll ?_ fun b hb => ?_
    · exact h.lasting
    · obtain ⟨l, hl⟩ := (Registry.mem_enabled_iff.1 hb).1
      exact h.wants l b hl
  case empty => simp
  case due =>
    intro _ f
    refine Or.inl fun n => ?_
    -- the table was empty, so it has just what the registry wants
    have hnone : r.native.tracer.planted? f n = none := Option.map_eq_none_iff.1 (hempty f n)
    rw [Tracer.condition?, Tracer.planted?_installed _ h.sound]
    have hbefore : r.ready.native.tracer.planted? f n = none := hnone
    rw [hbefore, Option.or_none, Option.map_map]
    rfl

variable {parts : Relay.Parts}

theorem Reaches.converging (h : Reaches parts r) : r.Converging := by
  induction h with
  | started => exact converging_started parts
  | move m _ hm ih => exact ih.move m hm
  | setup _ hd ih => exact ih.setup hd

/-- Once no event about a breakpoint waits, the table of an installed debugger is what the registry
wants in every file: its lines are the known lines of the enabled entries, each with the condition
of its entry, none ignores hits or goes with its first stop. So a line that is not the occasion of
a stop at the start or at a load stops for a breakpoint exactly if such an entry is there. -/
theorem Reaches.converged (h : Reaches parts r) (ha : r.isAttached = true)
    (hq : ∀ e ∈ r.queue.waiting, e.file? = none) (f : SourceFile) :
    r.native.tracer.linesOf f = knownLines (r.registry.enabledOf f) ∧
    (∀ b ∈ r.registry.enabledOf f, ∀ n, b.line = some n →
      ∃ hits, r.native.tracer.planted? f n = some ⟨b.condition, 0, false, hits⟩) ∧
    ∀ stack n, Tracer.top? stack = some (f, n) → r.native.tracer.quitting = false →
      (r.native.tracer.line stack).2 ≠ .stopped .startup →
      (r.native.tracer.line stack).2 ≠ .stopped .scriptLoad →
      ((r.native.tracer.line stack).2 = .stopped .breakpoint ↔
        n ∈ knownLines (r.registry.enabledOf f)) := by
  have hc := h.converging
  have hook : r.link.hook = some .direct := by
    rcases hc.live.hook with hook | hook
    · simp [isAttached, hook] at ha
    · exact hook
  have hin : r.InLine f := by
    rcases hc.due hook f with hin | ⟨e, he, hf⟩
    · exact hin
    · simp [hq e he] at hf
  refine ⟨Tracer.linesOf_eq hc.sound hin.isSome_iff, fun b hb n hn => ?_, ?_⟩
  · obtain ⟨hmem, hfile⟩ := Registry.mem_enabledOf_iff_mem_enabled.1 hb
    refine hin.planted?_eq hc.lasting (hc.sound.wanted?_iff_mem_enabled.2 ⟨hmem, ?_⟩)
    rw [Breakpoint.location, hfile, hn]
  · intro stack n htop hquit hstart hload
    rw [hc.lasting.stops_iff htop hquit hstart hload, hc.sound.mem_knownLines_iff_wanted?]
    exact hin.isSome_iff n

/-! ## A session with one breakpoint -/

/-- The file `/a.py`. -/
def sampleFile : SourceFile := ⟨[⟨"a.py", by decide⟩]⟩

/-- The file `/b.py`. -/
def sampleOther : SourceFile := ⟨[⟨"b.py", by decide⟩]⟩

/-- An enabled breakpoint of the IDE at line 10 of `/a.py`. -/
def sampleStored : StoredBreakpoint := ⟨"", .ok "/a.py", .ok 10, .ok none, .ok true, none⟩

/-- The parts of a session on an empty file tree. -/
def sampleParts : Parts := ⟨⟨"", "", false, false, false, "", ""⟩, ⟨[]⟩, [], fun _ => none⟩

/-- The session after the debugger was installed, the breakpoint added and its event dispatched. -/
def sampleRun : Relay :=
  (((started sampleParts).setup .direct).1.move (.edit (.added sampleStored))).move .dispatch

theorem reaches_sampleRun : Reaches sampleParts sampleRun := by
  refine .move .dispatch (.move _ (.setup .started rfl) fun b m l _ _ hown => ?_) trivial
  rw [show ((started sampleParts).setup .direct).1.registry.owners.find? m = none from rfl] at hown
  simp at hown

/-- The breakpoint is in the table, and its line stops. -/
theorem converged_sampleRun :
    sampleRun.isAttached = true ∧ (∀ e ∈ sampleRun.queue.waiting, e.file? = none) ∧
    sampleRun.native.tracer.linesOf sampleFile = [10] ∧
    (sampleRun.native.tracer.line [.ofFile .zero sampleFile 10 ∅]).2 = .stopped .breakpoint := by
  have ha : sampleRun.isAttached = true := by cbv
  have hw : sampleRun.queue.waiting = [] := by cbv
  have hq : ∀ e ∈ sampleRun.queue.waiting, e.file? = none := by simp [hw]
  obtain ⟨hlines, -, hstops⟩ := reaches_sampleRun.converged ha hq sampleFile
  have hknown : knownLines (sampleRun.registry.enabledOf sampleFile) = [10] := by cbv
  have hverdict : (sampleRun.native.tracer.line [.ofFile .zero sampleFile 10 ∅]).2 =
      .stopped .breakpoint := by cbv
  refine ⟨ha, hq, hlines.trans hknown, (hstops _ 10 (by cbv) (by cbv) ?_ ?_).2 ?_⟩
  · simp [hverdict]
  · simp [hverdict]
  · simp [hknown]

end DebugRelay.Relay
