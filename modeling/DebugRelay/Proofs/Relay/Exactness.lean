import DebugRelay.Proofs.Registry.Walks
import DebugRelay.Proofs.Relay.Convergence
import DebugRelay.Proofs.Relay.Effects

/-!
# What reconciling a file sends and leaves

`Hook.accepted` is how many of a list of commands a debugger accepts, sent one after the other. To
reconcile a file is to send the debugger one command that clears it and one for each enabled entry,
whatever it refuses on the way, and to count those that it accepts (`reconcile_sends`). In a tracer
this replaces the breakpoints of the file by those of the registry with nothing counted yet, and
touches nothing else (`Tracer.reinstated_plantAll`). `reconcile_exact` puts these together for every
history of the registry.
-/

namespace DebugRelay

/-! ## Accepted commands -/

/-- The command sets a breakpoint whose line is not known. -/
def Command.isLineless : Command → Bool
  | setBreak b => b.line.isNone
  | _ => false

/-- Whether a debugger accepts a command after the calls made before. A tracer can set no breakpoint
without a line. -/
def Hook.accepts (h : Hook) (before : List Call) (c : Command) : Bool :=
  (h.refuses before c).isNone && !(h.traced && c.isLineless)

/-- How many commands a debugger accepts that are sent one after the other. -/
def Hook.accepted (h : Hook) (before : List Call) : List Command → Nat
  | [] => 0
  | c :: rest =>
    h.accepted (before ++ [.command c]) rest + if h.accepts before c then 1 else 0

theorem Hook.accepts_direct (before : List Call) (c : Command) :
    Hook.direct.accepts before c = !c.isLineless := rfl

/-- A tracer accepts the breakpoints whose line is known. -/
theorem Hook.accepted_direct (before : List Call) (bs : List Breakpoint) :
    Hook.direct.accepted before (bs.map .setBreak) = bs.countP (·.line.isSome) := by
  induction bs generalizing before with
  | nil => rfl
  | cons b rest ih =>
    rw [List.map_cons, accepted, ih, accepts_direct, List.countP_cons, Command.isLineless]
    cases b.line <;> rfl

theorem Tracer.invoke_snd (t : Tracer) (c : Command) :
    (∃ e, (t.invoke c).2 = .error e) ↔ c.isLineless = true := by
  cases c with
  | setBreak b => cases hline : b.line <;> simp [invoke, Command.isLineless, hline]
  | _ => simp [invoke, Command.isLineless]

theorem Native.invoke_snd (n : Native) (h : Hook) (c : Command) :
    (∃ e, (n.invoke h c).2 = .error e) ↔ h.accepts n.calls c = false := by
  unfold invoke Hook.accepts
  cases h.refuses n.calls c with
  | some e => simp
  | none =>
    cases h.traced with
    | false => simp
    | true => simpa using Tracer.invoke_snd _ c

namespace Relay

variable {r : Relay} {h : Hook} {f : SourceFile}

theorem invoke_snd (r : Relay) (h : Hook) (c : Command) :
    (r.invoke h c).2 = h.accepts r.native.calls c := by
  have haccepts := r.native.invoke_snd h c
  unfold invoke
  cases hresult : (r.native.invoke h c).2 with
  | ok _ =>
    rw [hresult] at haccepts
    simp only [hresult]
    simpa using haccepts
  | error e =>
    rw [hresult] at haccepts
    simp only [hresult]
    simpa using haccepts

theorem calls_invoke (r : Relay) (h : Hook) (c : Command) :
    (r.invoke h c).1.native.calls = r.native.calls ++ [.command c] := by
  obtain ⟨log, heq⟩ := r.invoke_eq h c
  rw [heq]
  exact r.native.calls_invoke h c

/-- The debugger is sent every breakpoint of the list, and those that it accepts are counted. -/
theorem setBreakpoints_sends {bs : List Breakpoint} (hook : r.link.hook = some h)
    (hbs : ∀ b ∈ bs, b.enabled = true) :
    (r.setBreakpoints bs).1.native.calls = r.native.calls ++ bs.map (.command <| .setBreak ·) ∧
      (r.setBreakpoints bs).2 = h.accepted r.native.calls (bs.map .setBreak) := by
  induction bs generalizing r with
  | nil => exact ⟨(List.append_nil _).symm, rfl⟩
  | cons b rest ih =>
    have hone : r.setBreakpoint b = r.invoke h (.setBreak b) := by
      simp only [setBreakpoint, hbs b List.mem_cons_self, if_true, fire, hook]
    have hcalls := r.calls_invoke h (.setBreak b)
    have hlink : (r.invoke h (.setBreak b)).1.link.hook = some h := by
      rw [link_invoke, hook]
    obtain ⟨hsent, hcount⟩ := ih hlink fun b' hb' => hbs b' (List.mem_cons_of_mem _ hb')
    constructor
    · calc (r.setBreakpoints (b :: rest)).1.native.calls
          = ((r.invoke h (.setBreak b)).1.setBreakpoints rest).1.native.calls := by
            rw [← hone]
            rfl
        _ = r.native.calls ++ [.command (.setBreak b)] ++ rest.map (.command <| .setBreak ·) := by
            rw [hsent, hcalls]
        _ = _ := by simp
    · calc (r.setBreakpoints (b :: rest)).2
          = ((r.invoke h (.setBreak b)).1.setBreakpoints rest).2 +
              if (r.invoke h (.setBreak b)).2 then 1 else 0 := by
            rw [← hone]
            rfl
        _ = _ := by
            rw [hcount, hcalls, invoke_snd]
            rfl

/-- Reconciling a file sends a command that clears it and one for each of its enabled entries in
order, and counts the entries that are accepted. -/
theorem reconcile_sends (hook : r.link.hook = some h) (f : SourceFile) :
    (r.reconcile f).1.native.calls = r.native.calls ++ .command (.clearFile f) ::
        (r.registry.enabledOf f).map (.command <| .setBreak ·) ∧
      (r.reconcile f).2 = h.accepted (r.native.calls ++ [.command (.clearFile f)])
        ((r.registry.enabledOf f).map .setBreak) := by
  have hclear : r.clearFile f = r.invoke h (.clearFile f) := by
    simp only [clearFile, fire, hook]
  have hreconcile : r.reconcile f =
      (r.clearFile f).1.setBreakpoints ((r.clearFile f).1.registry.enabledOf f) := by
    simp only [reconcile, isAttached, hook, Option.isSome_some, if_true]
  have hregistry : (r.invoke h (.clearFile f)).1.registry = r.registry := by
    obtain ⟨log, heq⟩ := r.invoke_eq h (.clearFile f)
    rw [heq]
  have hlink : (r.invoke h (.clearFile f)).1.link.hook = some h := by
    rw [link_invoke, hook]
  have henabled : ∀ b ∈ r.registry.enabledOf f, b.enabled = true :=
    fun b hb => (Registry.mem_enabledOf_iff.1 hb).2.1
  rw [hreconcile, hclear, hregistry]
  obtain ⟨hsent, hcount⟩ := setBreakpoints_sends hlink henabled
  rw [hsent, hcount, calls_invoke]
  simp

end Relay

/-! ## The table of a tracer -/

/-- A tracer after the breakpoints of a file were replaced by those that a registry has enabled
there. -/
structure Tracer.Reinstated (t t' : Tracer) (g : Registry) (f : SourceFile) : Prop where
  /-- Nothing but the table changes. -/
  rest : ∃ table, t' = { t with table := table }
  /-- The file has the enabled entries whose line is known, with nothing counted yet. -/
  here : ∀ n p, t'.planted? f n = some p ↔
    ∃ b, g.find? ⟨f, some n⟩ = some b ∧ b.enabled = true ∧
      p = ⟨b.condition, b.hitCount, b.temporary, 0⟩
  /-- The other files keep theirs. -/
  elsewhere : ∀ k n, k ≠ f → t'.planted? k n = t.planted? k n

namespace Tracer

/-- A tracer is its table and the rest. -/
theorem eq_of_planted? {t : Tracer} {table table' : OrderedMap Spot Planted}
    (h : ∀ f n, { t with table := table }.planted? f n = { t with table := table' }.planted? f n) :
    ({ t with table := table } : Tracer) = { t with table := table' } := by
  have htable : table = table' := OrderedMap.ext_find? fun s => h s.file s.line
  rw [htable]

theorem reinstated_plantAll (t : Tracer) {g : Registry} (hg : g.Sound) (f : SourceFile) :
    t.Reinstated ((t.clearFile f).plantAll (g.enabledOf f)) g f where
  rest := by
    obtain ⟨table, heq⟩ := Relay.plantAll_eq (t.clearFile f) (g.enabledOf f)
    exact ⟨table, heq⟩
  here n p := by
    rw [planted?_reconciled t hg, if_pos rfl, Option.map_eq_some_iff]
    constructor
    · rintro ⟨b, hb, rfl⟩
      obtain ⟨hfind, henabled⟩ := Registry.wanted?_eq_some_iff.1 hb
      exact ⟨b, hfind, henabled, rfl⟩
    · rintro ⟨b, hfind, henabled, rfl⟩
      exact ⟨b, Registry.wanted?_eq_some_iff.2 ⟨hfind, henabled⟩, rfl⟩
  elsewhere k n hk := by rw [planted?_reconciled t hg, if_neg hk]

/-- What a file gets depends on the registry alone, so that doing it again changes nothing. -/
theorem Reinstated.eq {t u v : Tracer} {g : Registry} {f : SourceFile} (h : t.Reinstated u g f)
    (h' : u.Reinstated v g f) : v = u := by
  obtain ⟨table, rfl⟩ := h.rest
  obtain ⟨table', rfl⟩ := h'.rest
  refine eq_of_planted? (t := t) fun k n => ?_
  by_cases hk : k = f
  · subst hk
    apply Option.ext
    intro p
    exact (h'.here n p).trans (h.here n p).symm
  · exact h'.elsewhere k n hk

end Tracer

namespace Relay

variable {r : Relay} {f : SourceFile}

theorem reinstated_reconcile (hook : r.link.hook = some .direct) (hs : r.registry.Sound)
    (f : SourceFile) :
    r.native.tracer.Reinstated (r.reconcile f).1.native.tracer r.registry f := by
  obtain ⟨calls, log, heq⟩ := reconcile_direct hook f
  rw [heq]
  exact r.native.tracer.reinstated_plantAll hs f

theorem handleRequest_of_file? {e : Event} (he : e.file? = some f) :
    r.handleRequest e = (r.reconcile f).1 := by
  cases e with
  | breakpointAdded b => exact Option.some.inj he ▸ rfl
  | breakpointRemoved b => exact Option.some.inj he ▸ rfl
  | breakpointChanged b => exact Option.some.inj he ▸ rfl
  | _ => simp [Event.file?] at he

/-- Reconciling a file, after any history of the registry. Whatever debugger is installed gets one
command that clears the file, and one for each enabled entry of the file in the order of lines, the
unknown line first; those that it accepts are counted. A tracer, in whatever state it is, then has
exactly the enabled entries of the file whose line is known, as they are before their first hit;
these are counted, nothing else of the tracer changes, and reconciling again counts the same and
leaves the tracer as it is. The load of the file and every event about a breakpoint in it do just
that. -/
theorem reconcile_exact (ops : List Registry.Op) (r : Relay) (f : SourceFile)
    (hr : r.registry = Registry.empty.after ops) :
    (∀ h, r.link.hook = some h →
      (r.reconcile f).1.native.calls = r.native.calls ++ .command (.clearFile f) ::
          (r.registry.enabledOf f).map (.command <| .setBreak ·) ∧
        (r.reconcile f).2 = h.accepted (r.native.calls ++ [.command (.clearFile f)])
          ((r.registry.enabledOf f).map .setBreak)) ∧
    (∀ b, b ∈ r.registry.enabledOf f ↔
      ∃ line, r.registry.find? ⟨f, line⟩ = some b ∧ b.enabled = true) ∧
    (r.registry.enabledOf f).Pairwise (fun a b => a.line < b.line) ∧
    (r.link.hook = some .direct →
      r.native.tracer.Reinstated (r.reconcile f).1.native.tracer r.registry f ∧
        (r.reconcile f).2 = (r.registry.enabledOf f).countP (·.line.isSome) ∧
        ((r.reconcile f).1.reconcile f).2 = (r.reconcile f).2 ∧
        ((r.reconcile f).1.reconcile f).1.native.tracer = (r.reconcile f).1.native.tracer) ∧
    r.onScriptLoad f = (r.reconcile f).1 ∧
    ∀ e, e.file? = some f → r.handleRequest e = (r.reconcile f).1 := by
  have hs : r.registry.Sound := hr ▸ (Registry.coherent_after ops).toSound
  refine ⟨fun h hook => reconcile_sends hook f, ?_, ?_, ?_, rfl, fun e => handleRequest_of_file?⟩
  · intro b
    rw [Registry.enabledOf_eq_filter, List.mem_filter, hs.mem_ofFile_iff]
    exact exists_and_right.symm
  · rw [Registry.enabledOf_eq_filter]
    exact (hs.pairwise_ofFile f).filter _
  · intro hook
    have hcount : ∀ s : Relay, s.link.hook = some .direct →
        (s.reconcile f).2 = (s.registry.enabledOf f).countP (·.line.isSome) := by
      intro s hook
      rw [(reconcile_sends hook f).2, Hook.accepted_direct]
    have hfirst := reinstated_reconcile hook hs f
    -- the debugger and the registry are what they were, so the second time does what the first did
    obtain ⟨calls, log, heq⟩ := reconcile_direct hook f
    have hook' : (r.reconcile f).1.link.hook = some .direct := by
      rw [heq]
      exact hook
    have hregistry : (r.reconcile f).1.registry = r.registry := by rw [heq]
    have hsecond := reinstated_reconcile hook' (hregistry ▸ hs) f
    rw [hregistry] at hsecond
    refine ⟨hfirst, hcount r hook, ?_, hfirst.eq hsecond⟩
    rw [hcount _ hook', hcount r hook, hregistry]

/-! ## A table with a breakpoint left over -/

/-- A breakpoint without a line is put, one that ignores two hits, and a disabled one. -/
def sampleOps : List Registry.Op :=
  [.put ⟨sampleFile, none, none, 0, false, true, none⟩,
    .put ⟨sampleFile, some 10, some "x", 2, true, true, none⟩,
    .put ⟨sampleFile, some 12, none, 0, false, false, none⟩]

/-- A relay with these breakpoints whose debugger has another one at line 3. -/
def sampleStale (h : Hook) : Relay :=
  { started sampleParts with
    registry := Registry.empty.after sampleOps
    link := { hook := some h }
    native := ⟨({} : Tracer).plant 3 (.atLine sampleFile 3), []⟩ }

/-- A debugger that does not clear files. -/
def sampleKeeper : Hook where
  traced := false
  refuses _ c := if c = .clearFile sampleFile then some (.command c.nativeName "busy") else none

/-- The breakpoint left over goes and the one with a line comes, where the tracer is the debugger;
the other debugger gets and accepts both breakpoints, although it refused to clear the file. -/
theorem reconcile_sampleStale :
    ((sampleStale .direct).reconcile sampleFile).2 = 1 ∧
    ((sampleStale .direct).reconcile sampleFile).1.native.tracer.planted? sampleFile 3 = none ∧
    ((sampleStale .direct).reconcile sampleFile).1.native.tracer.planted? sampleFile 10 =
      some ⟨some "x", 2, true, 0⟩ ∧
    (sampleStale .direct).handleRequest (.breakpointRemoved (.atLine sampleFile 3)) =
      ((sampleStale .direct).reconcile sampleFile).1 ∧
    ((sampleStale sampleKeeper).reconcile sampleFile).2 = 2 := by
  obtain ⟨-, -, -, htracer, -, hevent⟩ :=
    reconcile_exact sampleOps (sampleStale .direct) sampleFile rfl
  obtain ⟨hkeeper, -⟩ := reconcile_exact sampleOps (sampleStale sampleKeeper) sampleFile rfl
  obtain ⟨htable, hcount, -, -⟩ := htracer rfl
  refine ⟨hcount.trans (by cbv), ?_, ?_, hevent (.breakpointRemoved (.atLine sampleFile 3)) rfl, ?_⟩
  · rw [Option.eq_none_iff_forall_ne_some]
    intro p hp
    obtain ⟨b, hb, -⟩ := (htable.here 3 p).1 hp
    have hnone : (sampleStale .direct).registry.find? ⟨sampleFile, some 3⟩ = none := by cbv
    rw [hnone] at hb
    simp at hb
  · refine (htable.here 10 _).2 ⟨⟨sampleFile, some 10, some "x", 2, true, true, none⟩, ?_, rfl, rfl⟩
    cbv
  · exact (hkeeper sampleKeeper rfl).2.trans (by cbv)

end Relay

end DebugRelay
