import DebugRelay.Proofs.Relay.Setups
import DebugRelay.Proofs.Session.Histories

/-!
# Calls of the link in turn

The link is called by the engine, by the IDE and by the dispatch loop, and between two calls the
IDE changes the registry, events are queued and taken, and the tracer goes on. `Relay.Turn` is one
call with what others left before it, and `Relay.turned` is the relay after a list of turns.

What a turn comes to is `Relay.Handled`: a setup installs its debugger or fails; any other call
finds no debugger and is idle (`Idle`), ends the script with the command to quit, drops the
debugger, or is served by it. Every turn comes to one of these (`handled`), and what is said of
lists of turns is by induction on them, with one case for each.
-/

namespace DebugRelay.Relay

/-- What a call of the link is for. -/
inductive LinkCall.Aim where
  | install
  | quit
  | drop
  | serve
  deriving DecidableEq

/-- What a call of the link is for: to install a debugger, to end the script, to drop the debugger
without a word, or to have something done. -/
def LinkCall.aim : LinkCall → LinkCall.Aim
  | setup _ => .install
  | terminate | request .terminateRequest => .quit
  | detach => .drop
  | _ => .serve

/-- What a call of the link answers. -/
inductive Answer where
  | nothing
  | flag (b : Bool)
  | count (n : Nat)
  | result (x : Except Error Unit)

/-- The answer of a call that found no debugger. -/
def Answer.IsNo : Answer → Prop
  | nothing => True
  | flag b => b = false
  | count n => n = 0
  | result _ => False

/-- The answer of a call of the link. -/
def answer (r : Relay) : LinkCall → Answer
  | .setup i => .result (r.setup i).2
  | .setBreakpoint b => .flag (r.setBreakpoint b).2
  | .clearFile f => .flag (r.clearFile f).2
  | .reconcile f => .count (r.reconcile f).2
  | .installAll => .count r.installAll.2
  | .step kind => .flag (r.step kind).2
  | .terminate => .flag r.terminate.2
  | .detach | .onSuspend _ | .onScriptLoad _ | .request _ => .nothing

/-- A call of the link, with the breakpoints that are wanted, the queue and the tracer as others
left them before it. -/
structure Turn where
  registry : Registry := .empty
  queue : Queue := {}
  tracer : Tracer := {}
  call : LinkCall

/-- A call of the link, with nothing wanted, queued or running before it. -/
def Turn.of (c : LinkCall) : Turn := { call := c }

/-- The relay as a turn finds it. -/
def found (r : Relay) (t : Turn) : Relay :=
  { r with
    registry := t.registry
    queue := t.queue
    native := { r.native with tracer := t.tracer } }

/-- The relay after a turn. -/
def turn (r : Relay) (t : Turn) : Relay := (r.found t).callLink t.call

/-- The relay after a list of turns, the first of them taken first. -/
def turned (r : Relay) (ts : List Turn) : Relay := ts.foldl turn r

@[simp]
theorem turned_nil (r : Relay) : r.turned [] = r := rfl

@[simp]
theorem turned_cons (r : Relay) (t : Turn) (ts : List Turn) :
    r.turned (t :: ts) = (r.turn t).turned ts := rfl

theorem turned_append (r : Relay) (ts more : List Turn) :
    r.turned (ts ++ more) = (r.turned ts).turned more :=
  List.foldl_append

/-! ## What happens in a turn -/

/-- Whether a turn installs a debugger. -/
def installs (r : Relay) (t : Turn) : Bool :=
  match t.call with
  | .setup i => ((r.found t).setup i).2.isOk
  | _ => false

/-- Whether a turn ends the script. -/
def terminates (r : Relay) (t : Turn) : Bool :=
  match t.call.aim with
  | .quit => (r.found t).terminate.2
  | _ => false

/-- Whether a turn ends the script or drops the debugger without a word. -/
def drops (r : Relay) (t : Turn) : Bool := r.terminates t || t.call.aim = .drop

/-- The commands that are sent in a turn. -/
def sent (r : Relay) (t : Turn) : List Command :=
  ((r.turn t).native.calls.drop r.native.calls.length).filterMap Call.command?

/-- Nothing is sent in a turn, its call is answered with no, and no going on is announced. -/
structure Idle (r : Relay) (t : Turn) : Prop where
  silent : (r.turn t).native = (r.found t).native
  no : ((r.found t).answer t.call).IsNo
  unresumed : ∃ offered, (r.turn t).queue = t.queue.offerAll offered ∧
    ∀ thread kind, .resumed thread kind ∉ offered

/-- What a turn comes to. -/
inductive Handled (r : Relay) (t : Turn) : Prop
  /-- A setup installs its debugger. -/
  | installed (i : Interpreter) (hcall : t.call = .setup i) (hinstalls : r.installs t = true)
      (hook' : (r.turn t).link.hook = some i.hook) (hquit : .quit ∉ r.sent t)
  /-- A setup fails. -/
  | failed (haim : t.call.aim = .install) (hinstalls : r.installs t = false)
      (hlink : (r.turn t).link = r.link) (hquit : .quit ∉ r.sent t)
  /-- Another call finds no debugger. -/
  | idle (haim : t.call.aim ≠ .install) (hook : r.link.hook = none)
      (hook' : (r.turn t).link.hook = none) (hidle : r.Idle t)
  /-- The debugger is told to quit and dropped. -/
  | ended (haim : t.call.aim = .quit) (hook : r.link.hook ≠ none)
      (hook' : (r.turn t).link.hook = none) (hsent : r.sent t = [.quit])
  /-- The debugger is dropped without a word. -/
  | dropped (haim : t.call.aim = .drop) (hook : r.link.hook ≠ none)
      (hook' : (r.turn t).link.hook = none) (hsent : r.sent t = [])
  /-- The debugger stays, and gets what the call has for it. -/
  | served (haim : t.call.aim = .serve) (hook : r.link.hook ≠ none)
      (hook' : (r.turn t).link.hook = r.link.hook) (hquit : .quit ∉ r.sent t)

variable {r s u : Relay} {t : Turn}

/-! ## Calls by what they are for -/

theorem exists_setup_of_aim {c : LinkCall} (h : c.aim = .install) : ∃ i, c = .setup i := by
  cases c with
  | setup i => exact ⟨i, rfl⟩
  | request e => cases e <;> cases h
  | _ => cases h

theorem callLink_of_quit (r : Relay) {c : LinkCall} (h : c.aim = .quit) :
    r.callLink c = r.terminate.1 := by
  cases c with
  | terminate => rfl
  | request e =>
    cases e with
    | terminateRequest => rfl
    | _ => cases h
  | _ => cases h

theorem callLink_of_drop (r : Relay) {c : LinkCall} (h : c.aim = .drop) :
    r.callLink c = r.detach := by
  cases c with
  | detach => rfl
  | request e => cases e <;> cases h
  | _ => cases h

/-! ## Calls without a debugger -/

theorem fire_of_detached (h : r.link.hook = none) (c : Command) : r.fire c = (r, false) := by
  simp only [fire, h]

theorem setBreakpoint_of_detached (h : r.link.hook = none) (b : Breakpoint) :
    r.setBreakpoint b = (r, false) := by
  rw [setBreakpoint, fire_of_detached h]
  split <;> rfl

theorem setBreakpoints_of_detached (h : r.link.hook = none) (bs : List Breakpoint) :
    r.setBreakpoints bs = (r, 0) := by
  induction bs with
  | nil => rfl
  | cons b rest ih =>
    rw [setBreakpoints, setBreakpoint_of_detached h]
    simp only [ih]
    rfl

theorem terminate_of_detached (h : r.link.hook = none) : r.terminate = (r, false) := by
  simp only [terminate, h]

/-- A call changes nothing and answers no. -/
theorem idle_of_eq (hcall : r.turn t = r.found t)
    (hno : ((r.found t).answer t.call).IsNo) : r.Idle t where
  silent := congrArg Relay.native hcall
  no := hno
  unresumed := ⟨[], congrArg Relay.queue hcall, fun _ _ => List.not_mem_nil⟩

/-- A call does no more than tell the IDE of a stop. -/
theorem idle_of_told {e : Event} (hno : (r.found t).answer t.call = .nothing)
    (hnative : (r.turn t).native = (r.found t).native)
    (hqueue : (r.turn t).queue = (t.queue.enqueue e).1)
    (he : ∀ thread kind, .resumed thread kind ≠ e) : r.Idle t where
  silent := hnative
  no := by
    rw [hno]
    trivial
  unresumed := by
    refine ⟨[e], hqueue, fun thread kind hmem => ?_⟩
    exact he thread kind (List.mem_singleton.1 hmem)

/-- Without a debugger every call but a setup is idle. -/
theorem idle_of_detached (h : r.link.hook = none) (haim : t.call.aim ≠ .install) : r.Idle t := by
  have hfound : (r.found t).link.hook = none := h
  obtain ⟨registry, queue, tracer, call⟩ := t
  cases call with
  | setup i => exact absurd rfl haim
  | setBreakpoint b =>
    have heq := setBreakpoint_of_detached hfound b
    exact idle_of_eq (congrArg Prod.fst heq) (congrArg Prod.snd heq)
  | clearFile f =>
    have heq := fire_of_detached hfound (.clearFile f)
    exact idle_of_eq (congrArg Prod.fst heq) (congrArg Prod.snd heq)
  | reconcile f =>
    have heq := reconcile_of_detached hfound f
    exact idle_of_eq (congrArg Prod.fst heq) (congrArg Prod.snd heq)
  | installAll =>
    have heq := setBreakpoints_of_detached hfound registry.enabled
    exact idle_of_eq (congrArg Prod.fst heq) (congrArg Prod.snd heq)
  | step kind =>
    have heq := step_of_detached hfound kind
    exact idle_of_eq (congrArg Prod.fst heq) (congrArg Prod.snd heq)
  | terminate =>
    have heq := terminate_of_detached hfound
    exact idle_of_eq (congrArg Prod.fst heq) (congrArg Prod.snd heq)
  | detach => exact ⟨rfl, trivial, [], rfl, fun _ _ => List.not_mem_nil⟩
  | onSuspend stop => exact idle_of_told rfl rfl rfl (by simp)
  | onScriptLoad f =>
    exact idle_of_eq (congrArg Prod.fst (reconcile_of_detached hfound f)) trivial
  | request e =>
    cases e with
    | breakpointAdded b =>
      exact idle_of_eq (congrArg Prod.fst (reconcile_of_detached hfound b.file)) trivial
    | breakpointRemoved b =>
      exact idle_of_eq (congrArg Prod.fst (reconcile_of_detached hfound b.file)) trivial
    | breakpointChanged b =>
      exact idle_of_eq (congrArg Prod.fst (reconcile_of_detached hfound b.file)) trivial
    | stepRequest kind =>
      exact idle_of_eq (congrArg Prod.fst (step_of_detached hfound kind)) trivial
    | terminateRequest =>
      exact idle_of_eq (congrArg Prod.fst (terminate_of_detached hfound)) trivial
    | framesRequest =>
      -- a stop that is remembered is told again, with or without a debugger
      cases hstop : r.link.suspension with
      | none =>
        refine idle_of_eq ?_ trivial
        simp only [turn, callLink, handleRequest, resendSuspension, found, hstop]
      | some stop =>
        apply idle_of_told rfl
        · simp only [turn, callLink, handleRequest, resendSuspension, found, hstop]
          rfl
        · simp only [turn, callLink, handleRequest, resendSuspension, found, hstop]
          rfl
        · simp
    | _ => exact idle_of_eq rfl trivial

/-! ## Calls that spare the debugger -/

/-- The debugger stays and is not told to quit. -/
structure Spares (r s : Relay) : Prop where
  hook : s.link.hook = r.link.hook
  calls : ∃ calls, s.native.calls = r.native.calls ++ calls ∧ .command .quit ∉ calls

theorem Spares.of_calls_eq (hook : s.link.hook = r.link.hook)
    (hcalls : s.native.calls = r.native.calls) : r.Spares s where
  hook := hook
  calls := ⟨[], by rw [hcalls, List.append_nil], List.not_mem_nil⟩

theorem Spares.refl (r : Relay) : r.Spares r := .of_calls_eq rfl rfl

theorem Spares.trans (h : r.Spares s) (h' : s.Spares u) : r.Spares u where
  hook := h'.hook.trans h.hook
  calls := by
    obtain ⟨calls, hcalls, hquit⟩ := h.calls
    obtain ⟨more, hmore, hquit'⟩ := h'.calls
    refine ⟨calls ++ more, by rw [hmore, hcalls, List.append_assoc], ?_⟩
    rw [List.mem_append, not_or]
    exact ⟨hquit, hquit'⟩

theorem spares_invoke (r : Relay) (h : Hook) {c : Command} (hc : c ≠ .quit) :
    r.Spares (r.invoke h c).1 where
  hook := by rw [link_invoke]
  calls := ⟨[.command c], r.calls_invoke h c, by simpa using hc.symm⟩

theorem spares_fire (r : Relay) {c : Command} (hc : c ≠ .quit) : r.Spares (r.fire c).1 := by
  cases hook : r.link.hook with
  | none =>
    rw [fire_of_detached hook]
    exact .refl r
  | some h =>
    simp only [fire, hook]
    exact r.spares_invoke h hc

theorem spares_setBreakpoint (r : Relay) (b : Breakpoint) : r.Spares (r.setBreakpoint b).1 := by
  rw [setBreakpoint]
  split
  · exact r.spares_fire (by simp)
  · exact .refl r

theorem spares_setBreakpoints (r : Relay) (bs : List Breakpoint) :
    r.Spares (r.setBreakpoints bs).1 := by
  induction bs generalizing r with
  | nil => exact .refl r
  | cons b rest ih => exact (r.spares_setBreakpoint b).trans (ih _)

theorem spares_reconcile (r : Relay) (f : SourceFile) : r.Spares (r.reconcile f).1 := by
  rw [reconcile]
  split
  · exact (r.spares_fire (by simp)).trans (spares_setBreakpoints _ _)
  · exact .refl r

theorem spares_step (r : Relay) (kind : StepKind) : r.Spares (r.step kind).1 := by
  have hkind : Command.ofStep kind ≠ .quit := by cases kind <;> simp [Command.ofStep]
  rw [step]
  split
  · exact .refl r
  · next h hook =>
    -- forgetting the stop and announcing that the script goes on is no business of the debugger
    let told := ({ r with link := { r.link with suspension := none } } : Relay).send
      (.resumed r.link.lastThread kind)
    have htold : r.Spares told := .of_calls_eq rfl rfl
    exact htold.trans (told.spares_invoke h hkind)

theorem spares_resendSuspension (r : Relay) : r.Spares r.resendSuspension := by
  rw [resendSuspension]
  split
  · exact .of_calls_eq rfl rfl
  · exact .refl r

/-- A call that is to have something done spares the debugger. -/
theorem spares_callLink (r : Relay) {c : LinkCall} (haim : c.aim = .serve) :
    r.Spares (r.callLink c) := by
  cases c with
  | setup i => cases haim
  | setBreakpoint b => exact r.spares_setBreakpoint b
  | clearFile f => exact r.spares_fire (by simp)
  | reconcile f => exact r.spares_reconcile f
  | installAll => exact r.spares_setBreakpoints _
  | step kind => exact r.spares_step kind
  | terminate => cases haim
  | detach => cases haim
  | onSuspend stop => exact .of_calls_eq rfl rfl
  | onScriptLoad f => exact r.spares_reconcile f
  | request e =>
    cases e with
    | breakpointAdded b => exact r.spares_reconcile b.file
    | breakpointRemoved b => exact r.spares_reconcile b.file
    | breakpointChanged b => exact r.spares_reconcile b.file
    | stepRequest kind => exact r.spares_step kind
    | framesRequest => exact r.spares_resendSuspension
    | terminateRequest => cases haim
    | _ => exact .refl r

/-! ## The commands of a turn -/

theorem sent_of_calls {calls : List Call}
    (h : (r.turn t).native.calls = r.native.calls ++ calls) :
    r.sent t = calls.filterMap Call.command? := by
  rw [sent, h, List.drop_left]

theorem mem_commands_iff {c : Command} {calls : List Call} :
    c ∈ calls.filterMap Call.command? ↔ .command c ∈ calls := by
  rw [List.mem_filterMap]
  constructor
  · rintro ⟨call, hmem, hcall⟩
    cases call with
    | command d => exact Option.some.inj hcall ▸ hmem
    | _ => cases hcall
  · intro hmem
    exact ⟨.command c, hmem, rfl⟩

/-- A turn takes no command back. -/
theorem commands_turn (r : Relay) (t : Turn) : (r.turn t).commands = r.commands ++ r.sent t := by
  obtain ⟨offered, heffect⟩ := (r.found t).effect_callLink t.call
  obtain ⟨calls, hcalls⟩ := heffect.calls
  have hturn : (r.turn t).native.calls = r.native.calls ++ calls := hcalls.symm
  rw [sent_of_calls hturn, commands, hturn, List.filterMap_append]
  rfl

theorem Idle.sent (h : r.Idle t) : r.sent t = [] := by
  have hcalls : (r.turn t).native.calls = r.native.calls ++ [] := by
    rw [h.silent, List.append_nil]
    rfl
  exact sent_of_calls hcalls

theorem quit_notMem_sent_of_spares (h : (r.found t).Spares (r.turn t)) : .quit ∉ r.sent t := by
  obtain ⟨calls, hcalls, hquit⟩ := h.calls
  rw [sent_of_calls hcalls, mem_commands_iff]
  exact hquit

theorem quit_notMem_sent_of_setup (haim : t.call.aim = .install) : .quit ∉ r.sent t := by
  obtain ⟨i, hcall⟩ := exists_setup_of_aim haim
  obtain ⟨calls, hcalls, hcommands⟩ := (r.found t).calls_setup i
  have hturn : (r.turn t).native.calls = r.native.calls ++ calls := by
    rw [turn, hcall]
    exact hcalls
  rw [sent_of_calls hturn, mem_commands_iff]
  intro hmem
  rcases hcommands _ hmem with hstart | ⟨b, -, hset⟩
  · simp [DebuggerSettings.startCommands] at hstart
  · cases hset

/-! ## What turns come to -/

theorem handled_install (haim : t.call.aim = .install) : r.Handled t := by
  have hquit := quit_notMem_sent_of_setup (r := r) haim
  obtain ⟨i, hcall⟩ := exists_setup_of_aim haim
  have hinstalls : r.installs t = ((r.found t).setup i).2.isOk := by rw [installs, hcall]
  have hlink : (r.turn t).link = ((r.found t).setup i).1.link := by
    rw [turn, hcall]
    rfl
  rcases (r.found t).link_setup i with ⟨hok, hook⟩ | ⟨e, herror, hsame⟩
  · exact .installed i hcall (by rw [hinstalls, hok]; rfl) (by rw [hlink, hook]) hquit
  · exact .failed haim (by rw [hinstalls, herror]; rfl) (hlink.trans hsame) hquit

theorem handled_quit (haim : t.call.aim = .quit) (hook : r.link.hook ≠ none) : r.Handled t := by
  obtain ⟨h, hh⟩ := Option.ne_none_iff_exists'.1 hook
  have hturn : r.turn t = (r.found t).terminate.1 := callLink_of_quit _ haim
  have hfound : (r.found t).link.hook = some h := hh
  have hcalls : (r.turn t).native.calls = r.native.calls ++ [.command .quit] := by
    rw [hturn]
    simp only [terminate, hfound, calls_invoke]
    rfl
  exact .ended haim hook (by rw [hturn]; exact hook_terminate _) (sent_of_calls hcalls)

theorem handled_drop (haim : t.call.aim = .drop) (hook : r.link.hook ≠ none) : r.Handled t := by
  have hturn : r.turn t = (r.found t).detach := callLink_of_drop _ haim
  have hcalls : (r.turn t).native.calls = r.native.calls ++ [] := by
    rw [hturn, List.append_nil]
    rfl
  exact .dropped haim hook (congrArg (·.link.hook) hturn) (sent_of_calls hcalls)

/-- Nothing but a setup installs a debugger. -/
theorem hook_turn_of_detached (h : r.link.hook = none) (haim : t.call.aim ≠ .install) :
    (r.turn t).link.hook = none := by
  cases hc : t.call.aim with
  | install => exact absurd hc haim
  | quit =>
    rw [turn, callLink_of_quit _ hc]
    exact hook_terminate _
  | drop =>
    rw [turn, callLink_of_drop _ hc]
    rfl
  | serve => exact ((r.found t).spares_callLink hc).hook.trans h

/-- Every turn is handled in one of these ways. -/
theorem handled (r : Relay) (t : Turn) : r.Handled t := by
  by_cases hsetup : t.call.aim = .install
  · exact handled_install hsetup
  by_cases hook : r.link.hook = none
  · exact .idle hsetup hook (hook_turn_of_detached hook hsetup) (idle_of_detached hook hsetup)
  cases hc : t.call.aim with
  | install => exact absurd hc hsetup
  | quit => exact handled_quit hc hook
  | drop => exact handled_drop hc hook
  | serve =>
    have hspares := (r.found t).spares_callLink hc
    exact .served hc hook hspares.hook (quit_notMem_sent_of_spares hspares)

theorem installs_of_ne (haim : t.call.aim ≠ .install) : r.installs t = false := by
  unfold installs
  split
  · next i hcall => exact absurd (by rw [hcall]; rfl) haim
  · rfl

theorem terminates_of_ne (haim : t.call.aim ≠ .quit) : r.terminates t = false := by
  unfold terminates
  split
  · next hquit => exact absurd hquit haim
  · rfl

/-- Ending the script works exactly with a debugger. -/
theorem terminate_snd (r : Relay) : r.terminate.2 = r.isAttached := by
  rw [terminate, isAttached]
  cases r.link.hook <;> rfl

theorem terminates_of_quit (haim : t.call.aim = .quit) : r.terminates t = r.isAttached := by
  rw [terminates, haim]
  exact (r.found t).terminate_snd

/-- A turn that ends the script is meant to, and finds a debugger. -/
theorem quit_of_terminates (h : r.terminates t = true) :
    t.call.aim = .quit ∧ r.isAttached = true := by
  have haim : t.call.aim = .quit := by
    by_contra hne
    rw [terminates_of_ne hne] at h
    cases h
  exact ⟨haim, by rw [← terminates_of_quit haim, h]⟩

theorem drops_of_ne (hquit : t.call.aim ≠ .quit) (hdrop : t.call.aim ≠ .drop) :
    r.drops t = false := by
  rw [drops, terminates_of_ne hquit, Bool.false_or, decide_eq_false_iff_not]
  exact hdrop

theorem isAttached_eq_true_iff : r.isAttached = true ↔ r.link.hook ≠ none := by
  rw [isAttached, Option.isSome_iff_ne_none]

/-- A debugger is installed after a turn if the turn installs it, or does not take it away. -/
theorem isAttached_turn (r : Relay) (t : Turn) :
    (r.turn t).isAttached = (r.installs t || r.isAttached && !r.drops t) := by
  cases r.handled t with
  | installed i hcall hinstalls hook' hquit =>
    rw [isAttached, hook', hinstalls]
    rfl
  | failed haim hinstalls hlink hquit =>
    have hdrops : r.drops t = false := drops_of_ne (by simp [haim]) (by simp [haim])
    simp [isAttached, hlink, hinstalls, hdrops]
  | idle haim hook hook' hidle =>
    rw [isAttached_eq_false_iff.2 hook, isAttached_eq_false_iff.2 hook', installs_of_ne haim]
    rfl
  | ended haim hook hook' hsent =>
    have hdrops : r.drops t = true := by
      rw [drops, terminates_of_quit haim, isAttached_eq_true_iff.2 hook, Bool.true_or]
    simp [isAttached_eq_false_iff.2 hook', installs_of_ne (t := t) (by simp [haim]), hdrops]
  | dropped haim hook hook' hsent =>
    have hdrops : r.drops t = true := by simp [drops, haim]
    simp [isAttached_eq_false_iff.2 hook', installs_of_ne (t := t) (by simp [haim]), hdrops]
  | served haim hook hook' hquit =>
    have hdrops : r.drops t = false := drops_of_ne (by simp [haim]) (by simp [haim])
    simp [isAttached, hook', installs_of_ne (t := t) (by simp [haim]), hdrops]

/-- A turn that ends the script sends the command to quit and no other. -/
theorem sent_of_terminates (h : r.terminates t = true) : r.sent t = [.quit] := by
  obtain ⟨haim, hattached⟩ := quit_of_terminates h
  cases r.handled t with
  | ended haim' hook hook' hsent => exact hsent
  | idle haim' hook => simp [isAttached, hook] at hattached
  | installed i hcall => simp [hcall, LinkCall.aim] at haim
  | failed haim' => simp [haim'] at haim
  | dropped haim' => simp [haim'] at haim
  | served haim' => simp [haim'] at haim

/-- Whatever a debugger is told otherwise, it is told to quit by the turns that end the script. -/
theorem quit_mem_sent_iff (r : Relay) (t : Turn) :
    .quit ∈ r.sent t ↔ r.terminates t = true := by
  constructor
  · intro hmem
    cases r.handled t with
    | ended haim hook => rw [terminates_of_quit haim, isAttached_eq_true_iff.2 hook]
    | installed i hcall hinstalls hook' hquit => exact absurd hmem hquit
    | failed haim hinstalls hlink hquit => exact absurd hmem hquit
    | idle haim hook hook' hidle => simp [hidle.sent] at hmem
    | dropped haim hook hook' hsent => simp [hsent] at hmem
    | served haim hook hook' hquit => exact absurd hmem hquit
  · intro h
    rw [sent_of_terminates h]
    exact List.mem_singleton.2 rfl

end DebugRelay.Relay
