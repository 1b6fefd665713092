import DebugRelay.Proofs.Dispatch.Interleaving

/-!
# Progress of the dispatch loop

Once the queue is closed, each step of a dispatch loop is one step less of what it has to do
(`LoopStep.of_closed`), so the loop ends, whatever is offered to it (`Runs.of_closed`). While the
queue is open, the loop gets to every accepted event within the steps that it had to go when the
event was accepted (`Runs.dispatched_of_work_le`).
-/

namespace DebugRelay.Dispatch

variable {σ : Type} {host : Host σ} {processors : List (Processor σ)} {w v u : World σ}

/-! ## How long the loop has to go -/

/-- How many steps the loop has to take for what waits, if nothing more is accepted, and for its
end. -/
def World.work (host : Host σ) (processors : List (Processor σ)) (w : World σ) : Nat :=
  match w.phase with
  | .between => (w.queue host).waiting.length * (processors.length + 2) + 1
  | .handing _ left =>
    left.length + 1 + ((w.queue host).waiting.length * (processors.length + 2) + 1)
  | .finished => 0

theorem work_eq_zero_iff : w.work host processors = 0 ↔ w.phase = .finished := by
  unfold World.work
  cases w.phase <;> simp

/-- A closed queue stays closed and takes nothing in. -/
theorem act_of_closed (hl : host.Lawful) (hc : (w.queue host).closed = true) (a : Queue.Action) :
    ((w.act host a).queue host).closed = true ∧
      ((w.act host a).queue host).waiting = (w.queue host).waiting ∧
      accepted (w.act host a).journal = accepted w.journal := by
  rw [queue_act hl]
  cases a with
  | offer e =>
    have hr : (w.queue host).accepts = false := by simp [Queue.accepts, hc]
    simp [Queue.act, Queue.enqueue, World.act, happening, hr, hc]
  | close => simp [Queue.act, Queue.close, World.act, happening]

theorem acts_of_closed (hl : host.Lawful) (hc : (w.queue host).closed = true)
    (actions : List Queue.Action) :
    ((actions.foldl (World.act host) w).queue host).closed = true ∧
      ((actions.foldl (World.act host) w).queue host).waiting = (w.queue host).waiting ∧
      accepted (actions.foldl (World.act host) w).journal = accepted w.journal := by
  induction actions generalizing w with
  | nil => exact ⟨hc, rfl, rfl⟩
  | cons a rest ih =>
    obtain ⟨hclosed, hwaiting, haccepted⟩ := act_of_closed hl hc a
    obtain ⟨hclosed', hwaiting', haccepted'⟩ := ih hclosed
    exact ⟨hclosed', hwaiting'.trans hwaiting, haccepted'.trans haccepted⟩

theorem Outside.of_closed (hl : host.Lawful) (h : Outside host w v)
    (hc : (w.queue host).closed = true) :
    (v.queue host).closed = true ∧ (v.queue host).waiting = (w.queue host).waiting ∧
      v.phase = w.phase ∧ accepted v.journal = accepted w.journal := by
  cases h with
  | act a =>
    obtain ⟨hclosed, hwaiting, haccepted⟩ := act_of_closed hl hc a
    exact ⟨hclosed, hwaiting, rfl, haccepted⟩
  | other s hs =>
    have hqueue : World.queue host { w with state := s } = w.queue host := hs
    rw [hqueue]
    exact ⟨hc, rfl, rfl, rfl⟩

/-- Once the queue is closed, each step of the loop is one step less to go. -/
theorem LoopStep.of_closed (hl : host.Lawful) (h : LoopStep host processors w v)
    (hc : (w.queue host).closed = true) :
    (v.queue host).closed = true ∧ v.work host processors + 1 = w.work host processors ∧
      accepted v.journal = accepted w.journal := by
  cases h with
  | @take e q hp hq =>
    obtain ⟨hwaiting, hrest⟩ := pop?_eq_some_iff.1 hq
    have hqueue : host.queue (host.setQueue w.state q) = q := hl.queue_setQueue _ _
    refine ⟨?_, ?_, by simp⟩
    · simp only [World.queue, World.noting, hqueue]
      rw [hrest]
      exact hc
    · simp only [World.work, World.noting, hp, hwaiting, List.length_cons, List.length_zipIdx,
        Nat.succ_mul]
      simp only [World.queue, hqueue]
      omega
  | skip hp hr hne =>
    refine ⟨hc, ?_, rfl⟩
    simp only [World.work, World.queue, hp, List.length_cons]
    omega
  | @call e p i left own actions hp hr hown hactions =>
    obtain ⟨hclosed, hwaiting, haccepted⟩ := acts_of_closed hl hc actions
    have hqueue := queue_called hl w p i e left actions
    refine ⟨hqueue ▸ hclosed, ?_, by simpa [World.called] using haccepted⟩
    have hphase : (w.called host p i e left actions).phase = .handing e left := rfl
    simp only [World.work, hp, hphase, hqueue, hwaiting, List.length_cons]
    omega
  | finish hp =>
    refine ⟨hc, ?_, rfl⟩
    simp only [World.work, World.queue, hp, List.length_nil]
    omega
  | stop hp hq hc =>
    refine ⟨hc, ?_, by simp⟩
    simp [World.work, hp, pop?_eq_none_iff.1 hq]

/-- After a close, every interleaving brings the loop nearer to its end by exactly the steps that it
takes, and nothing more is accepted. -/
theorem Runs.of_closed (hl : host.Lawful) {k : Nat} (h : Runs host processors w k v)
    (hc : (w.queue host).closed = true) :
    (v.queue host).closed = true ∧ k + v.work host processors = w.work host processors ∧
      accepted v.journal = accepted w.journal := by
  induction h with
  | refl => exact ⟨hc, Nat.zero_add _, rfl⟩
  | outside _ ho ih =>
    obtain ⟨hclosed, hwork, haccepted⟩ := ih
    obtain ⟨hclosed', hwaiting, hphase, haccepted'⟩ := ho.of_closed hl hclosed
    refine ⟨hclosed', ?_, haccepted'.trans haccepted⟩
    rw [← hwork, World.work, World.work, hwaiting, hphase]
  | loop _ hs ih =>
    obtain ⟨hclosed, hwork, haccepted⟩ := ih
    obtain ⟨hclosed', hstep, haccepted'⟩ := hs.of_closed hl hclosed
    refine ⟨hclosed', ?_, haccepted'.trans haccepted⟩
    omega

/-- The loop can take a step, unless it is over or waits for events. -/
theorem Counted.exists_loopStep (hw : Counted host processors w)
    (hps : ∀ p ∈ processors, p.Serves host) :
    w.phase = .finished ∨
      (w.phase = .between ∧ (w.queue host).waiting = [] ∧ (w.queue host).closed = false) ∨
      ∃ v, LoopStep host processors w v := by
  have hamong := hw.among
  cases hp : w.phase with
  | finished => exact Or.inl rfl
  | between =>
    refine Or.inr ?_
    cases hq : (w.queue host).pop? with
    | some popped => exact Or.inr ⟨_, .take hp hq⟩
    | none =>
      cases hc : (w.queue host).closed with
      | false => exact Or.inl ⟨rfl, pop?_eq_none_iff.1 hq, rfl⟩
      | true => exact Or.inr ⟨_, .stop hp hq hc⟩
  | handing e left =>
    refine Or.inr (Or.inr ?_)
    cases left with
    | nil => exact ⟨_, .finish hp⟩
    | cons x left =>
      obtain ⟨p, i⟩ := x
      rw [hp] at hamong
      obtain ⟨hasked, hacts⟩ := hps p (hamong (p, i) List.mem_cons_self)
      obtain ⟨route, hroute⟩ := Option.isSome_iff_exists.1 hasked
      by_cases hr : route = e.route
      · obtain ⟨own, hown⟩ := hacts e w.state
        exact ⟨_, .call hp (hr ▸ hroute) hown (List.Sublist.refl own)⟩
      · exact ⟨_, .skip hp hroute hr⟩

/-! ## How soon an event is dispatched -/

/-- Actions on the queue are added to the journal, and dispatch nothing. -/
theorem journal_acts (host : Host σ) (w : World σ) (actions : List Queue.Action) :
    ∃ done, (actions.foldl (World.act host) w).journal = w.journal ++ done ∧
      dispatched done = [] ∧ calls done = [] := by
  induction actions generalizing w with
  | nil => exact ⟨[], (List.append_nil _).symm, rfl, rfl⟩
  | cons a rest ih =>
    obtain ⟨done, hjournal, hdispatched, hcalls⟩ := ih (w.act host a)
    refine ⟨happening (w.queue host) a :: done, ?_, ?_, ?_⟩
    · rw [List.foldl_cons, hjournal]
      simp [World.act]
    · cases a <;> simpa [dispatched, happening] using hdispatched
    · cases a <;> simpa [calls, happening] using hcalls

/-- What a call adds to the journal: what the processor did to the queue, and its return. -/
theorem journal_called (host : Host σ) (w : World σ) (p : Processor σ) (i : Nat) (e : Event)
    (left : List (Processor σ × Nat)) (own : List Queue.Action) :
    ∃ done, (w.called host p i e left own).journal =
        w.journal ++ (done ++ [.called i e (p.handle e w.state).2]) ∧
      dispatched done = [] ∧ calls done = [] := by
  obtain ⟨done, hjournal, hdispatched, hcalls⟩ := journal_acts host w own
  refine ⟨done, ?_, hdispatched, hcalls⟩
  simp [World.called, hjournal]

theorem Runs.journal_isPrefix {k : Nat} (h : Runs host processors w k v) :
    w.journal <+: v.journal := by
  induction h with
  | refl => exact List.prefix_rfl
  | outside _ ho ih =>
    refine ih.trans ?_
    cases ho with
    | act a => exact List.prefix_append _ _
    | other s hs => exact List.prefix_rfl
  | @loop _ v _ _ hs ih =>
    refine ih.trans ?_
    cases hs with
    | take hp hq => exact List.prefix_append _ _
    | skip hp hr hne => exact List.prefix_rfl
    | @call e p i left own actions hp hr hown hactions =>
      obtain ⟨done, hjournal, -, -⟩ := journal_called host v p i e left actions
      rw [hjournal]
      exact List.prefix_append _ _
    | finish hp => exact List.prefix_rfl
    | stop hp hq hc => exact List.prefix_append _ _

theorem Runs.accepted_isPrefix {k : Nat} (h : Runs host processors w k v) :
    accepted w.journal <+: accepted v.journal :=
  h.journal_isPrefix.filterMap _

theorem Runs.dispatched_isPrefix {k : Nat} (h : Runs host processors w k v) :
    dispatched w.journal <+: dispatched v.journal :=
  h.journal_isPrefix.filterMap _

theorem Law.waiting_of_finished (hw : Law host processors w) (hp : w.phase = .finished) :
    (w.queue host).waiting = [] := by
  obtain ⟨before, after, hj, -, hall, haccepted, hdispatched, -⟩ := hw.ended hp
  have horder := hw.inOrder
  have hbefore : accepted w.journal = accepted before := by
    rw [hj, accepted_append, accepted_cons, haccepted]
    exact List.append_nil _
  have hbefore' : dispatched w.journal = dispatched before := by
    rw [hj, dispatched_append, dispatched_cons, hdispatched]
    exact List.append_nil _
  rw [hbefore, hbefore', hall] at horder
  exact List.append_right_eq_self.1 horder.symm

/-- How many steps the loop has to take until it has dispatched `n` events. -/
def World.distance (processors : List (Processor σ)) (n : Nat) (w : World σ) : Nat :=
  match w.phase with
  | .between => (n - (dispatched w.journal).length) * (processors.length + 2)
  | .handing _ left =>
    left.length + 1 + (n - (dispatched w.journal).length) * (processors.length + 2)
  | .finished => 0

theorem Outside.distance_eq (h : Outside host w v) (n : Nat) :
    v.distance processors n = w.distance processors n := by
  cases h with
  | act a => cases a <;> simp [World.distance, World.act, happening]
  | other s hs => rfl

/-- A step of the loop is one step nearer to `n` events, if so many were accepted, or it has
dispatched them. -/
theorem LoopStep.distance (hw : Law host processors w) {n : Nat}
    (hn : n ≤ (accepted w.journal).length) (h : LoopStep host processors w v) :
    n ≤ (dispatched v.journal).length ∨
      v.distance processors n + 1 = w.distance processors n := by
  cases h with
  | take hp hq =>
    by_cases hd : n ≤ (dispatched w.journal).length
    · exact Or.inl (Nat.le_trans hd (by simp))
    · right
      have hgap : n - (dispatched w.journal).length =
          n - ((dispatched w.journal).length + 1) + 1 := by omega
      -- one event less is missing, and the loop has to hand out this one
      simp only [World.distance, World.noting, hp, dispatched_concat, Happening.dispatched?,
        Option.toList, List.length_append, List.length_singleton, List.length_zipIdx]
      rw [hgap, Nat.succ_mul]
      omega
  | skip hp hr hne =>
    right
    simp only [World.distance, hp, List.length_cons]
    omega
  | @call e p i left own actions hp hr hown hactions =>
    right
    have hphase : (w.called host p i e left actions).phase = .handing e left := rfl
    obtain ⟨done, hjournal, hnone, -⟩ := journal_called host w p i e left actions
    have hdispatched : dispatched (w.called host p i e left actions).journal =
        dispatched w.journal := by
      rw [hjournal, dispatched_append, dispatched_concat, hnone]
      exact List.append_nil _
    simp only [World.distance, hp, hphase, hdispatched, List.length_cons]
    omega
  | finish hp =>
    right
    simp only [World.distance, hp, List.length_nil]
    omega
  | stop hp hq hc =>
    left
    have horder := hw.inOrder
    -- the loop ends only when nothing waits, so all that was accepted is dispatched
    rw [pop?_eq_none_iff.1 hq, List.append_nil] at horder
    simpa [← horder] using hn

theorem Runs.distance (hl : host.Lawful) (hw : Counted host processors w) {n k : Nat}
    (hn : n ≤ (accepted w.journal).length) (h : Runs host processors w k v) :
    n ≤ (dispatched v.journal).length ∨
      k + v.distance processors n = w.distance processors n := by
  induction h with
  | refl => exact Or.inr (Nat.zero_add _)
  | @outside k v u hr ho ih =>
    rcases ih with hd | hd
    · have hmore : Runs host processors v 0 u := .outside .refl ho
      exact Or.inl (Nat.le_trans hd hmore.dispatched_isPrefix.length_le)
    · right
      rw [ho.distance_eq n]
      exact hd
  | @loop k v u hr hs ih =>
    rcases ih with hd | hd
    · have hmore : Runs host processors v 1 u := .loop .refl hs
      exact Or.inl (Nat.le_trans hd hmore.dispatched_isPrefix.length_le)
    -- what was accepted at first still is, so the loop has not run out of events
    · have hn' := Nat.le_trans hn hr.accepted_isPrefix.length_le
      refine (hs.distance (hw.runs hl hr).law hn').imp_right fun hstep => ?_
      omega

/-- After as many steps of the loop as it has to take for what waits, everything that was accepted
has been dispatched, whatever else was accepted meanwhile. -/
theorem Runs.dispatched_of_work_le (hl : host.Lawful) (hw : Counted host processors w) {k : Nat}
    (h : Runs host processors w k v) (hk : w.work host processors ≤ k) :
    accepted w.journal <+: dispatched v.journal := by
  have horder := hw.law.inOrder
  have hlength := congrArg List.length horder
  rw [List.length_append] at hlength
  have hall : (accepted w.journal).length ≤ (dispatched v.journal).length := by
    rcases h.distance hl hw (Nat.le_refl _) with hd | hd
    · exact hd
    · cases hp : w.phase with
      | finished =>
        rw [horder, hw.law.waiting_of_finished hp, List.append_nil]
        exact h.dispatched_isPrefix.length_le
      | between =>
        simp only [World.work, hp] at hk
        simp only [World.distance, hp, hlength, Nat.add_sub_cancel_left] at hd
        omega
      | handing e left =>
        simp only [World.work, hp] at hk
        simp only [World.distance, hp, hlength, Nat.add_sub_cancel_left] at hd
        omega
  have hlaw := (hw.runs hl h).law
  -- both are beginnings of what is accepted in the end, and the lengths compare
  refine List.prefix_of_prefix_length_le h.accepted_isPrefix ?_ hall
  rw [hlaw.inOrder]
  exact List.prefix_append _ _

end DebugRelay.Dispatch
