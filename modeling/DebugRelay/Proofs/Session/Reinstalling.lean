import DebugRelay.Proofs.Session.Histories

/-!
# Starting an ended session

A session is made for one run of the interpreter, and its end detaches it. The end is recorded in
the session, in the queue and in the link; waiting for the loop looks at the record, but a start
does not, and installs a debugger even after the end.

`detached_iff` says that starts are all that can do so: an ended session stays detached exactly as
long as no start succeeds, and sends a command exactly if some start gets as far as being handed a
debugger. `attached_after_end` is a history in which one does.
-/

namespace DebugRelay.Session

variable {s : Session} {later : List Op} {x : Op}

/-- The session has just ended. -/
def IsEnd (s : Session) : Prop :=
  ∃ first before o, IsLaunch first ∧ (first.after before).Ends o ∧ s = (first.after before).act o

/-- An ended session without a debugger. -/
structure Detached (s : Session) : Prop where
  plain : s.relay.Plain
  terminated : s.terminated = true
  hook : s.relay.link.hook = none

theorem IsEnd.detached (h : s.IsEnd) : s.Detached := by
  obtain ⟨first, before, o, hl, hends, rfl⟩ := h
  have hplain := plain_after hl.plain before
  exact ⟨(course_act _ o).plain hplain, hends.2, hends.hook hplain⟩

theorem Op.start_or_common (h : ∀ c, x ≠ .link c) : (∃ i, x = .start i) ∨ x.IsCommon := by
  cases x with
  | start i => exact Or.inl ⟨i, rfl⟩
  | link c => exact absurd rfl (h c)
  | _ => exact Or.inr trivial

theorem Detached.orderly (h : s.Detached) (hx : x.IsCommon) :
    s.relay.Orderly (s.act x).relay := by
  apply orderly_act h.plain hx
  intro hends
  simpa [h.terminated] using hends.1

/-- Nothing but a successful start attaches an ended session. -/
theorem Detached.act (h : s.Detached) (hlink : ∀ c, x ≠ .link c)
    (hstart : ∀ i, x = .start i → (s.relay.setup i).2 ≠ .ok ()) : (s.act x).Detached where
  plain := (course_act s x).plain h.plain
  terminated := (course_act s x).terminated h.terminated
  hook := by
    rcases Op.start_or_common hlink with ⟨i, rfl⟩ | hcommon
    · rcases s.hook_start i with ⟨hok, -⟩ | ⟨-, hends | ⟨-, hsame⟩⟩
      · exact absurd hok (hstart i rfl)
      · simpa [h.terminated] using hends.1
      · rw [hsame]
        exact h.hook
    · exact (h.orderly hcommon).hook_none h.hook

/-- An ended session is detached as long as no start succeeded. -/
theorem Detached.after (h : s.Detached) {xs : List Op} (hlink : ∀ c, .link c ∉ xs)
    (hstart : ∀ ys i zs, xs = ys ++ .start i :: zs → ((s.after ys).relay.setup i).2 ≠ .ok ()) :
    (s.after xs).Detached := by
  induction xs generalizing s with
  | nil => exact h
  | cons x rest ih =>
    apply ih
    · apply h.act
      · rintro c rfl
        exact hlink c List.mem_cons_self
      · rintro i rfl
        exact hstart [] i rest rfl
    · intro c hc
      exact hlink c (List.mem_cons_of_mem x hc)
    · rintro ys i zs rfl
      exact hstart (x :: ys) i zs rfl

theorem commands_start (s : Session) (i : Interpreter) :
    (s.act (.start i)).relay.commands = (s.relay.setup i).1.commands := by
  rcases s.start_cases i with ⟨-, heq⟩ | ⟨e, log, -, ⟨-, heq⟩ | ⟨-, heq⟩⟩
  · rw [heq]
    rfl
  · rw [heq]
    rfl
  · rw [heq]
    rfl

/-- Without a start that is handed a debugger nothing is sent. -/
theorem Detached.commands_after (h : s.Detached) (hlink : ∀ c, .link c ∉ later)
    (hover : ∀ i, .start i ∈ later → ¬ i.HandsOver) :
    (s.after later).relay.commands = s.relay.commands := by
  induction later generalizing s with
  | nil => rfl
  | cons x rest ih =>
    have hx : ∀ c, x ≠ .link c := by
      rintro c rfl
      exact hlink c List.mem_cons_self
    have hfails : ∀ i, x = .start i → (s.relay.setup i).2 ≠ .ok () := by
      rintro i rfl hok
      exact hover i List.mem_cons_self (Relay.handsOver_of_setup hok)
    have hone : (s.act x).relay.commands = s.relay.commands := by
      rcases Op.start_or_common hx with ⟨i, rfl⟩ | hcommon
      · rw [commands_start]
        exact (s.relay.commands_setup i).2 (hover i List.mem_cons_self)
      · rw [Relay.commands, (h.orderly hcommon).silent h.hook]
        rfl
    calc ((s.act x).after rest).relay.commands
      _ = (s.act x).relay.commands := by
        apply ih (h.act hx hfails)
        · intro c hc
          exact hlink c (List.mem_cons_of_mem x hc)
        · intro i hi
          exact hover i (List.mem_cons_of_mem x hi)
      _ = s.relay.commands := hone

/-- A start that is handed a debugger sends commands, which nothing takes back. -/
theorem commands_after_ne (hp : s.relay.Plain) {xs ys : List Op} {i : Interpreter}
    (hover : i.HandsOver) :
    (s.after (xs ++ .start i :: ys)).relay.commands ≠ s.relay.commands := by
  have hplain := plain_after hp xs
  have hbefore := (grows_after hp xs).commands
  have hstart := (course_act (s.after xs) (.start i)).grows hplain
  have hlater := grows_after ((course_act (s.after xs) (.start i)).plain hplain) ys
  have hsent : ((s.after xs).act (.start i)).relay.commands ≠ (s.after xs).relay.commands := by
    rw [commands_start]
    exact mt ((s.after xs).relay.commands_setup i).1 (not_not.2 hover)
  intro hsame
  apply hsent
  rw [after_append, after_cons] at hsame
  -- the commands only grow, so that they are the same all the way
  apply (hstart.commands.eq_of_length_le _).symm
  calc ((s.after xs).act (.start i)).relay.commands.length
    _ ≤ (((s.after xs).act (.start i)).after ys).relay.commands.length := hlater.commands.length_le
    _ = s.relay.commands.length := by rw [hsame]
    _ ≤ (s.after xs).relay.commands.length := hbefore.length_le

/-- An ended session is detached after each of the operations that follow exactly if no start among
them succeeds. No command is sent by any of them exactly if no start among them is handed a
debugger. -/
theorem detached_iff (h : s.IsEnd) (hlink : ∀ c, .link c ∉ later) :
    ((∀ xs, xs <+: later → (s.after xs).relay.isAttached = false) ↔
      ∀ xs i ys, later = xs ++ .start i :: ys → ((s.after xs).relay.setup i).2 ≠ .ok ()) ∧
    ((s.after later).relay.commands = s.relay.commands ↔
      ∀ i, .start i ∈ later → ¬ i.HandsOver) := by
  have hdetached := h.detached
  refine ⟨⟨?_, ?_⟩, ⟨?_, ?_⟩⟩
  · rintro hnever xs i ys rfl hok
    have hprefix : xs ++ [.start i] <+: xs ++ .start i :: ys := ⟨ys, by simp⟩
    have hfalse := hnever _ hprefix
    rw [after_append, after_cons, after_nil, Relay.isAttached_eq_false_iff] at hfalse
    rcases (s.after xs).hook_start i with ⟨-, hook⟩ | ⟨hfail, -⟩
    · simp [hook] at hfalse
    · exact hfail hok
  · rintro hfails xs ⟨zs, rfl⟩
    rw [Relay.isAttached_eq_false_iff]
    refine (hdetached.after ?_ ?_).hook
    · intro c hc
      exact hlink c (List.mem_append_left zs hc)
    · rintro ys i ws rfl
      exact hfails ys i (ws ++ zs) (by simp)
  · intro hsame i hi hover
    obtain ⟨xs, ys, rfl⟩ := List.append_of_mem hi
    exact commands_after_ne hdetached.plain hover hsame
  · exact hdetached.commands_after hlink

/-! ## Starts after the end -/

/-- What is done to a session that has ended: a start that fails, and waiting for the loop. -/
def sampleLate : List Op := [.start sampleRefusing, .join]

theorem isEnd_sampleSession : (sampleSession.act .finish).IsEnd :=
  ⟨sampleSession, [], .finish, isLaunch_sampleSession, ends_finish rfl, rfl⟩

/-- A start that fails because its first command is refused attaches nothing, but that command has
been sent. -/
theorem detached_sampleLate : (∀ c, .link c ∉ sampleLate) ∧
    (∀ xs, xs <+: sampleLate →
      ((sampleSession.act .finish).after xs).relay.isAttached = false) ∧
    ((sampleSession.act .finish).after sampleLate).relay.commands ≠
      (sampleSession.act .finish).relay.commands := by
  have hlink : ∀ c, .link c ∉ sampleLate := by simp [sampleLate]
  have hfails : ∃ e, ((sampleSession.act .finish).relay.setup sampleRefusing).2 = .error e :=
    ⟨_, rfl⟩
  obtain ⟨hattached, hcommands⟩ := detached_iff isEnd_sampleSession hlink
  refine ⟨hlink, hattached.2 ?_, ?_⟩
  · intro xs i ys heq
    cases xs with
    | nil =>
      obtain ⟨hstart, -⟩ := List.cons.inj heq
      obtain ⟨e, he⟩ := hfails
      rw [← Op.start.inj hstart, after_nil, he]
      simp
    | cons x rest =>
      obtain ⟨-, hrest⟩ := List.cons.inj heq
      cases rest with
      | nil => simp at hrest
      | cons x' rest' => simp at hrest
  · intro hsame
    exact hcommands.1 hsame sampleRefusing List.mem_cons_self ⟨rfl, rfl, rfl⟩

/-- A start after the end attaches the session and sends the commands of a setup. -/
theorem attached_after_end : ∃ s, IsEnd s ∧ (s.act (.start .direct)).terminated = true ∧
    (s.act (.start .direct)).relay.isAttached = true ∧ s.relay.commands = [] ∧
    (s.act (.start .direct)).relay.commands =
      [.suspendOnStartup true, .suspendOnScriptLoad false] := by
  refine ⟨sampleSession.act .finish, isEnd_sampleSession, ?_, ?_, ?_, ?_⟩
  · rfl
  · rfl
  · rfl
  · rfl

end DebugRelay.Session
