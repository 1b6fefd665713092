import DebugRelay.Proofs.Relay.Filling
import DebugRelay.Session
import DebugRelay.Settings.Check

/-!
# Launching with checked settings

Settings are accepted section by section (`Settings.check_snd_eq_ok_iff`), and of the name of the
dispatch thread nothing is asked but that something can be seen of it
(`DispatchSettings.check_eq_ok_iff`). The launch asks for something else: no NUL may be in the name
(`Session.launch_of_isThreadName`). So accepted settings are launched unless there is one
(`Session.launches_unless_nul`).
-/

namespace DebugRelay

/-! ## Accepted settings -/

theorem ensure_eq_ok_iff {holds : Bool} {reason : String} :
    ensure holds reason = .ok () ↔ holds = true := by
  cases holds <;> simp [ensure]

/-- Settings are accepted if each of their sections is. -/
theorem Settings.check_snd_eq_ok_iff {s : Settings} :
    s.check.2 = .ok () ↔
      s.debugger.check = .ok () ∧ s.dispatch.check = .ok () ∧ s.logging.check = .ok () := by
  unfold check
  cases s.debugger.check with
  | error e => simp
  | ok _ =>
    cases s.dispatch.check with
    | error e => simp [bind, Except.bind]
    | ok _ => simp [bind, Except.bind]

theorem bind_ensure_eq_ok_iff {holds : Bool} {reason : String} {more : Except Error Unit} :
    (do ensure holds reason; more) = .ok () ↔ holds = true ∧ more = .ok () := by
  cases holds <;> simp [ensure, bind, Except.bind]

/-- A text is not all blank if something can be seen of it. -/
theorem Text.isAllBlank_eq_false_iff {text : String} :
    isAllBlank text = false ↔ ∃ c ∈ text.toList, isBlank c = false := by
  simp [isAllBlank]

theorem DebuggerSettings.check_eq_ok_iff {s : DebuggerSettings} :
    s.check = .ok () ↔ (∃ c ∈ s.breakpointModel.toList, Text.isBlank c = false) ∧
      ∃ c ∈ s.setupScript.toList, Text.isBlank c = false := by
  rw [check, bind_ensure_eq_ok_iff, ensure_eq_ok_iff, Bool.not_eq_true', Bool.not_eq_true',
    Text.isAllBlank_eq_false_iff, Text.isAllBlank_eq_false_iff]

theorem LoggingSettings.check_eq_ok_iff {s : LoggingSettings} :
    s.check = .ok () ↔ Text.lower s.level ∈ levels ∧ s.format ∈ formats := by
  rw [check, bind_ensure_eq_ok_iff, ensure_eq_ok_iff, List.contains_iff_mem,
    List.contains_iff_mem]

/-- A name is accepted if something can be seen of it. -/
theorem DispatchSettings.check_eq_ok_iff {s : DispatchSettings} :
    s.check = .ok () ↔ ∃ c ∈ s.threadName.toList, Text.isBlank c = false := by
  rw [check, ensure_eq_ok_iff, Bool.not_eq_true', Text.isAllBlank_eq_false_iff]

/-- What is taken when nothing is configured is accepted. -/
theorem Settings.check_default (env : Environment) : (Settings.default env).check.2 = .ok () := by
  have hlower : Text.lower "info" = "info" := by decide +kernel
  have hblank : Text.isBlank 'd' = false := by decide
  refine check_snd_eq_ok_iff.2 ⟨?debugger, ?dispatch, ?logging⟩
  case debugger =>
    have hmodel : 'd' ∈ "debridge.python".toList := by decide
    have hscript : 'd' ∈ "setup_debugger.py".toList := by decide
    exact DebuggerSettings.check_eq_ok_iff.2 ⟨⟨'d', hmodel, hblank⟩, ⟨'d', hscript, hblank⟩⟩
  case dispatch =>
    have hname : 'd' ∈ "debridge-dispatch".toList := by decide
    exact DispatchSettings.check_eq_ok_iff.2 ⟨'d', hname, hblank⟩
  case logging =>
    have hlevel : "info" ∈ LoggingSettings.levels := by decide
    have hformat : "text" ∈ LoggingSettings.formats := by decide
    exact LoggingSettings.check_eq_ok_iff.2 ⟨hlower.symm ▸ hlevel, hformat⟩

/-- A NUL character is no blank. -/
theorem Text.isBlank_nul : isBlank '\x00' = false := by decide

/-- Settings stay accepted with any name of the dispatch thread that has a NUL in it. -/
theorem Settings.check_of_nul {s : Settings} {name : String} (h : s.check.2 = .ok ())
    (hnul : '\x00' ∈ name.toList) :
    ({ s with dispatch := ⟨name⟩ } : Settings).check.2 = .ok () := by
  rw [check_snd_eq_ok_iff] at h ⊢
  obtain ⟨hdebugger, -, hlogging⟩ := h
  exact ⟨hdebugger, DispatchSettings.check_eq_ok_iff.2 ⟨_, hnul, Text.isBlank_nul⟩, hlogging⟩

theorem Dispatch.isThreadName_eq_true_iff {name : String} :
    isThreadName name = true ↔ '\x00' ∉ name.toList := by
  simp [isThreadName]

theorem Dispatch.isThreadName_eq_false_iff {name : String} :
    isThreadName name = false ↔ '\x00' ∈ name.toList := by
  simp [isThreadName]

namespace Relay

variable {r : Relay} {threadName : String}

theorem spawnLoop_of_isThreadName (hloop : r.loop = .waiting)
    (h : Dispatch.isThreadName threadName = true) :
    r.spawnLoop threadName = ({ r with loop := .running {} }, .ok ()) := by
  simp only [spawnLoop, hloop, h, if_true]

theorem spawnLoop_of_not_isThreadName (hloop : r.loop = .waiting)
    (h : Dispatch.isThreadName threadName = false) :
    r.spawnLoop threadName =
      ({ r with queue := r.queue.abandon, loop := .crashed }, .error .nulInThreadName) := by
  simp only [spawnLoop, hloop, h, Bool.false_eq_true, if_false]

end Relay

namespace Session

variable {settings : Settings} {id : Uuid} {now : Instant} {files : FileTree}
  {store : List StoredBreakpoint} {sinkPanic : Event → Option String}

/-! ## What a launch comes to -/

/-- Nothing has happened in a session yet: the target is created and shown to the IDE, the loop
waits for the first event, no debugger is installed, and the registry has what the IDE stores. -/
structure Pristine (settings : Settings) (files : FileTree) (store : List StoredBreakpoint)
    (s : Session) : Prop where
  shown : s.relay.native =
    ⟨{}, [.targetCreated settings.debugger.targetName, .targetAdded settings.debugger.targetName]⟩
  settings : s.relay.settings = settings.debugger
  files : s.relay.files = files
  store : s.relay.store = store
  registry : s.relay.registry = Registry.empty.after (s.relay.seeds.map .put)
  target : s.relay.target = {}
  loop : s.relay.loop = .running {}
  queue : s.relay.queue = {}
  link : s.relay.link = {}
  unended : s.terminated = false ∧ s.joined = false

/-- A new relay whose registry is filled is as it was but for the log. -/
theorem filled_eq (parts : Relay.Parts) (consumers : List Consumer) :
    let r := Relay.create parts consumers
    ∃ log, r.loadBreakpoints.1 =
      { r with registry := Registry.empty.after (r.seeds.map .put), log := log } := by
  intro r
  rw [r.loadBreakpoints_eq_seeds]
  exact ⟨_, rfl⟩

/-- A thread that can be named is started, and the session is there. -/
theorem launch_of_isThreadName (h : Dispatch.isThreadName settings.dispatch.threadName = true) :
    ∃ s : Session, launch id now settings files store sinkPanic = .ok s ∧ s.id = id ∧
      s.startedAt = now ∧ s.Pristine settings files store := by
  obtain ⟨log, hfilled⟩ :=
    filled_eq ⟨settings.debugger, files, store, sinkPanic⟩ [.link, .target]
  have hspawn := Relay.spawnLoop_of_isThreadName (congrArg Relay.loop hfilled) h
  rw [hfilled] at hspawn
  simp only [launch, hfilled, hspawn]
  exact ⟨_, rfl, rfl, rfl, rfl, rfl, rfl, rfl, rfl, rfl, rfl, rfl, rfl, rfl, rfl⟩

/-- A thread that cannot be named is not started, and there is no session. -/
theorem launch_of_not_isThreadName
    (h : Dispatch.isThreadName settings.dispatch.threadName = false) :
    launch id now settings files store sinkPanic = .error .nulInThreadName := by
  obtain ⟨log, hfilled⟩ :=
    filled_eq ⟨settings.debugger, files, store, sinkPanic⟩ [.link, .target]
  have hspawn := Relay.spawnLoop_of_not_isThreadName (congrArg Relay.loop hfilled) h
  rw [hfilled] at hspawn
  simp only [launch, hfilled, hspawn]

/-- Accepted settings are launched exactly if there is no NUL in the name of the dispatch thread: then
the session is there and nothing has happened in it yet, and otherwise the launch panics. Accepting
settings does not rule that out: whatever the name is, it may be replaced by any name with a NUL,
and the settings are accepted as before. -/
theorem launches_unless_nul (h : settings.check.2 = .ok ()) :
    ('\x00' ∉ settings.dispatch.threadName.toList →
      ∃ s : Session, launch id now settings files store sinkPanic = .ok s ∧ s.id = id ∧
        s.startedAt = now ∧ s.Pristine settings files store) ∧
    ('\x00' ∈ settings.dispatch.threadName.toList →
      launch id now settings files store sinkPanic = .error .nulInThreadName) ∧
    ∀ name : String, '\x00' ∈ name.toList →
      ({ settings with dispatch := ⟨name⟩ } : Settings).check.2 = .ok () ∧
      launch id now { settings with dispatch := ⟨name⟩ } files store sinkPanic =
        .error .nulInThreadName := by
  refine ⟨fun hnul => ?_, fun hnul => ?_, fun name hnul => ⟨Settings.check_of_nul h hnul, ?_⟩⟩
  · exact launch_of_isThreadName (Dispatch.isThreadName_eq_true_iff.2 hnul)
  · exact launch_of_not_isThreadName (Dispatch.isThreadName_eq_false_iff.2 hnul)
  · exact launch_of_not_isThreadName (Dispatch.isThreadName_eq_false_iff.2 hnul)

/-! ## The default settings, and a name that is cut in two -/

/-- Where nothing is configured, a session is launched. -/
theorem launched_sampleDefault :
    (Settings.default ⟨[]⟩).check.2 = .ok () ∧
      ∃ s, launch .zero ⟨0, 0⟩ (Settings.default ⟨[]⟩) .empty [] (fun _ => none) = .ok s ∧
        s.relay.target.state = .created := by
  obtain ⟨hlaunched, -, -⟩ := launches_unless_nul (Settings.check_default ⟨[]⟩)
  obtain ⟨s, hs, -, -, hpristine⟩ := hlaunched (by decide)
  exact ⟨Settings.check_default ⟨[]⟩, s, hs, congrArg Target.state hpristine.target⟩

/-- The default settings with a NUL in the name of the dispatch thread. -/
def sampleCut : Settings := { Settings.default ⟨[]⟩ with dispatch := ⟨"debridge\x00dispatch"⟩ }

/-- They are accepted, and the launch panics. -/
theorem panics_sampleCut :
    sampleCut.check.2 = .ok () ∧
      launch .zero ⟨0, 0⟩ sampleCut .empty [] (fun _ => none) = .error .nulInThreadName := by
  have hname : '\x00' ∈ sampleCut.dispatch.threadName.toList := by decide
  refine ⟨Settings.check_of_nul (Settings.check_default ⟨[]⟩) hname, ?_⟩
  exact launch_of_not_isThreadName (Dispatch.isThreadName_eq_false_iff.2 hname)

end Session

end DebugRelay
