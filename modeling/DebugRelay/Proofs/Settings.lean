import DebugRelay.Proofs.FileTree
import DebugRelay.Proofs.Json.Record
import DebugRelay.Proofs.Toml.Documents
import DebugRelay.Settings.File

/-!
# Reading settings back

Settings that were saved are loaded unchanged (`load_of_save`): the file is where its path leads,
its text is read as the document that was written, and every setting is in the document.
-/

namespace DebugRelay

open Json

/-! ## Records -/

theorem DebuggerSettings.ofJson?_toJson (env : Environment) (overlong : Bool)
    (s : DebuggerSettings) :
    DebuggerSettings.ofJson? env overlong s.toJson = some s := by
  rw [ofJson?, toJson, recordOf?_obj overlong (by rfl) (by simp)]
  simp [Record.defaulted, Record.given?]

theorem DispatchSettings.ofJson?_toJson (overlong : Bool) (s : DispatchSettings) :
    DispatchSettings.ofJson? overlong s.toJson = some s := by
  rw [ofJson?, toJson, recordOf?_obj overlong (by rfl) (by simp)]
  simp [Record.defaulted, Record.given?]

theorem LoggingSettings.ofJson?_toJson (overlong : Bool) (s : LoggingSettings) :
    LoggingSettings.ofJson? overlong s.toJson = some s := by
  rw [ofJson?, toJson, recordOf?_obj overlong (by rfl) (by simp)]
  simp [Record.defaulted, Record.given?]

theorem Settings.ofJson?_toJson (env : Environment) (overlong : Bool) (s : Settings) :
    Settings.ofJson? env overlong s.toJson = some s := by
  rw [ofJson?, toJson, recordOf?_obj overlong (by rfl) (by simp)]
  simp [Record.defaulted, Record.given?, DebuggerSettings.ofJson?_toJson,
    DispatchSettings.ofJson?_toJson, LoggingSettings.ofJson?_toJson]

/-! ## Texts -/

/-- A section with some keys that are plain and all different. -/
theorem isPlainSection_of_keys {s : Toml.Section} (keys : List String)
    (hplain : ∀ key ∈ keys, Toml.IsPlainKey key) (hnodup : keys.Nodup)
    (hkeys : s.map Prod.fst = keys) : Toml.IsPlainSection s := by
  subst hkeys
  exact ⟨fun f hf => hplain f.1 (List.mem_map_of_mem hf), hnodup⟩

theorem DebuggerSettings.isPlainSection (s : DebuggerSettings) : Toml.IsPlainSection s.toSection :=
  isPlainSection_of_keys
    ["target_name", "breakpoint_model_id", "suspend_on_startup", "suspend_on_script_load",
      "show_dynamic_code", "support_dir", "setup_script"] (by decide) (by simp) rfl

theorem DispatchSettings.isPlainSection (s : DispatchSettings) : Toml.IsPlainSection s.toSection :=
  isPlainSection_of_keys ["thread_name"] (by decide) (by simp) rfl

theorem LoggingSettings.isPlainSection (s : LoggingSettings) : Toml.IsPlainSection s.toSection :=
  isPlainSection_of_keys ["level", "format"] (by decide) (by simp) rfl

namespace Settings

/-- No key of a settings file needs quotes, and none stands twice. -/
theorem isPlainDocument (s : Settings) : Toml.IsPlainDocument s.top s.tables := by
  have htop : Toml.IsPlainSection s.top :=
    isPlainSection_of_keys ["version"] (by decide) (by simp) rfl
  have hnames : ∀ name ∈ ["debugger", "dispatch", "logging"], Toml.IsPlainKey name := by
    decide
  constructor
  case keys => exact htop.plain
  case names =>
    intro t ht
    exact hnames t.1 (List.mem_map_of_mem ht)
  case sections =>
    simp only [tables, List.forall_mem_cons, List.not_mem_nil, false_implies, implies_true,
      and_true]
    exact ⟨s.debugger.isPlainSection, s.dispatch.isPlainSection, s.logging.isPlainSection⟩
  case nodup => simp [top, tables]

/-- The data of a settings file is the settings as JSON. -/
theorem toJson_documentValue (s : Settings) :
    (Toml.documentValue s.top s.tables).toJson = s.toJson :=
  rfl

theorem ofText?_of_text? (env : Environment) {s : Settings} {text : String}
    (h : s.text? = some text) :
    Settings.ofText? env text = some s := by
  rw [text?, Toml.documentText?] at h
  split at h
  · obtain rfl := Option.some.inj h
    rw [ofText?, Toml.parse?_documentText s.isPlainDocument, Option.bind_some, toJson_documentValue,
      ofJson?_toJson]
  · simp at h

end Settings

/-! ## Files -/

namespace SettingsFile

theorem fromUTF8?_toUTF8 (s : String) : String.fromUTF8? s.toUTF8 = some s := by
  rw [String.toUTF8_eq_toByteArray, String.fromUTF8?, dif_pos s.isValidUTF8]
  rfl

/-- What was done when settings were saved: their text was written to their path. -/
theorem save_eq_saved {m m' : Machine} {f : SettingsFile} (h : save m f = (m', .saved)) :
    ∃ (files : FileTree) (text : String), f.settings.text? = some text ∧
      files.write m.cwd f.path text.toUTF8 = .ok m'.files ∧ m'.cwd = m.cwd := by
  unfold save at h
  split at h
  · simp at h
  · next files hparents =>
    split at h
    · simp at h
    · next text htext =>
      simp only at h
      split at h
      · simp at h
      · next files' hwrite =>
        obtain rfl := (Prod.mk.inj h).1
        exact ⟨files, text, htext, hwrite, rfl⟩

/-- Settings that were saved are loaded from their path as they were, whatever the defaults are by
then. -/
theorem load_of_save {m m' : Machine} {f : SettingsFile} (h : save m f = (m', .saved))
    (env : Environment) : load { m' with env := env } (some f.path) = ([], .ok f) := by
  obtain ⟨files, text, htext, hwrite, hcwd⟩ := save_eq_saved h
  have hexists := FileTree.exists?_of_write hwrite
  have hread := FileTree.read_of_write hwrite
  have hsettings := Settings.ofText?_of_text? env htext
  rw [← hcwd] at hexists hread
  simp only [load, Option.getD_some, hexists, if_true, read, hread, fromUTF8?_toUTF8, hsettings]

/-- A machine without files. -/
def sampleMachine : Machine := ⟨.empty, [], ⟨[]⟩⟩

/-- Settings with quotes at the end, a line end at the start, and controls. -/
def sampleSettings : Settings where
  version := "\n'''\"\"\"\"\"\""
  debugger := { DebuggerSettings.default ⟨[]⟩ with targetName := "''", setupScript := "\\''\n'" }
  dispatch := ⟨"\r\n\x00\x7f\""⟩
  logging := ⟨"", "\"\"'"⟩

/-- The path of the settings, a name in the working directory. -/
def samplePath : FileName := ⟨"relay.toml", by decide⟩

/-- Where nothing is yet, a name in the root directory can be written to. -/
theorem write_samplePath (content : ByteArray) :
    FileTree.empty.write [] samplePath.text content =
      .ok (FileTree.empty.put [samplePath] (.file content)) := by
  have hsteps : Path.steps samplePath.text = [.name samplePath] := by decide +kernel
  have hpath : FileTree.pathSteps samplePath.text = .ok [.name samplePath] := by
    rw [FileTree.pathSteps, if_neg (by decide), if_neg (by decide), if_neg (by decide), hsteps]
  have hstart : FileTree.start [] samplePath.text = [] := by decide
  have hnone : FileTree.empty.find? [samplePath] = none := by decide
  have hwalk :
      FileTree.empty.walk true FileTree.linkLimit [] [.name samplePath] = .ok [samplePath] := by
    rw [FileTree.walk, if_pos FileTree.empty.isDirectory_nil, if_pos (by decide)]
    simp [hnone]
  simp [FileTree.write, hpath, hstart, hwalk, bind, Except.bind, FileTree.isDirectory, hnone]

theorem load_sampleSettings :
    ∃ m, save sampleMachine ⟨sampleSettings, samplePath.text⟩ = (m, .saved) ∧
      load m (some samplePath.text) = ([], .ok ⟨sampleSettings, samplePath.text⟩) := by
  obtain ⟨text, htext⟩ : ∃ text, sampleSettings.text? = some text :=
    Option.isSome_iff_exists.1 (by decide +kernel)
  have habove : Path.above samplePath.text = "" := by decide +kernel
  have hsave : save sampleMachine ⟨sampleSettings, samplePath.text⟩ =
      (⟨FileTree.empty.put [samplePath] (.file text.toUTF8), [], ⟨[]⟩⟩, .saved) := by
    simp only [save, sampleMachine, FileTree.makeParents, habove, htext, write_samplePath, if_true]
  exact ⟨_, hsave, load_of_save hsave ⟨[]⟩⟩

end SettingsFile

end DebugRelay
