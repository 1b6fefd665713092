import Mathlib
import DebugRelay.Proofs.Json.Record
import DebugRelay.Proofs.SourceFile
import DebugRelay.Proofs.Uuid
import DebugRelay.Wire.Session

/-!
# Reading back what is sent

A `Codec` is a type whose values are sent as JSON. `Codec.RoundTrips` says of one that every value
is read as it was written, and that what was read, whatever JSON it was read from, is written to
something that is read as the same value. A path is looked up when it is read, so this is about
values whose files are not there.

Main statement: `roundTrips`, for commands, breakpoints, locations, sources, scripts, frames and the
counters of the dispatch loop.
-/

namespace DebugRelay

open Json

/-- A type whose values are sent as JSON. -/
structure Codec (α : Type) where
  write : α → Json
  read : FileTree → Decoder α
  /-- The files that a value mentions. -/
  mentioned : α → List SourceFile := fun _ => []
  /-- Whether what a value hands on as it is, is data. -/
  Sound : α → Prop := fun _ => True

namespace Codec

variable {α : Type}

/-- Every value is read as it was written, and written to something that is read as the same value
when it was read itself. -/
def RoundTrips (c : Codec α) : Prop :=
  (∀ (files : FileTree) (x : α), c.Sound x → (∀ f ∈ c.mentioned x, f.Absent files) →
    c.read files (c.write x) = some x) ∧
  ∀ (files : FileTree) (j : Json) (x : α), c.read files j = some x →
    (∀ f ∈ c.mentioned x, f.Absent files) → c.read files (c.write x) = some x

/-- What was read has nothing in it that is not data, so the second part follows from the first. -/
theorem roundTrips_of_read_write {c : Codec α}
    (hread : ∀ files j x, c.read files j = some x → c.Sound x)
    (hwrite : ∀ files x, c.Sound x → (∀ f ∈ c.mentioned x, f.Absent files) →
      c.read files (c.write x) = some x) : c.RoundTrips := by
  constructor
  · exact hwrite
  · intro files j x hx habsent
    exact hwrite files x (hread files j x hx) habsent

end Codec

/-! ## Locations and breakpoints -/

theorem SourceFile.ofJson?_toJson {files : FileTree} {f : SourceFile} (h : f.Absent files) :
    SourceFile.ofJson? files f.toJson = some f := locate?_text h

/-- Locations as they are sent. -/
def Location.codec : Codec Location where
  write := toJson
  read := ofJson?
  mentioned l := [l.file]

/-- A location is read back in the file that its path is read as. -/
theorem Location.ofJson?_toJson_of_read {files : FileTree} {l : Location} {f : SourceFile}
    (h : SourceFile.ofJson? files l.file.toJson = some f) :
    Location.ofJson? files l.toJson = some { l with file := f } := by
  rw [ofJson?, toJson, record?, recordOf?_obj false (by rfl) (by simp)]
  -- the steps are spelled out, or the kernel runs the reader of words to compare two of them
  simp -implicitDefEqProofs [Record.required, Record.optional, Record.given?, h]

theorem Location.ofJson?_toJson {files : FileTree} {l : Location} (h : l.file.Absent files) :
    Location.ofJson? files l.toJson = some l :=
  ofJson?_toJson_of_read (SourceFile.ofJson?_toJson h)

/-- Breakpoints as they are sent. -/
def Breakpoint.codec : Codec Breakpoint where
  write := toJson
  read := ofJson?
  mentioned b := [b.file]

/-- A breakpoint is read back in the file that its path is read as. -/
theorem Breakpoint.ofJson?_toJson_of_read {files : FileTree} {b : Breakpoint} {f : SourceFile}
    (h : SourceFile.ofJson? files b.file.toJson = some f) :
    Breakpoint.ofJson? files b.toJson = some { b with file := f } := by
  rw [ofJson?, toJson, record?, recordOf?_obj false (by rfl) (by simp)]
  simp -implicitDefEqProofs [Record.required, Record.optional, Record.defaulted, Record.given?, h]

theorem Breakpoint.ofJson?_toJson {files : FileTree} {b : Breakpoint} (h : b.file.Absent files) :
    Breakpoint.ofJson? files b.toJson = some b :=
  ofJson?_toJson_of_read (SourceFile.ofJson?_toJson h)

/-! ## Commands -/

/-- The files that a command mentions. -/
def Command.files : Command → List SourceFile
  | .setBreak b => [b.file]
  | .clearFile f => [f]
  | _ => []

/-- Commands as they are sent. -/
def Command.codec : Codec Command where
  write := toJson
  read := ofJson?
  mentioned := files

theorem Json.isReadable_ofOption {α : Type} {toJson : α → Json}
    (h : ∀ x, (toJson x).isReadable = true) (o : Option α) :
    (ofOption toJson o).isReadable = true := by
  cases o with
  | none => rfl
  | some x => exact h x

theorem Breakpoint.isReadable_toJson (b : Breakpoint) : b.toJson.isReadable = true := by
  rw [toJson, isReadable_obj_iff]
  simp only [List.forall_mem_cons, List.not_mem_nil, false_implies, implies_true, and_true]
  refine ⟨rfl, ?_, ?_, rfl, rfl, rfl, ?_⟩
  · exact isReadable_ofOption (fun _ => rfl) b.line
  · exact isReadable_ofOption (fun _ => rfl) b.condition
  · exact isReadable_ofOption (fun _ => rfl) b.marker

theorem Command.ofJson?_toJson {files : FileTree} {c : Command}
    (h : ∀ f ∈ c.files, f.Absent files) : Command.ofJson? files c.toJson = some c := by
  cases c with
  | suspendOnStartup enabled | suspendOnScriptLoad enabled =>
    rw [toJson, ofJson?, tagged?_obj (by simp) (by simp [isReadable, canonical?])]
    simp [record?, recordOf?_obj, Record.required, Record.given?]
  | setBreak b =>
    have hb : b.file.Absent files := h b.file List.mem_cons_self
    rw [toJson, ofJson?, tagged?_obj (by simp) (by simpa using b.isReadable_toJson)]
    simp [record?, recordOf?_obj, Record.required, Record.given?, Breakpoint.ofJson?_toJson hb]
  | clearFile f =>
    have hf : f.Absent files := h f List.mem_cons_self
    rw [toJson, ofJson?,
      tagged?_obj (by simp) (by simp [SourceFile.toJson, isReadable, canonical?])]
    simp [record?, recordOf?_obj, Record.required, Record.given?, SourceFile.ofJson?_toJson hf]
  | stepInto | stepOver | stepOut | continue_ | quit =>
    rw [toJson, ofJson?, tagged?_obj (by simp) (by simp)]
    rfl

/-! ## Scripts and frames -/

theorem Uuid.ofJson?_toJson (u : Uuid) : Uuid.ofJson? u.toJson = some u := ofText?_text u

/-- Sources as they are sent. -/
def Source.codec : Codec Source where
  write := toJson
  read := ofJson?
  mentioned s := s.file?.toList

theorem Source.ofJson?_toJson {files : FileTree} {s : Source}
    (h : ∀ f ∈ s.file?.toList, f.Absent files) : Source.ofJson? files s.toJson = some s := by
  cases s with
  | file path =>
    have hpath : path.Absent files := h path List.mem_cons_self
    rw [toJson, ofJson?,
      tagged?_obj (by simp) (by simp [SourceFile.toJson, isReadable, canonical?])]
    simp [record?, recordOf?_obj, Record.required, Record.given?, SourceFile.ofJson?_toJson hpath]
  | inline code =>
    rw [toJson, ofJson?, tagged?_obj (by simp) (by simp [isReadable, canonical?])]
    simp [record?, recordOf?_obj, Record.required, Record.given?]

/-- Scripts as they are sent. -/
def Script.codec : Codec Script where
  write := toJson
  read := ofJson?
  mentioned s := s.file?.toList

theorem Script.ofJson?_toJson {files : FileTree} {s : Script}
    (h : ∀ f ∈ s.file?.toList, f.Absent files) : Script.ofJson? files s.toJson = some s := by
  rw [ofJson?, toJson, record?, recordOf?_obj false (by rfl) (by simp)]
  simp -implicitDefEqProofs [Record.required, Record.given?, Uuid.ofJson?_toJson,
    Source.ofJson?_toJson h]

/-- Frames as they are sent. The values of the local variables are handed on as they are. -/
def Frame.codec : Codec Frame where
  write := toJson
  read := ofJson?
  mentioned f := f.script.file?.toList
  Sound f := ∀ e ∈ f.locals.entries, e.2.IsData

theorem localsOfJson?_localsToJson {locals : OrderedMap String Json}
    (h : ∀ e ∈ locals.entries, e.2.IsData) : localsOfJson? (localsToJson locals) = some locals := by
  rw [localsToJson, localsOfJson?, canonicalFields?_of_isData h, Option.map_some,
    OrderedMap.ofList_entries]

theorem isData_of_localsOfJson? {j : Json} {locals : OrderedMap String Json}
    (h : localsOfJson? j = some locals) : ∀ e ∈ locals.entries, e.2.IsData := by
  cases j with
  | obj fields =>
    rw [localsOfJson?, Option.map_eq_some_iff] at h
    obtain ⟨ds, hds, rfl⟩ := h
    intro e he
    exact isData_of_canonicalFields? fields hds e (OrderedMap.mem_of_mem_entries_ofList he)
  | null | bool b | num n | str s | arr items | unreadable => simp [localsOfJson?] at h

theorem Frame.ofJson?_toJson {files : FileTree} {f : Frame}
    (hdata : ∀ e ∈ f.locals.entries, e.2.IsData)
    (h : ∀ p ∈ f.script.file?.toList, p.Absent files) : Frame.ofJson? files f.toJson = some f := by
  rw [ofJson?, toJson, record?, recordOf?_obj false (by rfl) (by simp)]
  simp -implicitDefEqProofs [Record.required, Record.given?, localsOfJson?_localsToJson hdata,
    Script.ofJson?_toJson h]

/-- The locals of a frame that was read are data. -/
theorem Frame.isData_of_ofJson? {files : FileTree} {j : Json} {f : Frame}
    (h : Frame.ofJson? files j = some f) : ∀ e ∈ f.locals.entries, e.2.IsData := by
  simp only [ofJson?, Option.bind_eq_bind, Option.bind_eq_some_iff] at h
  obtain ⟨r, -, name, -, line, -, locals, hlocals, script, -, heq⟩ := h
  obtain rfl := Option.some.inj heq
  obtain ⟨value, -, hvalue⟩ := Option.bind_eq_some_iff.1 hlocals
  exact isData_of_localsOfJson? hvalue

/-! ## Counters -/

/-- The counters of a dispatch loop as they are sent. -/
def Dispatch.Statistics.codec : Codec Dispatch.Statistics where
  write := toJson
  read _ := ofJson?

theorem Dispatch.Statistics.ofJson?_toJson (s : Dispatch.Statistics) :
    Dispatch.Statistics.ofJson? s.toJson = some s := by
  rw [ofJson?, toJson, record?, recordOf?_obj false (by rfl) (by simp)]
  simp -implicitDefEqProofs [Record.required, Record.given?]

/-! ## The types of the protocol -/

/-- Values of the protocol are read as they were written, and so is what was read from any JSON. -/
theorem roundTrips :
    Command.codec.RoundTrips ∧ Breakpoint.codec.RoundTrips ∧ Location.codec.RoundTrips ∧
    Source.codec.RoundTrips ∧ Script.codec.RoundTrips ∧ Frame.codec.RoundTrips ∧
    Dispatch.Statistics.codec.RoundTrips := by
  refine ⟨?commands, ?breakpoints, ?locations, ?sources, ?scripts, ?frames, ?counters⟩
  case commands =>
    apply Codec.roundTrips_of_read_write
    · exact fun _ _ _ _ => trivial
    · exact fun _ _ _ h => Command.ofJson?_toJson h
  case breakpoints =>
    apply Codec.roundTrips_of_read_write
    · exact fun _ _ _ _ => trivial
    · exact fun _ b _ h => Breakpoint.ofJson?_toJson (h b.file List.mem_cons_self)
  case locations =>
    apply Codec.roundTrips_of_read_write
    · exact fun _ _ _ _ => trivial
    · exact fun _ l _ h => Location.ofJson?_toJson (h l.file List.mem_cons_self)
  case sources =>
    apply Codec.roundTrips_of_read_write
    · exact fun _ _ _ _ => trivial
    · exact fun _ _ _ h => Source.ofJson?_toJson h
  case scripts =>
    apply Codec.roundTrips_of_read_write
    · exact fun _ _ _ _ => trivial
    · exact fun _ _ _ h => Script.ofJson?_toJson h
  case frames =>
    apply Codec.roundTrips_of_read_write
    · exact fun _ _ _ h => Frame.isData_of_ofJson? h
    · exact fun _ _ hdata h => Frame.ofJson?_toJson hdata h
  case counters =>
    apply Codec.roundTrips_of_read_write
    · exact fun _ _ _ _ => trivial
    · exact fun _ s _ _ => s.ofJson?_toJson

/-! ## A command in another order -/

/-- A name with an extension names a file. -/
theorem isFileName_script : IsFileName "a.py" := by decide

/-- The file of the command below. -/
def sampleFile : SourceFile := ⟨[⟨"ws", by decide⟩, ⟨"a.py", isFileName_script⟩]⟩

/-- A command with its tag last, a path that is not in normal form, a field that it does not have,
and two that may be left out. -/
def sampleJson : Json :=
  .obj [
    ("breakpoint", .obj [
      ("enabled", .bool true), ("temporary", .bool false), ("hit_count", .num (.whole 2)),
      ("note", .arr []), ("line", .num (.whole 7)), ("file", .str "/ws/lib/.././a.py")]),
    ("command", .str "set_break")]

theorem roundTrips_sampleJson :
    ∃ b : Breakpoint, b.file = sampleFile ∧ sampleFile.Absent .empty ∧
      Command.codec.read .empty sampleJson = some (.setBreak b) ∧
      Command.codec.read .empty (Command.codec.write (.setBreak b)) = some (.setBreak b) := by
  have habsent : sampleFile.Absent .empty := by
    intro
    cbv
  have hread : Command.codec.read .empty sampleJson =
      some (.setBreak ⟨sampleFile, some 7, none, 2, false, true, none⟩) := by
    cbv
  refine ⟨_, rfl, habsent, hread, roundTrips.1.2 .empty sampleJson _ hread ?_⟩
  intro f hf
  obtain rfl := List.mem_singleton.1 hf
  exact habsent

end DebugRelay
