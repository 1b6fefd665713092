import DebugRelay.Json.Value
import DebugRelay.Proofs.OrderedMap

/-!
# Values that are data

A JSON value is data if it is its own canonical form. Whatever is brought into canonical form is
data (`isData_of_canonical?`).
-/

namespace DebugRelay.Json

/-- The value has nothing unreadable, and objects with each name once and in order. -/
def IsData (j : Json) : Prop := j.canonical? = some j

theorem canonicalItems?_of_isData {items : List Json} (h : ∀ j ∈ items, j.IsData) :
    canonicalItems? items = some items := by
  induction items with
  | nil => rfl
  | cons j rest ih =>
    have hj : j.canonical? = some j := h j List.mem_cons_self
    have hrest := ih fun x hx => h x (List.mem_cons_of_mem j hx)
    simp [canonicalItems?, hj, hrest]

theorem canonicalFields?_of_isData {fields : List (String × Json)} (h : ∀ f ∈ fields, f.2.IsData) :
    canonicalFields? fields = some fields := by
  induction fields with
  | nil => rfl
  | cons f rest ih =>
    have hf : f.2.canonical? = some f.2 := h f List.mem_cons_self
    have hrest := ih fun x hx => h x (List.mem_cons_of_mem f hx)
    simp [canonicalFields?, hf, hrest]

/-- An object whose fields are data in the order of a map. -/
theorem isData_obj_entries {fields : OrderedMap String Json}
    (h : ∀ f ∈ fields.entries, f.2.IsData) :
    (obj fields.entries).IsData := by
  rw [IsData, canonical?, canonicalFields?_of_isData h, Option.map_some, OrderedMap.ofList_entries]

theorem isSome_canonicalFields?_iff {fields : List (String × Json)} :
    (canonicalFields? fields).isSome ↔ ∀ f ∈ fields, f.2.isReadable = true := by
  induction fields with
  | nil => simp [canonicalFields?]
  | cons f rest ih =>
    rw [List.forall_mem_cons, ← ih, isReadable]
    cases hf : f.2.canonical? with
    | none => simp [canonicalFields?, hf]
    | some d => cases hrest : canonicalFields? rest <;> simp [canonicalFields?, hf, hrest]

/-- An object is readable if its fields are. -/
theorem isReadable_obj_iff {fields : List (String × Json)} :
    (obj fields).isReadable = true ↔ ∀ f ∈ fields, f.2.isReadable = true := by
  rw [isReadable, canonical?, Option.isSome_map, isSome_canonicalFields?_iff]

mutual

theorem isData_of_canonical? (j : Json) {d : Json} (h : j.canonical? = some d) : d.IsData := by
  cases j with
  | null | bool b | num n | str s =>
    obtain rfl := Option.some.inj h
    rfl
  | unreadable => simp [canonical?] at h
  | arr items =>
    rw [canonical?, Option.map_eq_some_iff] at h
    obtain ⟨ds, hds, rfl⟩ := h
    have hitems := isData_of_canonicalItems? items hds
    rw [IsData, canonical?, canonicalItems?_of_isData hitems, Option.map_some]
  | obj fields =>
    rw [canonical?, Option.map_eq_some_iff] at h
    obtain ⟨ds, hds, rfl⟩ := h
    have hfields := isData_of_canonicalFields? fields hds
    exact isData_obj_entries fun f hf => hfields f (OrderedMap.mem_of_mem_entries_ofList hf)

theorem isData_of_canonicalItems? (items : List Json) {ds : List Json}
    (h : canonicalItems? items = some ds) : ∀ d ∈ ds, d.IsData := by
  cases items with
  | nil =>
    obtain rfl := Option.some.inj h
    simp
  | cons j rest =>
    simp only [canonicalItems?, Option.bind_eq_bind, Option.bind_eq_some_iff] at h
    obtain ⟨d, hd, more, hmore, heq⟩ := h
    obtain rfl := Option.some.inj heq
    intro x hx
    rcases List.mem_cons.1 hx with rfl | hx
    · exact isData_of_canonical? j hd
    · exact isData_of_canonicalItems? rest hmore x hx

theorem isData_of_canonicalFields? (fields : List (String × Json)) {ds : List (String × Json)}
    (h : canonicalFields? fields = some ds) : ∀ d ∈ ds, d.2.IsData := by
  cases fields with
  | nil =>
    obtain rfl := Option.some.inj h
    simp
  | cons f rest =>
    obtain ⟨name, j⟩ := f
    simp only [canonicalFields?, Option.bind_eq_bind, Option.bind_eq_some_iff] at h
    obtain ⟨d, hd, more, hmore, heq⟩ := h
    obtain rfl := Option.some.inj heq
    intro x hx
    rcases List.mem_cons.1 hx with rfl | hx
    · exact isData_of_canonical? j hd
    · exact isData_of_canonicalFields? rest hmore x hx

end

end DebugRelay.Json
