import DebugRelay.Proofs.Json.Data
import DebugRelay.Proofs.Text.Reader
import DebugRelay.Wire.Breakpoint
import Mathlib.Data.List.Nodup

/-!
# Reading records back

An object with the fields of a record, each once and in order, is read as that record
(`recordOf?_obj`), and the scalars are read as they were written.
-/

namespace DebugRelay.Json

/-- A field whose name no other field has is the one of its name. -/
theorem filter_name_of_nodup {fields : List (String × Json)} (h : (fields.map Prod.fst).Nodup)
    {f : String × Json} (hf : f ∈ fields) : fields.filter (fun g => g.1 == f.1) = [f] := by
  induction fields with
  | nil => exact absurd hf List.not_mem_nil
  | cons g rest ih =>
    rw [List.map_cons, List.nodup_cons] at h
    rcases List.mem_cons.1 hf with rfl | hf
    · have hothers : rest.filter (fun g => g.1 == f.1) = [] := by
        rw [List.filter_eq_nil_iff]
        intro g hg hname
        exact h.1 ((beq_iff_eq.1 hname) ▸ List.mem_map_of_mem hg)
      rw [List.filter_cons_of_pos (by simp), hothers]
    · have hname : g.1 ≠ f.1 := fun heq => h.1 (heq ▸ List.mem_map_of_mem hf)
      rw [List.filter_cons_of_neg (by simpa using hname), ih h.2 hf]

theorem single?_of_nodup {fields : List (String × Json)} (h : (fields.map Prod.fst).Nodup)
    {f : String × Json} (hf : f ∈ fields) : single? fields f.1 = some (some f.2) := by
  rw [single?, filter_name_of_nodup h hf]

theorem recordOf?_obj {names : List String} {fields : List (String × Json)} (overlong : Bool)
    (hnames : fields.map Prod.fst = names) (hnodup : names.Nodup) :
    recordOf? overlong names (.obj fields) =
      some ⟨false, fields.map fun f => (f.1, some f.2)⟩ := by
  subst hnames
  have hgiven : (fields.map Prod.fst).mapM
      (fun name => (single? fields name).map fun j => (name, j)) =
      some (fields.map fun f => (f.1, some f.2)) := by
    rw [List.mapM_map]
    refine Text.Reader.mapM_eq_some_map fun f hf => ?_
    rw [Function.comp, single?_of_nodup hnodup hf, Option.map_some]
  simp only [recordOf?, hgiven, Option.bind_eq_bind, Option.bind_some]

/-! ## Scalars -/

@[simp]
theorem text?_str (s : String) : text? (.str s) = some s := rfl

@[simp]
theorem bool?_bool (b : Bool) : bool? (.bool b) = some b := rfl

theorem below?_nat {bound n : Nat} (h : n < bound) : below? bound (nat n) = some n := by
  have hrange : (0 : Int) ≤ n ∧ (n : Int) < bound := by omega
  rw [nat, below?, if_pos hrange, Int.toNat_natCast]

@[simp]
theorem word32?_ofWord32 (n : UInt32) : word32? (ofWord32 n) = some n := by
  rw [word32?, ofWord32, below?_nat n.toNat_lt, Option.map_some, UInt32.ofNat_toNat]

@[simp]
theorem word64?_ofWord64 (n : UInt64) : word64? (ofWord64 n) = some n := by
  rw [word64?, ofWord64, below?_nat n.toNat_lt, Option.map_some, UInt64.ofNat_toNat]

/-- A value that may be missing, if what is there is not written as null. -/
theorem nullable_ofOption {α : Type} {toJson : α → Json} {decode : Decoder α}
    (hnull : ∀ x, toJson x ≠ .null) (hread : ∀ x, decode (toJson x) = some x) (o : Option α) :
    Record.nullable decode (ofOption toJson o) = some o := by
  cases o with
  | none => rfl
  | some x =>
    have hvalue : Record.nullable decode (toJson x) = (decode (toJson x)).map some := by
      cases hx : toJson x with
      | null => exact absurd hx (hnull x)
      | bool b | num n | str s | arr items | obj fields | unreadable => rfl
    rw [ofOption, hvalue, hread, Option.map_some]

@[simp]
theorem nullable_text? (o : Option String) : Record.nullable text? (ofOption .str o) = some o :=
  nullable_ofOption (by simp) text?_str o

@[simp]
theorem nullable_word32? (o : Option UInt32) :
    Record.nullable word32? (ofOption ofWord32 o) = some o :=
  nullable_ofOption (by simp [ofWord32, nat]) word32?_ofWord32 o

@[simp]
theorem nullable_word64? (o : Option UInt64) :
    Record.nullable word64? (ofOption ofWord64 o) = some o :=
  nullable_ofOption (by simp [ofWord64, nat]) word64?_ofWord64 o

/-! ## Tags -/

/-- A tag in front of other fields. -/
theorem tagged?_obj {tag name : String} {fields : List (String × Json)}
    (hothers : ∀ f ∈ fields, f.1 ≠ tag) (hread : ∀ f ∈ fields, f.2.isReadable = true) :
    tagged? tag (.obj ((tag, .str name) :: fields)) = some (name, .obj fields) := by
  have hreadable : (obj ((tag, .str name) :: fields)).isReadable = true := by
    rw [isReadable_obj_iff]
    intro f hf
    rcases List.mem_cons.1 hf with rfl | hf
    · rfl
    · exact hread f hf
  have hnone : fields.filter (fun f => f.1 == tag) = [] := by
    simpa [List.filter_eq_nil_iff] using hothers
  have hall : fields.filter (fun f => f.1 != tag) = fields := by
    simpa [List.filter_eq_self] using hothers
  rw [tagged?, if_pos hreadable]
  simp [single?, hnone, hall]

end DebugRelay.Json
