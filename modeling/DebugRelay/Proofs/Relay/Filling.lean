import DebugRelay.Proofs.Registry.Putting
import DebugRelay.Proofs.Relay.Setups
import DebugRelay.Proofs.Relay.Unlocated

/-!
# The order in which the registry is filled

Breakpoints are apart (`Breakpoint.Apart`) if neither their locations nor their markers coincide.
Putting breakpoints that are apart into an empty registry leaves exactly those breakpoints, and the
locations that their markers own (`Registry.Holds`), so it leaves the same registry in whatever
order they come. What the IDE stores may therefore be enumerated in any order
(`filled_in_any_order`).
-/

namespace DebugRelay

/-- Two breakpoints have different locations and, where both have one, different markers. -/
def Breakpoint.Apart (b c : Breakpoint) : Prop :=
  b.location ≠ c.location ∧ ∀ m, b.marker = some m → c.marker ≠ some m

theorem Breakpoint.Apart.symm {b c : Breakpoint} (h : b.Apart c) : c.Apart b :=
  ⟨h.1.symm, fun m hc hb => h.2 m hb hc⟩

namespace Registry

/-- The entries are the listed breakpoints, each at its location, and the locations that markers own
are those of the listed breakpoints with these markers. -/
structure Holds (r : Registry) (bs : List Breakpoint) : Prop where
  entries : ∀ l b, r.find? l = some b ↔ b ∈ bs ∧ b.location = l
  owners : ∀ m l, r.owners.find? m = some l ↔ ∃ b ∈ bs, b.marker = some m ∧ b.location = l

variable {r s : Registry} {bs cs : List Breakpoint} {b : Breakpoint}

theorem holds_empty : empty.Holds [] where
  entries l b := by simp [find?, empty]
  owners m l := by simp [empty]

/-- A breakpoint that is apart from all entries is put at a free location. -/
theorem Holds.free (h : r.Holds bs) (hb : ∀ c ∈ bs, c.Apart b) : r.find? b.location = none := by
  rw [Option.eq_none_iff_forall_ne_some]
  intro c hc
  obtain ⟨hmem, hloc⟩ := (h.entries _ _).1 hc
  exact (hb c hmem).1 hloc

/-- The marker of a breakpoint that is apart from all entries owns nothing. -/
theorem Holds.unowned (h : r.Holds bs) (hb : ∀ c ∈ bs, c.Apart b) (k : Location) :
    ¬ r.OwnedBy b k := by
  rintro ⟨m, hm, hown⟩
  obtain ⟨c, hmem, hc, -⟩ := (h.owners m k).1 hown
  exact (hb c hmem).2 m hc hm

theorem Holds.put (h : r.Holds bs) (hb : ∀ c ∈ bs, c.Apart b) :
    (r.put b).1.Holds (bs ++ [b]) := by
  have hfree := h.free hb
  have hhome : r.ownedElsewhere? b.marker b.location = none :=
    ownedElsewhere?_eq_none_iff.2 fun k hk => absurd hk (h.unowned hb k)
  constructor
  case entries =>
    intro l c
    rw [find?_put, hhome, List.mem_append, List.mem_singleton]
    by_cases hl : l = b.location
    · subst hl
      have hentry : r.entryAfter b = b := by rw [entryAfter, hhome, hfree]
      rw [if_pos rfl, hentry, Option.some.injEq]
      constructor
      · rintro rfl
        exact ⟨Or.inr rfl, rfl⟩
      · rintro ⟨hmem | rfl, hloc⟩
        · exact absurd hloc (hb c hmem).1
        · rfl
    · rw [if_neg hl, if_neg (by simp), h.entries]
      constructor
      · rintro ⟨hmem, hloc⟩
        exact ⟨Or.inl hmem, hloc⟩
      · rintro ⟨hmem | rfl, hloc⟩
        · exact ⟨hmem, hloc⟩
        · exact absurd hloc.symm hl
  case owners =>
    intro m l
    have hkeep : ((r.owners.find? m).filter fun l => none ≠ some l) = r.owners.find? m := by
      cases r.owners.find? m <;> rfl
    rw [owners_put, hhome, hkeep]
    by_cases hm : b.marker = some m
    · rw [if_pos hm, Option.some.injEq]
      constructor
      · rintro rfl
        exact ⟨b, by simp, hm, rfl⟩
      · rintro ⟨c, hmem, hc, rfl⟩
        rcases List.mem_append.1 hmem with hmem | hmem
        · exact absurd hm ((hb c hmem).2 m hc)
        · rw [List.mem_singleton.1 hmem]
    · rw [if_neg hm, h.owners]
      constructor
      · rintro ⟨c, hmem, hc⟩
        exact ⟨c, List.mem_append_left _ hmem, hc⟩
      · rintro ⟨c, hmem, hc, hloc⟩
        rcases List.mem_append.1 hmem with hmem | hmem
        · exact ⟨c, hmem, hc, hloc⟩
        · rw [List.mem_singleton.1 hmem] at hc
          exact absurd hc hm

/-- Breakpoints that are apart are all there once they have been put. -/
theorem Holds.after {more : List Breakpoint} (h : r.Holds bs)
    (hapart : (bs ++ more).Pairwise Breakpoint.Apart) :
    (r.after (more.map .put)).Holds (bs ++ more) := by
  induction more generalizing r bs with
  | nil => rwa [List.append_nil]
  | cons b rest ih =>
    have hb : ∀ c ∈ bs, c.Apart b := fun c hc =>
      (List.pairwise_append.1 hapart).2.2 c hc b List.mem_cons_self
    rw [List.append_cons] at hapart ⊢
    exact ih (h.put hb) hapart

/-- Registries that hold the same breakpoints are equal, whatever the order of the lists. -/
theorem Holds.eq (h : r.Holds bs) (h' : s.Holds cs) (hsame : ∀ b, b ∈ bs ↔ b ∈ cs) : r = s := by
  obtain ⟨entries, owners⟩ := r
  obtain ⟨entries', owners'⟩ := s
  congr 1
  · refine OrderedMap.ext_find? fun l => Option.ext fun b => ?_
    exact (h.entries l b).trans ((and_congr_left' (hsame b)).trans (h'.entries l b).symm)
  · refine OrderedMap.ext_find? fun m => Option.ext fun l => ?_
    refine (h.owners m l).trans (Iff.trans ?_ (h'.owners m l).symm)
    exact exists_congr fun b => and_congr_left' (hsame b)

end Registry

namespace Relay

variable {r s : Relay}

/-- What a setup comes to and what calls it makes depend on the registry, the settings and the calls
made before. -/
theorem setup_congr (hcalls : s.native.calls = r.native.calls) (hsettings : s.settings = r.settings)
    (hregistry : s.registry = r.registry) (i : Interpreter) :
    (s.setup i).2 = (r.setup i).2 ∧ (s.setup i).1.native.calls = (r.setup i).1.native.calls := by
  rcases i.performs_or r.native.calls r.settings.setupCalls with
    h | ⟨ahead, c, behind, e, hsplit, hahead, hc⟩
  · have hs : i.Performs s.native.calls s.settings.setupCalls := by rwa [hcalls, hsettings]
    obtain ⟨hok, -, hmade⟩ := setup_of_performs h
    obtain ⟨hok', -, hmade'⟩ := setup_of_performs hs
    exact ⟨hok'.trans hok.symm, by rw [hmade', hmade, hcalls, hsettings, hregistry]⟩
  · obtain ⟨native, hmade, heq⟩ := setup_of_failure hsplit hahead hc
    rw [← hcalls] at hahead hc
    rw [← hsettings] at hsplit
    obtain ⟨native', hmade', heq'⟩ := setup_of_failure hsplit hahead hc
    rw [heq, heq']
    exact ⟨rfl, by rw [hmade', hmade, hcalls]⟩

/-- The breakpoints that the registry is filled with, in the order of the store. -/
def seeds (r : Relay) : List Breakpoint :=
  Breakpoint.resolved r.files (r.store.filter fun stored => r.supports stored.model)

/-- Filling the registry puts the seeds, and warns of what is in no file. -/
theorem loadBreakpoints_eq_seeds (r : Relay) :
    r.loadBreakpoints = (({ r with registry := r.registry.after (r.seeds.map .put) } :
      Relay).warnAll (skips (r.store.filter fun stored => r.supports stored.model)),
        r.seeds.length) :=
  r.putAll_eq _

theorem skips_perm {stored stored' : List StoredBreakpoint} (h : stored.Perm stored') :
    (skips stored).Perm (skips stored') :=
  (h.filterMap _).map _

/-- An empty registry is filled from a store whose breakpoints, those in no file aside, differ in
their locations and, where they have markers, in these. Then the registry has exactly those
breakpoints and the locations of their markers. Any order of the store gives the same count and the
same relay, its registry included, but for the order of the warnings; and any setup afterwards comes
to the same and makes the same calls. -/
theorem filled_in_any_order {r : Relay} (hempty : r.registry = .empty)
    (hapart : r.seeds.Pairwise Breakpoint.Apart) {store : List StoredBreakpoint}
    (hperm : r.store.Perm store) :
    let s := r.loadBreakpoints
    let s' := ({ r with store := store } : Relay).loadBreakpoints
    s.1.registry.Holds r.seeds ∧ s.2 = r.seeds.length ∧
      s'.2 = s.2 ∧ s'.1.registry = s.1.registry ∧
      (∃ log, log.Perm s.1.log ∧ s'.1 = { s.1 with store := store, log := log }) ∧
      ∀ i, (s'.1.setup i).2 = (s.1.setup i).2 ∧
        (s'.1.setup i).1.native.calls = (s.1.setup i).1.native.calls := by
  intro s s'
  let r' : Relay := { r with store := store }
  have hkept : (r.store.filter fun stored => r.supports stored.model).Perm
      (store.filter fun stored => r.supports stored.model) := hperm.filter _
  have hseeds : r.seeds.Perm r'.seeds := hkept.filterMap _
  have hs : s = _ := r.loadBreakpoints_eq_seeds
  have hs' : s' = _ := r'.loadBreakpoints_eq_seeds
  have hholds : (r.registry.after (r.seeds.map .put)).Holds r.seeds := by
    rw [hempty]
    exact Registry.holds_empty.after hapart
  have hholds' : (r.registry.after (r'.seeds.map .put)).Holds r'.seeds := by
    rw [hempty]
    exact Registry.holds_empty.after ((hseeds.pairwise_iff Breakpoint.Apart.symm).1 hapart)
  have hregistry : r.registry.after (r'.seeds.map .put) = r.registry.after (r.seeds.map .put) :=
    hholds'.eq hholds fun b => hseeds.mem_iff.symm
  have hsame : s'.1.registry = s.1.registry := by
    rw [hs, hs']
    exact hregistry
  refine ⟨?_, ?_, ?_, hsame, ?_, ?_⟩
  · rw [hs]
    exact hholds
  · rw [hs]
  · rw [hs, hs']
    exact hseeds.length_eq.symm
  · refine ⟨s'.1.log, ?_, ?_⟩
    · rw [hs, hs']
      exact ((skips_perm hkept.symm).map _).append_left _
    · rw [hs, hs']
      simp only [warnAll, r', hregistry]
  · intro i
    refine setup_congr ?_ ?_ hsame i
    · rw [hs, hs']
      rfl
    · rw [hs, hs']
      rfl

/-! ## Two breakpoints and one in no file -/

/-- A relay whose store has two breakpoints, the second of them with a marker, and between them one
of which the file is not known. -/
def sampleSown : Relay :=
  { started sampleParts with store := [sampleStored, sampleDeleted, sampleMislaid] }

theorem seeds_sampleSown :
    sampleSown.seeds = [⟨sampleFile, some 10, none, 0, false, true, none⟩,
      ⟨⟨[⟨"b.py", by decide⟩]⟩, none, none, 0, false, false, some 7⟩] := by
  have hfirst : SourceFile.locate? ⟨[]⟩ "/a.py" = some sampleFile := by cbv
  have hlast : SourceFile.locate? ⟨[]⟩ "/b.py" = some ⟨[⟨"b.py", by decide⟩]⟩ := by cbv
  change Breakpoint.resolved ⟨[]⟩ [sampleStored, sampleDeleted, sampleMislaid] = _
  simp [Breakpoint.resolved, Breakpoint.resolve, Breakpoint.valueOr, Except.toOption, sampleStored,
    sampleDeleted, sampleMislaid, hfirst, hlast]

theorem apart_sampleSown : sampleSown.seeds.Pairwise Breakpoint.Apart := by
  rw [seeds_sampleSown, List.pairwise_pair]
  exact ⟨by decide, by simp⟩

/-- Stored the other way round, the two are taken in alike, and a debugger that is set up is told
the same. -/
theorem filled_sampleSown :
    sampleSown.loadBreakpoints.2 = 2 ∧
    ({ sampleSown with store := sampleSown.store.reverse } : Relay).loadBreakpoints.2 = 2 ∧
    (({ sampleSown with store := sampleSown.store.reverse } : Relay).loadBreakpoints.1.setup
      .direct).1.native.calls = (sampleSown.loadBreakpoints.1.setup .direct).1.native.calls := by
  obtain ⟨-, hcount, hsame, -, -, hsetup⟩ :=
    filled_in_any_order (r := sampleSown) rfl apart_sampleSown (List.reverse_perm _).symm
  have htwo : sampleSown.loadBreakpoints.2 = 2 := by
    rw [hcount, seeds_sampleSown]
    rfl
  exact ⟨htwo, hsame.trans htwo, (hsetup .direct).2⟩

end Relay

end DebugRelay
