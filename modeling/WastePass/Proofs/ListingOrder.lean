import WastePass.Proofs.Rearrangement
import WastePass.Proofs.Requests
import WastePass.Tables.Amsterdam

/-!
# Listing order — the configuration of the municipality in any order

    The order of a listing matters only where entries overlap.  The districts of the
    municipality have no number in common, so `Amsterdam.draft` may be listed in any order:
    it is valid in each, and each gives every request the same answer.  As every district has
    a pass number, a code that has a district has a pass.
-/

namespace WastePass

namespace Draft

/-- The entries of a configuration in another order: those of the range table and of the pass
    number table among themselves, and the ranges of each district. -/
structure Relisted (a b : Draft) : Prop where
  districts : ∃ entries, a.districts.Perm entries ∧
    List.Forall₂ (fun e f => e.1 = f.1 ∧ e.2.Perm f.2) entries b.districts
  passNumbers : a.passNumbers.Perm b.passNumbers
  exceptions : b.exceptions = a.exceptions

/-- The ranges of the last districts change places, those of each among themselves. -/
theorem Rearranged.of_forall₂ {entries others : List (District × List (String × String))}
    (h : List.Forall₂ (fun e f => e.1 = f.1 ∧ e.2.Perm f.2) entries others) (draft : Draft) :
    ∀ before, Rearranged { draft with districts := before ++ entries }
      { draft with districts := before ++ others } := by
  -- From the front: the entries that have changed join those before.
  induction h with
  | nil => exact fun before => .refl _
  | @cons e f entries others hef _ ih =>
      intro before
      obtain ⟨d, bounds⟩ := e
      obtain ⟨d', bounds'⟩ := f
      obtain ⟨rfl, hbounds⟩ := hef
      have hfirst : Rearranged { draft with districts := before ++ (d, bounds) :: entries }
          { draft with districts := before ++ (d, bounds') :: entries } :=
        .ranges rfl hbounds
      have hrest := ih (before ++ [(d, bounds')])
      rw [List.append_assoc, List.append_assoc] at hrest
      exact hfirst.trans hrest

/-- Where no two districts share a number, another order is a free change. -/
theorem Relisted.rearranged {a b : Draft} (h : a.Relisted b) (hapart : a.DistrictsApart) :
    a.Rearranged b := by
  obtain ⟨districts, passNumbers, exceptions⟩ := b
  obtain ⟨⟨entries, hperm, hranges⟩, hnumbers, hexceptions⟩ := h
  obtain rfl : exceptions = a.exceptions := hexceptions
  have hplaces : Rearranged a { a with districts := entries } := .districts hperm hapart
  have hwithin : Rearranged { a with districts := entries } { a with districts := districts } :=
    Rearranged.of_forall₂ hranges a []
  exact (hplaces.trans hwithin).trans (.passNumbers hnumbers)

/-- The calls that add the entries of a configuration. -/
def calls (draft : Draft) : List Call :=
  draft.districts.map (fun e => .district e.1 e.2) ++
    (draft.passNumbers.map (fun e => .passNumber e.1 e.2) ++
      draft.exceptions.map fun e => .containerException e.1 e.2)

theorem listed_calls (draft : Draft) : listed draft.calls = draft := by
  unfold listed calls
  simp only [List.filterMap_append, List.filterMap_map, Function.comp_def, Call.rangeEntry?,
    Call.passEntry?, Call.exceptionEntry?, List.filterMap_none, List.append_nil, List.nil_append]
  show Draft.mk (draft.districts.filterMap some) (draft.passNumbers.filterMap some)
    (draft.exceptions.filterMap some) = draft
  rw [List.filterMap_some, List.filterMap_some, List.filterMap_some]

/-- The pass numbers of tables are those of their configuration. -/
theorem passNumberFor_eq_of_build {draft : Draft} {t : Tables} (h : draft.build = .ok t)
    (d : District) : t.passNumberFor d = draft.passNumberOf d := by
  have hentries := ((build_eq_ok_iff _ t).mp h).2
  rw [← draft.listed_calls] at hentries
  rw [WastePass.passNumberFor_eq hentries, Reference.passNumber_eq]
  exact congrArg (fun draft : Draft => draft.passNumberOf d) draft.listed_calls

/-- Free changes of a configuration answer every lookup alike. -/
theorem Rearranged.lookUp_eq {a b : Draft} {t u : Tables} (h : a.Rearranged b)
    (ht : a.build = .ok t) (hu : b.build = .ok u) (postalCode : String)
    (houseNumber : Option String) :
    u.lookUp postalCode houseNumber = t.lookUp postalCode houseNumber := by
  obtain ⟨hconsistent, hentries⟩ := (build_eq_ok_iff _ t).mp ht
  have hentries' := ((build_eq_ok_iff _ u).mp hu).2
  have halike := h.alike hconsistent
  rw [← a.listed_calls] at hentries halike
  rw [← b.listed_calls] at hentries' halike
  rw [WastePass.lookUp_eq hentries', WastePass.lookUp_eq hentries]
  exact (halike.lookUp_eq postalCode houseNumber).symm

end Draft

/-- Where every district has a pass number, no lookup stops at the pass number. -/
theorem Tables.lookUp_ne_noPassNumber {t : Tables}
    (h : ∀ d, ∃ number, t.passNumberFor d = some number) (postalCode : String)
    (houseNumber : Option String) :
    t.lookUp postalCode houseNumber ≠ .error (.notFound .passNumber) := by
  unfold lookUp
  cases Request.parse postalCode houseNumber with
  | error reason => exact nofun
  | ok request =>
      show t.resolve request ≠ _
      cases hdistrict : t.districtFor request.postalCode with
      | none =>
          rw [resolve_of_no_district hdistrict]
          exact nofun
      | some d =>
          obtain ⟨number, hnumber⟩ := h d
          rw [resolve_of_passNumber hdistrict hnumber]
          exact nofun

namespace Amsterdam

/-- The configuration is consistent, as all checks of its entries pass. -/
theorem consistent : draft.Consistent :=
  (exists_build_iff draft).mp ⟨_, rfl⟩

/-- Ranges of different districts stand one below the other. -/
theorem ranges_apart : ∀ e ∈ ranges, ∀ f ∈ ranges, e.1 = f.1 ∨
    ∀ b ∈ e.2, ∀ c ∈ f.2, numeral b.2 < numeral c.1 ∨ numeral c.2 < numeral b.1 := by
  decide

theorem districtsApart : draft.DistrictsApart := by
  intro n e he f hf hne hnf
  obtain ⟨b, hb, hnb⟩ := List.any_eq_true.mp hne
  obtain ⟨c, hc, hnc⟩ := List.any_eq_true.mp hnf
  rw [Reference.within, Bool.and_eq_true, decide_eq_true_eq, decide_eq_true_eq] at hnb hnc
  rcases ranges_apart e he f hf with hsame | hapart
  · exact hsame
  · have := hapart b hb c hc
    omega

/-- Every district has a pass number. -/
theorem passNumberOf_isSome (d : District) : (draft.passNumberOf d).isSome = true := by
  cases d <;> decide

/-- **The configuration of the municipality is closed, and free of its order.**  However the
    districts, the ranges of each and the pass numbers are listed, the configuration is valid,
    a service on its tables gives the same answer to every request, none of them for want of a
    pass number, and a code that has a district has a pass number. -/
theorem listing_order_is_free {other : Draft} (h : draft.Relisted other) :
    ∃ t u, tables = .ok t ∧ other.build = .ok u ∧
      (∀ postalCode houseNumber,
        Service.answer { tables := u } (.lookUp postalCode houseNumber)
            = Service.answer { tables := t } (.lookUp postalCode houseNumber) ∧
          Service.answer { tables := u } (.lookUp postalCode houseNumber)
            ≠ .outcome (.error (.notFound .passNumber))) ∧
      ∀ code, u.districtFor code = none ∨
        ∃ d number, u.districtFor code = some d ∧ u.passNumberFor d = some number := by
  have hfree := h.rearranged districtsApart
  obtain ⟨t, ht⟩ := (exists_build_iff draft).mpr consistent
  obtain ⟨u, hu⟩ := (exists_build_iff other).mpr (hfree.consistent consistent)
  have hpass : ∀ d, ∃ number, u.passNumberFor d = some number := by
    intro d
    rw [Draft.passNumberFor_eq_of_build hu, ← (hfree.alike consistent).passNumber]
    exact Option.isSome_iff_exists.mp (passNumberOf_isSome d)
  refine ⟨t, u, ht, hu, fun postalCode houseNumber => ⟨?_, ?_⟩, fun code => ?_⟩
  · exact congrArg Service.Answer.outcome (hfree.lookUp_eq ht hu postalCode houseNumber)
  · intro hanswer
    injection hanswer with houtcome
    exact Tables.lookUp_ne_noPassNumber hpass postalCode houseNumber houtcome
  · cases hdistrict : u.districtFor code with
    | none => exact .inl rfl
    | some d =>
        obtain ⟨number, hnumber⟩ := hpass d
        exact .inr ⟨d, number, rfl, hnumber⟩

/-- The tables listed the other way round, and the ranges of the one district that has two. -/
theorem listing_order_is_free_of_reversed :
    ∃ t u, tables = .ok t ∧
      Draft.build
        { draft with
          districts := ranges.reverse.map fun e => (e.1, e.2.reverse)
          passNumbers := passNumbers.reverse } = .ok u ∧
      t ≠ u ∧
      Service.answer { tables := u } (.lookUp " 1019 ab" (some "12"))
        = Service.answer { tables := t } (.lookUp " 1019 ab" (some "12")) := by
  have h : draft.Relisted
      { draft with
        districts := ranges.reverse.map fun e => (e.1, e.2.reverse)
        passNumbers := passNumbers.reverse } := by
    refine ⟨⟨ranges.reverse, (List.reverse_perm ranges).symm, ?_⟩,
      (List.reverse_perm passNumbers).symm, rfl⟩
    exact List.forall₂_map_right_iff.mpr
      (List.forall₂_same.mpr fun e _ => ⟨rfl, (List.reverse_perm e.2).symm⟩)
  obtain ⟨t, u, ht, hu, hanswers, -⟩ := listing_order_is_free h
  refine ⟨t, u, ht, hu, ?_, (hanswers " 1019 ab" (some "12")).1⟩
  rintro rfl
  have hentries := ((build_eq_ok_iff _ t).mp ht).2
  have hentries' := ((build_eq_ok_iff _ t).mp hu).2
  have hdistricts := congrArg Draft.districts (hentries.symm.trans hentries')
  exact absurd hdistricts (by decide)

end Amsterdam

end WastePass
