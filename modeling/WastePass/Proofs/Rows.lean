import Mathlib.Data.List.Nodup
import WastePass.Proofs.Reference

/-!
# Rows — the overview lists every configured district once and decides every lookup

    The overview is grown row by row: a pass number gets a row of its own where no row
    that is there already belongs to its district.  As no district is listed twice in
    the table of pass numbers, the rows that are added are those of the districts
    without ranges, in their order.  A row without ranges never contains a code, so the
    first row that does is that of the first district that does.
-/

namespace WastePass

/-- What the rows of an overview say about a code: the first with a range around it decides.
    Containers apart, they leave nothing open. -/
structure OverviewRow.Decide (rows : List OverviewRow) (code : PostalCode) (outcome : Outcome) :
    Prop where
  district : outcome = .error (.notFound .district) ↔
    ∀ row ∈ rows, ∀ r ∈ row.ranges, r.contains code = false
  passNumber : ∀ row, rows.find? (fun row => row.ranges.any (·.contains code)) = some row →
    (outcome = .error (.notFound .passNumber) ↔ row.passNumber = none)
  pass : ∀ row, rows.find? (fun row => row.ranges.any (·.contains code)) = some row →
    ∀ number, row.passNumber = some number →
      ∃ hasContainer, outcome = .ok ⟨row.district, number, hasContainer⟩

/-- The answer that rows give to a code, where it is known whether there is a container. -/
def OverviewRow.answer (rows : List OverviewRow) (code : PostalCode) (hasContainer : Bool) :
    Outcome :=
  match rows.find? fun row => row.ranges.any (·.contains code) with
  | none => .error (.notFound .district)
  | some row =>
    match row.passNumber with
    | none => .error (.notFound .passNumber)
    | some number => .ok ⟨row.district, number, hasContainer⟩

/-- The answer of rows is what they decide. -/
theorem OverviewRow.decide_answer (rows : List OverviewRow) (code : PostalCode)
    (hasContainer : Bool) : Decide rows code (answer rows code hasContainer) := by
  unfold answer
  cases hfound : rows.find? fun row => row.ranges.any (·.contains code) with
  | none =>
      have hmiss : ∀ row ∈ rows, ∀ r ∈ row.ranges, r.contains code = false := by
        simpa using hfound
      exact ⟨iff_of_true rfl hmiss, fun row hrow => (nomatch hfound.symm.trans hrow),
        fun row hrow => (nomatch hfound.symm.trans hrow)⟩
  | some row =>
      -- The row that is found has a range around the code, so not all ranges miss it.
      have hmiss : ¬ ∀ row ∈ rows, ∀ r ∈ row.ranges, r.contains code = false := by
        intro hall
        have hany : (row.ranges.any fun r => r.contains code) = true :=
          List.find?_some (p := fun row : OverviewRow => row.ranges.any fun r => r.contains code)
            hfound
        obtain ⟨r, hr, hcontains⟩ := List.any_eq_true.mp hany
        rw [hall row (List.mem_of_find?_eq_some hfound) r hr] at hcontains
        exact nomatch hcontains
      refine ⟨iff_of_false ?_ hmiss, fun row' hrow => ?_, fun row' hrow number hnumber => ?_⟩
      · cases hnumber : row.passNumber <;> simp [hnumber]
      · obtain rfl : row = row' := Option.some.inj (hfound.symm.trans hrow)
        cases hnumber : row.passNumber <;> simp [hnumber]
      · obtain rfl : row = row' := Option.some.inj (hfound.symm.trans hrow)
        exact ⟨hasContainer, by simp [hnumber]⟩

namespace Tables

/-- The row of a district that has a pass number only. -/
def passRow (entry : District × String) : OverviewRow :=
  ⟨entry.1, [], some entry.2⟩

/-- The pass numbers of districts that have no ranges. -/
def passOnly (t : Tables) : List (District × String) :=
  t.passNumbers.filter fun entry => entry.1 ∉ t.districts.map (·.district)

/-! ## The rows -/

/-- One pass number adds a row where its district has none. -/
theorem addPassRow_eq (rows : List OverviewRow) (entry : District × String) :
    addPassRow rows entry
      = rows ++ if entry.1 ∈ rows.map (·.district) then [] else [passRow entry] := by
  have hall : (rows.all fun row => row.district ≠ entry.1) = true
      ↔ entry.1 ∉ rows.map (·.district) := by
    simp only [List.all_eq_true, decide_eq_true_eq, List.mem_map, not_exists, not_and]
  unfold addPassRow
  by_cases h : entry.1 ∈ rows.map (·.district)
  · rw [if_neg (fun hrows => hall.mp hrows h), if_pos h, List.append_nil]
  · rw [if_pos (hall.mpr h), if_neg h]
    rfl

/-- The pass numbers of a table add rows for the districts that had none. -/
theorem foldl_addPassRow {entries : List (District × String)}
    (hnodup : (entries.map (·.1)).Nodup) (rows : List OverviewRow) :
    entries.foldl addPassRow rows
      = rows ++ (entries.filter fun e => e.1 ∉ rows.map (·.district)).map passRow := by
  -- For any rows: those that were added on the way belong to districts that do not come
  -- again, so they hide none of the rest.
  induction entries generalizing rows with
  | nil => rw [List.foldl_nil, List.filter_nil, List.map_nil, List.append_nil]
  | cons e rest ih =>
      rw [List.map_cons, List.nodup_cons] at hnodup
      obtain ⟨hfirst, hnodup⟩ := hnodup
      rw [List.foldl_cons, ih hnodup, addPassRow_eq]
      by_cases h : e.1 ∈ rows.map (·.district)
      · rw [if_pos h, List.append_nil, List.filter_cons_of_neg (by simpa using h)]
      · have hrest : (rest.filter fun x => x.1 ∉ (rows ++ [passRow e]).map (·.district))
            = rest.filter fun x => x.1 ∉ rows.map (·.district) := by
          refine List.filter_congr fun x hx => ?_
          have hne : x.1 ≠ e.1 := fun heq => hfirst (heq ▸ List.mem_map_of_mem hx)
          rw [List.map_append, decide_eq_decide, List.mem_append]
          show ¬ (_ ∨ x.1 ∈ [e.1]) ↔ _
          rw [List.mem_singleton, or_iff_left hne]
        rw [if_neg h, hrest, List.filter_cons_of_pos (by simpa using h), List.map_cons,
          List.append_assoc]
        rfl

/-- The overview of valid tables: the districts with ranges, then those without. -/
theorem overview_eq {t : Tables} (h : t.Valid) :
    t.overview = t.rangeRows ++ t.passOnly.map passRow := by
  have hdistricts : t.rangeRows.map (·.district) = t.districts.map (·.district) := by
    rw [rangeRows, List.map_map]
    rfl
  rw [overview, foldl_addPassRow h.passNumbers_nodup, hdistricts]
  rfl

/-- The districts of the rows. -/
theorem map_district_overview {t : Tables} (h : t.Valid) :
    t.overview.map (·.district) = t.districts.map (·.district) ++ t.passOnly.map (·.1) := by
  rw [overview_eq h, List.map_append, rangeRows, List.map_map, List.map_map]
  rfl

/-- No district has two rows. -/
theorem overview_nodup {t : Tables} (h : t.Valid) : (t.overview.map (·.district)).Nodup := by
  rw [map_district_overview h]
  refine h.districts_nodup.append (h.passNumbers_nodup.sublist (List.filter_sublist.map _)) ?_
  intro d hd hd'
  obtain ⟨e, he, rfl⟩ := List.mem_map.mp hd'
  exact of_decide_eq_true (List.mem_filter.mp he).2 hd

/-- Every configured district has a row, and no other has. -/
theorem mem_overview_iff {t : Tables} (h : t.Valid) (d : District) :
    d ∈ t.overview.map (·.district) ↔
      d ∈ t.districts.map (·.district) ∨ d ∈ t.passNumbers.map (·.1) := by
  rw [map_district_overview h, List.mem_append]
  constructor
  · rintro (hd | hd)
    · exact Or.inl hd
    · exact Or.inr ((List.filter_sublist.map _).subset hd)
  · rintro (hd | hd)
    · exact Or.inl hd
    · by_cases hrange : d ∈ t.districts.map (·.district)
      · exact Or.inl hrange
      · obtain ⟨e, he, rfl⟩ := List.mem_map.mp hd
        exact Or.inr (List.mem_map_of_mem (List.mem_filter.mpr ⟨he, decide_eq_true hrange⟩))

/-- A row shows the pass number that its district has, if it has one. -/
theorem passNumber_overview_iff {t : Tables} (h : t.Valid) {row : OverviewRow}
    (hrow : row ∈ t.overview) (number : String) :
    row.passNumber = some number ↔ (row.district, number) ∈ t.passNumbers := by
  -- Where no district is listed twice, an entry is the one that is found.
  have hfound : ∀ d, t.passNumberFor d = some number ↔ (d, number) ∈ t.passNumbers := by
    intro d
    rw [passNumberFor, Option.map_eq_some_iff]
    constructor
    · rintro ⟨⟨e, text⟩, he, rfl⟩
      have hd : e = d := of_decide_eq_true
        (List.find?_some (p := fun entry : District × String => decide (entry.1 = d)) he)
      exact hd ▸ List.mem_of_find?_eq_some he
    · intro hmem
      exact ⟨_, find?_eq_some_of_nodup h.passNumbers_nodup hmem, rfl⟩
  rw [overview_eq h, List.mem_append] at hrow
  rcases hrow with hrow | hrow
  · obtain ⟨entry, -, rfl⟩ := List.mem_map.mp hrow
    exact hfound entry.district
  · obtain ⟨⟨d, text⟩, he, rfl⟩ := List.mem_map.mp hrow
    have hmem : (d, text) ∈ t.passNumbers := List.mem_of_mem_filter he
    show some text = some number ↔ (d, number) ∈ t.passNumbers
    rw [← hfound d, passNumberFor, find?_eq_some_of_nodup h.passNumbers_nodup hmem]
    rfl

/-! ## What the rows decide -/

/-- The first row around a code is that of the first district around it. -/
theorem find?_overview {t : Tables} (h : t.Valid) (code : PostalCode) :
    t.overview.find? (fun row => row.ranges.any (·.contains code))
      = (t.districts.find? fun entry => entry.ranges.any (·.contains code)).map fun entry =>
          ⟨entry.district, entry.ranges, t.passNumberFor entry.district⟩ := by
  have hpass : (t.passOnly.map passRow).find? (fun row => row.ranges.any (·.contains code))
      = none := by
    rw [List.find?_eq_none]
    intro row hrow
    obtain ⟨entry, -, rfl⟩ := List.mem_map.mp hrow
    exact Bool.false_ne_true
  rw [overview_eq h, List.find?_append, hpass, Option.or_none, rangeRows, List.find?_map]
  rfl

/-- A request is answered from the rows of the overview, containers apart. -/
theorem resolve_eq_answer {t : Tables} (h : t.Valid) (request : Request) :
    t.resolve request
      = OverviewRow.answer t.overview request.postalCode (t.hasContainer request.postalCode) := by
  unfold resolve districtFor OverviewRow.answer
  rw [find?_overview h]
  cases t.districts.find? fun entry => entry.ranges.any (·.contains request.postalCode) with
  | none => rfl
  | some entry =>
      show (match t.passNumberFor entry.district with | none => _ | some number => _) = _
      cases hnumber : t.passNumberFor entry.district <;> simp [hnumber]

end Tables

/-- **The overview is complete, and it decides every lookup.**  On the tables of a
    configuration a service lists the districts with ranges in their order and with
    their ranges, then those with a pass number only in theirs: each configured district
    once and no other.  What it answers to a request that can be read follows from
    these rows. -/
theorem overview_complete_and_decisive {draft : Draft} {s : Service}
    (h : draft.build = .ok s.tables) :
    ∃ rows, s.answer .overview = .overview rows ∧
      rows = (s.tables.districts.map fun entry =>
            ⟨entry.district, entry.ranges, s.tables.passNumberFor entry.district⟩)
          ++ s.tables.passOnly.map Tables.passRow ∧
      (rows.map (·.district)).Nodup ∧
      (∀ d, d ∈ rows.map (·.district) ↔
        d ∈ s.tables.districts.map (·.district) ∨ d ∈ s.tables.passNumbers.map (·.1)) ∧
      (∀ row ∈ rows, ∀ number,
        row.passNumber = some number ↔ (row.district, number) ∈ s.tables.passNumbers) ∧
      ∀ postalCode houseNumber request, Request.parse postalCode houseNumber = .ok request →
        ∃ outcome, s.answer (.resolve postalCode houseNumber) = .outcome outcome ∧
          OverviewRow.Decide rows request.postalCode outcome := by
  have hvalid : s.tables.Valid := Tables.valid_of_build h
  refine ⟨s.tables.overview, rfl, Tables.overview_eq hvalid, Tables.overview_nodup hvalid,
    Tables.mem_overview_iff hvalid, fun row hrow => Tables.passNumber_overview_iff hvalid hrow, ?_⟩
  intro postalCode houseNumber request hrequest
  refine ⟨s.tables.resolve request, ?_, ?_⟩
  · show Service.Answer.outcome (s.tables.lookUp postalCode houseNumber) = _
    unfold Tables.lookUp
    rw [hrequest]
  · rw [Tables.resolve_eq_answer hvalid]
    exact OverviewRow.decide_answer _ _ _

/-- Ranges that overlap, a pass number without ranges and ranges without a pass number: the
    first row around a code decides, even where only the second has a pass number. -/
theorem overview_complete_and_decisive_of_overlap :
    ∃ t, Draft.build ⟨[(.oost, [("1000", "1099")]), (.noord, [("1050", "1200")])],
        [(.zuid, "9"), (.noord, "7")], []⟩ = .ok t ∧
      Service.answer { tables := t } .overview
        = .overview [⟨.oost, [⟨1000, 1099, by decide⟩], none⟩,
            ⟨.noord, [⟨1050, 1200, by decide⟩], some "7"⟩, ⟨.zuid, [], some "9"⟩] ∧
      Service.answer { tables := t } (.resolve "1050 ab" none)
        = .outcome (.error (.notFound .passNumber)) := by
  have h : Draft.build ⟨[(.oost, [("1000", "1099")]), (.noord, [("1050", "1200")])],
        [(.zuid, "9"), (.noord, "7")], []⟩
      = .ok ⟨[⟨.oost, [⟨1000, 1099, by decide⟩]⟩, ⟨.noord, [⟨1050, 1200, by decide⟩]⟩],
          [(.zuid, "9"), (.noord, "7")], []⟩ := by
    rfl
  refine ⟨_, h, ?_⟩
  obtain ⟨rows, hrows, rfl, -, -, -, hdecides⟩ :=
    overview_complete_and_decisive (s := { tables := _ }) h
  refine ⟨hrows.trans (by rfl), ?_⟩
  obtain ⟨outcome, houtcome, hdecide⟩ :=
    hdecides "1050 ab" none ⟨⟨1050, ⟨0, 1⟩⟩, none⟩ (by rfl)
  rw [houtcome, (hdecide.passNumber _ (by rfl)).mpr rfl]

end WastePass
