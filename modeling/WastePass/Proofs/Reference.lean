import WastePass.Proofs.Consistency
import WastePass.Service

/-!
# The reference — what a lookup answers, told from the calls alone

    `Reference.lookUp` never builds tables.  It goes through the calls in their order
    and compares numbers: the first district whose bounds hold the number, the pass
    number of that district, the first exception whose bounds hold the number.  A
    service on the tables of the calls gives the same answer to every request.
-/

namespace WastePass

namespace Reference

/-- The number lies between the numbers that the bounds say. -/
def within (n : Nat) (bounds : String × String) : Bool :=
  numeral bounds.1 ≤ n && n ≤ numeral bounds.2

/-- The district of the first call with bounds around the number. -/
def district (calls : List Call) (n : Nat) : Option District :=
  calls.findSome? fun
    | .district d bounds => if bounds.any (within n) then some d else none
    | _ => none

/-- The pass number that the calls give to a district. -/
def passNumber (calls : List Call) (d : District) : Option String :=
  calls.findSome? fun
    | .passNumber e number => if e = d then some number else none
    | _ => none

/-- The letters of the first exception with bounds around the number. -/
def excluded (calls : List Call) (n : Nat) : Option (List String) :=
  calls.findSome? fun
    | .containerException bounds letters => if within n bounds then some letters else none
    | _ => none

/-- There is a container unless that exception lists no letters, or these in some case. -/
def hasContainer (calls : List Call) (n : Nat) (letters : String) : Bool :=
  match excluded calls n with
  | none => true
  | some texts =>
      !texts.isEmpty &&
        !texts.any fun text => District.sameUpToCase text.toList letters.toList

/-- The answer to a postal code. -/
def resolve (calls : List Call) (code : PostalCode) : Outcome :=
  match district calls (numeral code.number.text) with
  | none => .error (.notFound .district)
  | some d =>
    match passNumber calls d with
    | none => .error (.notFound .passNumber)
    | some number =>
        .ok ⟨d, number, hasContainer calls (numeral code.number.text) code.letters.text⟩

/-- The answer to the texts of a request. -/
def lookUp (calls : List Call) (postalCode : String) (houseNumber : Option String) : Outcome :=
  match Request.parse postalCode houseNumber with
  | .error reason => .error (.invalid reason)
  | .ok request => resolve calls request.postalCode

end Reference

/-! ## First matches -/

/-- The first match among kept elements, found among all elements. -/
theorem find?_filterMap_map {α β γ : Type} (f : α → Option β) (q : β → Bool) (g : β → γ)
    (l : List α) :
    ((l.filterMap f).find? q).map g
      = l.findSome? fun a => (f a).bind fun b => if q b then some (g b) else none := by
  induction l with
  | nil => rfl
  | cons a l ih =>
      rw [List.findSome?_cons]
      cases hf : f a with
      | none =>
          rw [List.filterMap_cons_none hf, ih]
          rfl
      | some b =>
          rw [List.filterMap_cons_some hf]
          by_cases hq : q b = true
          · rw [List.find?_cons_of_pos hq, Option.bind_some, if_pos hq]
            rfl
          · rw [List.find?_cons_of_neg hq, Option.bind_some, if_neg hq, ih]

/-- The district of a number, among the entries that calls add. -/
theorem Reference.district_eq (calls : List Call) (n : Nat) :
    district calls n
      = ((calls.filterMap Call.rangeEntry?).find? fun e => e.2.any (within n)).map (·.1) := by
  rw [find?_filterMap_map, district]
  congr 1
  funext call
  cases call <;> rfl

/-- The pass number of a district, among the entries that calls add. -/
theorem Reference.passNumber_eq (calls : List Call) (d : District) :
    passNumber calls d
      = ((calls.filterMap Call.passEntry?).find? fun e => e.1 = d).map (·.2) := by
  rw [find?_filterMap_map, passNumber]
  congr 1
  funext call
  cases call with
  | passNumber e number => simp [Call.passEntry?]
  | district => rfl
  | containerException => rfl

/-- The letters excluded around a number, among the entries that calls add. -/
theorem Reference.excluded_eq (calls : List Call) (n : Nat) :
    excluded calls n
      = ((calls.filterMap Call.exceptionEntry?).find? fun e => within n e.1).map (·.2) := by
  rw [find?_filterMap_map, excluded]
  congr 1
  funext call
  cases call <;> rfl

/-- A range contains a code when its bounds, as numbers, hold the number of the code. -/
theorem contains_eq_within (r : Range) (code : PostalCode) :
    r.contains code = Reference.within (numeral code.number.text) r.bounds := by
  rw [Bool.eq_iff_iff, Reference.within, Bool.and_eq_true, decide_eq_true_eq, decide_eq_true_eq]
  -- The texts are compared, and being of four digits each they are ordered as numbers are.
  exact (r.covers_iff_text code.number).trans
    (and_congr (PostalNumber.text_le_text_iff ..) (PostalNumber.text_le_text_iff ..))

section

variable {calls : List Call} {t : Tables}

/-- The district of a code is that of the first call around its number. -/
theorem districtFor_eq (h : t.entries = (Draft.listed calls).withCapitals)
    (code : PostalCode) :
    t.districtFor code = Reference.district calls (numeral code.number.text) := by
  have hrows : t.districts.map (fun e => (e.district, e.ranges.map Range.bounds))
      = calls.filterMap Call.rangeEntry? := congrArg Draft.districts h
  -- The test of an entry needs no more than the texts it was built from.
  have htest : (fun e : DistrictRanges => e.ranges.any (·.contains code))
      = (fun row : District × List (String × String) =>
          row.2.any (Reference.within (numeral code.number.text)))
        ∘ fun e : DistrictRanges => (e.district, e.ranges.map Range.bounds) := by
    funext e
    show e.ranges.any (·.contains code)
      = (e.ranges.map Range.bounds).any (Reference.within (numeral code.number.text))
    rw [List.any_map]
    exact List.any_congr rfl fun r => contains_eq_within r code
  calc t.districtFor code
      = ((t.districts.map fun e => (e.district, e.ranges.map Range.bounds)).find?
          fun row => row.2.any (Reference.within (numeral code.number.text))).map (·.1) := by
        rw [List.find?_map, Option.map_map, Tables.districtFor, htest]
        rfl
    _ = Reference.district calls (numeral code.number.text) := by
        rw [hrows, Reference.district_eq]

/-- The pass number of a district is the one a call gives it. -/
theorem passNumberFor_eq (h : t.entries = (Draft.listed calls).withCapitals) (d : District) :
    t.passNumberFor d = Reference.passNumber calls d := by
  have hrows : t.passNumbers = calls.filterMap Call.passEntry? := congrArg Draft.passNumbers h
  rw [Tables.passNumberFor, hrows, Reference.passNumber_eq]

/-- Letters stand among others when some text of the others is theirs in some case. -/
theorem contains_map_capitals (letters : Letters) (texts : List String) :
    (texts.map capitals).contains letters.text
      = texts.any fun text => District.sameUpToCase text.toList letters.text.toList := by
  rw [List.contains_eq_any_beq, List.any_map]
  refine List.any_congr rfl fun text => ?_
  rw [Bool.eq_iff_iff, sameUpToCase_iff, Function.comp, beq_iff_eq]
  -- The letters of a code are capitals already, so only the other side changes.
  have hown : (letters.text.toList.map Char.toUpper) = letters.text.toList := by
    rw [← String.toList_ofList (l := letters.text.toList.map Char.toUpper)]
    exact congrArg String.toList letters.capitals_text
  rw [hown, ← String.toList_inj, capitals, String.toList_ofList]
  exact eq_comm

/-- The first exception of the tables around a number is that of the calls. -/
theorem find?_exceptions_eq (h : t.entries = (Draft.listed calls).withCapitals)
    (code : PostalCode) :
    (t.exceptions.find? fun e => e.range.contains code).map
        (fun e => e.letters.map Letters.text)
      = (Reference.excluded calls (numeral code.number.text)).map (List.map capitals) := by
  have hrows : t.exceptions.map (fun e => (e.range.bounds, e.letters.map Letters.text))
      = (calls.filterMap Call.exceptionEntry?).map fun e => (e.1, e.2.map capitals) :=
    congrArg Draft.exceptions h
  have hfound := congrArg (fun rows => (List.find?
    (fun row => Reference.within (numeral code.number.text) row.1) rows).map (·.2)) hrows
  simp only [List.find?_map, Option.map_map, Function.comp_def] at hfound
  simp only [contains_eq_within]
  rw [hfound, Reference.excluded_eq, Option.map_map]
  rfl

/-- An address has a container as the first exception around its number says. -/
theorem hasContainer_eq (h : t.entries = (Draft.listed calls).withCapitals)
    (code : PostalCode) :
    t.hasContainer code
      = Reference.hasContainer calls (numeral code.number.text) code.letters.text := by
  have hfound := find?_exceptions_eq h code
  unfold Tables.hasContainer Reference.hasContainer
  cases hexcluded : Reference.excluded calls (numeral code.number.text) with
  | none =>
      rw [hexcluded, Option.map_none, Option.map_eq_none_iff] at hfound
      rw [hfound]
  | some texts =>
      rw [hexcluded, Option.map_some, Option.map_eq_some_iff] at hfound
      obtain ⟨e, he, hletters⟩ := hfound
      rw [he]
      show (!e.letters.isEmpty && !e.letters.contains code.letters) = _
      -- An empty list excludes all letters, any other those it lists.
      have hempty : e.letters.isEmpty = texts.isEmpty := by
        rw [← List.isEmpty_map (f := Letters.text), hletters, List.isEmpty_map]
      have hcontains : e.letters.contains code.letters
          = texts.any fun text =>
              District.sameUpToCase text.toList code.letters.text.toList := by
        rw [← contains_map_capitals, ← hletters, List.contains_eq_any_beq,
          List.contains_eq_any_beq, List.any_map]
        refine List.any_congr rfl fun l => ?_
        rw [Bool.eq_iff_iff, beq_iff_eq, Function.comp, beq_iff_eq]
        exact ⟨congrArg Letters.text, Letters.text_injective⟩
      rw [hempty, hcontains]

/-- Where no district is listed twice, the first entry of a district is its only one. -/
theorem find?_eq_some_of_nodup {entries : List (District × String)}
    (hnodup : (entries.map (·.1)).Nodup) {d : District} {number : String}
    (hmem : (d, number) ∈ entries) :
    entries.find? (fun e => e.1 = d) = some (d, number) := by
  induction entries with
  | nil => exact nomatch hmem
  | cons e rest ih =>
      rw [List.map_cons, List.nodup_cons] at hnodup
      rcases List.mem_cons.mp hmem with heq | hrest
      · rw [List.find?_cons_of_pos (by simp [← heq]), ← heq]
      · have hne : ¬ decide (e.1 = d) = true := by
          rw [decide_eq_true_eq]
          rintro rfl
          exact hnodup.1 (List.mem_map.mpr ⟨_, hrest, rfl⟩)
        rw [List.find?_cons_of_neg (p := fun e : District × String => decide (e.1 = d)) hne]
        exact ih hnodup.2 hrest

/-- In a consistent configuration a call is the only one that gives its district a pass
    number. -/
theorem passNumber_eq_some_iff (h : (Draft.listed calls).Consistent) (d : District)
    (number : String) :
    Reference.passNumber calls d = some number ↔ .passNumber d number ∈ calls := by
  constructor
  · intro hfound
    obtain ⟨call, hcall, hgives⟩ := List.exists_of_findSome?_eq_some hfound
    cases call with
    | passNumber e text =>
        have hif : (if e = d then some text else none) = some number := hgives
        by_cases hed : e = d
        · rw [if_pos hed, Option.some.injEq] at hif
          rw [← hed, ← hif]
          exact hcall
        · rw [if_neg hed] at hif
          exact nomatch hif
    | district => exact nomatch hgives
    | containerException => exact nomatch hgives
  · intro hcall
    have hmem : (d, number) ∈ calls.filterMap Call.passEntry? :=
      List.mem_filterMap.mpr ⟨_, hcall, rfl⟩
    have hnodup : ((calls.filterMap Call.passEntry?).map (·.1)).Nodup := h.passNumbers_nodup
    rw [Reference.passNumber_eq, find?_eq_some_of_nodup hnodup hmem]
    rfl

/-- A request is answered as the calls say. -/
theorem lookUp_eq (h : t.entries = (Draft.listed calls).withCapitals) (postalCode : String)
    (houseNumber : Option String) :
    t.lookUp postalCode houseNumber = Reference.lookUp calls postalCode houseNumber := by
  unfold Tables.lookUp Reference.lookUp
  cases Request.parse postalCode houseNumber with
  | error reason => rfl
  | ok request =>
      show t.resolve request = Reference.resolve calls request.postalCode
      unfold Tables.resolve Reference.resolve
      rw [districtFor_eq h, hasContainer_eq h]
      cases Reference.district calls (numeral request.postalCode.number.text) with
      | none => rfl
      | some d =>
          show (match t.passNumberFor d with
            | none => _
            | some number => _) = _
          rw [passNumberFor_eq h]

end

/-- **A lookup answers as the calls say.**  A service on the tables of some calls gives to
    every request the answer of the reference, and the pass number that the reference
    takes is the only one the calls give to the district. -/
theorem lookUp_eq_reference {calls : List Call} {t : Tables} (h : Tables.ofCalls calls = .ok t)
    (postalCode : String) (houseNumber : Option String) :
    Service.answer { tables := t } (.lookUp postalCode houseNumber)
        = .outcome (Reference.lookUp calls postalCode houseNumber) ∧
      ∀ d number, Reference.passNumber calls d = some number ↔ .passNumber d number ∈ calls := by
  rw [Tables.ofCalls, ofCalls_eq_listed] at h
  obtain ⟨hconsistent, hentries⟩ := (build_eq_ok_iff _ t).mp h
  exact ⟨congrArg Service.Answer.outcome (lookUp_eq hentries postalCode houseNumber),
    passNumber_eq_some_iff hconsistent⟩

/-- Ranges that overlap, zeros in front and letters in either case: the first range and
    the first exception around the number decide. -/
theorem lookUp_eq_reference_of_overlap :
    ∃ t, Tables.ofCalls
        [.passNumber .noord "80706D8A3F8604",
         .containerException ("0400", "0999") ["xy", "aB"],
         .district .noord [("0100", "0600"), ("2000", "2000")],
         .noContainers ("0000", "9999"),
         .district .zuid [("0500", "1003")]] = .ok t ∧
      Service.answer { tables := t } (.lookUp " 0500\tAb" (some "12"))
        = .outcome (.ok ⟨.noord, "80706D8A3F8604", false⟩) ∧
      Service.answer { tables := t } (.lookUp "0500 ac" none)
        = .outcome (.ok ⟨.noord, "80706D8A3F8604", true⟩) ∧
      Service.answer { tables := t } (.lookUp "0999 AB" none)
        = .outcome (.error (.notFound .passNumber)) := by
  have h : Tables.ofCalls
        [.passNumber .noord "80706D8A3F8604",
         .containerException ("0400", "0999") ["xy", "aB"],
         .district .noord [("0100", "0600"), ("2000", "2000")],
         .noContainers ("0000", "9999"),
         .district .zuid [("0500", "1003")]]
      = .ok ⟨[⟨.noord, [⟨100, 600, by decide⟩, ⟨2000, 2000, by decide⟩]⟩,
          ⟨.zuid, [⟨500, 1003, by decide⟩]⟩], [(.noord, "80706D8A3F8604")],
          [⟨⟨400, 999, by decide⟩, [⟨23, 24⟩, ⟨0, 1⟩]⟩, ⟨⟨0, 9999, by decide⟩, []⟩]⟩ := by
    rfl
  refine ⟨_, h, ?_, ?_, ?_⟩
  · exact (lookUp_eq_reference h " 0500\tAb" (some "12")).1.trans (by rfl)
  · exact (lookUp_eq_reference h "0500 ac" none).1.trans (by rfl)
  · exact (lookUp_eq_reference h "0999 AB" none).1.trans (by rfl)

end WastePass
