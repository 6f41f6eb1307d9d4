import WastePass.Proofs.Requests
import WastePass.Proofs.Reference

/-!
# Extension — what more calls can change in an answer

    Each table is searched from the front, so the entries of later calls are asked only
    where those of earlier calls are silent.  A lookup that was answered keeps its
    district and its pass number, and one that was not can only get as far as before or
    further.
-/

namespace WastePass

/-- What a lookup was answered on these tables, and what it is answered when more calls have
    followed those of the tables.  A pass stays but for its container, and what was missing is
    missing still unless a later call gives it. -/
structure Continues (t : Tables) (more : List Call) (postalCode : String)
    (before after : Outcome) : Prop where
  invalid : ∀ reason, before = .error (.invalid reason) ↔ after = .error (.invalid reason)
  pass : ∀ pass, before = .ok pass → ∃ code hasContainer,
    PostalCode.parse postalCode = .ok code ∧
    after = .ok ⟨pass.district, pass.passNumber, hasContainer⟩ ∧
    ((∃ e ∈ t.exceptions, e.range.contains code = true) → hasContainer = pass.hasContainer) ∧
    ((∀ e ∈ t.exceptions, e.range.contains code = false) → pass.hasContainer = true)
  noPassNumber : before = .error (.notFound .passNumber) → ∃ code d,
    PostalCode.parse postalCode = .ok code ∧ t.districtFor code = some d ∧
    (after = .error (.notFound .passNumber) ∨ ∃ pass, after = .ok pass ∧ pass.district = d)
  noDistrict : before = .error (.notFound .district) → ∃ code,
    PostalCode.parse postalCode = .ok code ∧
    (after = .error (.notFound .district) ∨
      ∃ d bounds, .district d bounds ∈ more ∧
        bounds.any (Reference.within (numeral code.number.text)) = true)

/-! ## The first match among more

    Later calls are asked where earlier calls are silent. -/

namespace Reference

theorem district_append (a b : List Call) (n : Nat) :
    district (a ++ b) n = (district a n).or (district b n) :=
  List.findSome?_append

theorem passNumber_append (a b : List Call) (d : District) :
    passNumber (a ++ b) d = (passNumber a d).or (passNumber b d) :=
  List.findSome?_append

theorem excluded_append (a b : List Call) (n : Nat) :
    excluded (a ++ b) n = (excluded a n).or (excluded b n) :=
  List.findSome?_append

/-- A district is given by a call with bounds around the number. -/
theorem exists_call_of_district {calls : List Call} {n : Nat} {d : District}
    (h : district calls n = some d) :
    ∃ bounds, .district d bounds ∈ calls ∧ bounds.any (within n) = true := by
  obtain ⟨call, hcall, hgives⟩ := List.exists_of_findSome?_eq_some h
  cases call with
  | district e bounds =>
      have hif : (if bounds.any (within n) then some e else none) = some d := hgives
      by_cases hwithin : bounds.any (within n) = true
      · rw [if_pos hwithin, Option.some.injEq] at hif
        subst hif
        exact ⟨bounds, hcall, hwithin⟩
      · rw [if_neg hwithin] at hif
        exact nomatch hif
  | passNumber => exact nomatch hgives
  | containerException => exact nomatch hgives

end Reference

section

variable {a b : List Call} {t u : Tables}

/-- A district that was found is found again, and so is a pass number. -/
theorem districtFor_extended (ht : t.entries = (Draft.listed a).withCapitals)
    (hu : u.entries = (Draft.listed (a ++ b)).withCapitals) (code : PostalCode) :
    u.districtFor code
      = (t.districtFor code).or (Reference.district b (numeral code.number.text)) := by
  rw [districtFor_eq hu, districtFor_eq ht, Reference.district_append]

theorem passNumberFor_extended (ht : t.entries = (Draft.listed a).withCapitals)
    (hu : u.entries = (Draft.listed (a ++ b)).withCapitals) (d : District) :
    u.passNumberFor d = (t.passNumberFor d).or (Reference.passNumber b d) := by
  rw [passNumberFor_eq hu, passNumberFor_eq ht, Reference.passNumber_append]

/-- An exception that was around a code still decides about its container. -/
theorem hasContainer_extended (ht : t.entries = (Draft.listed a).withCapitals)
    (hu : u.entries = (Draft.listed (a ++ b)).withCapitals) {code : PostalCode}
    (h : ∃ e ∈ t.exceptions, e.range.contains code = true) :
    u.hasContainer code = t.hasContainer code := by
  have hexcluded : (Reference.excluded a (numeral code.number.text)).isSome = true := by
    have hfound := congrArg Option.isSome (find?_exceptions_eq ht code)
    rw [Option.isSome_map, Option.isSome_map, List.find?_isSome.mpr h] at hfound
    exact hfound.symm
  obtain ⟨texts, htexts⟩ := Option.isSome_iff_exists.mp hexcluded
  rw [hasContainer_eq hu, hasContainer_eq ht, Reference.hasContainer, Reference.hasContainer,
    Reference.excluded_append, htexts, Option.some_or]

end

/-- Without an exception around its code an address has a container. -/
theorem Tables.hasContainer_of_no_exception {t : Tables} {code : PostalCode}
    (h : ∀ e ∈ t.exceptions, e.range.contains code = false) : t.hasContainer code = true := by
  have hnone : t.exceptions.find? (fun e => e.range.contains code) = none :=
    List.find?_eq_none.mpr fun e he => Bool.eq_false_iff.mp (h e he)
  rw [hasContainer, hnone]

/-! ## Answers -/

/-- A request that can be read is answered on more tables as `Continues` says. -/
theorem continues_resolve {a b : List Call} {t u : Tables}
    (ht : t.entries = (Draft.listed a).withCapitals)
    (hu : u.entries = (Draft.listed (a ++ b)).withCapitals) {postalCode : String}
    {request : Request} (hcode : PostalCode.parse postalCode = .ok request.postalCode) :
    Continues t b postalCode (t.resolve request) (u.resolve request) := by
  have hvalid : ∀ reason, t.resolve request = .error (.invalid reason)
      ↔ u.resolve request = .error (.invalid reason) := fun reason =>
    iff_of_false (t.resolve_ne_invalid request reason) (u.resolve_ne_invalid request reason)
  have hdistrict := districtFor_extended ht hu request.postalCode
  cases hfound : t.districtFor request.postalCode with
  | none =>
      rw [hfound, Option.none_or] at hdistrict
      rw [Tables.resolve_of_no_district hfound] at hvalid ⊢
      refine ⟨hvalid, fun _ h => (nomatch h), fun h => (nomatch h), fun _ => ⟨_, hcode, ?_⟩⟩
      cases hlater : Reference.district b (numeral request.postalCode.number.text) with
      | none => exact .inl (Tables.resolve_of_no_district (hdistrict.trans hlater))
      | some d => exact .inr ⟨d, Reference.exists_call_of_district hlater⟩
  | some d =>
      rw [hfound, Option.some_or] at hdistrict
      have hpass := passNumberFor_extended ht hu d
      cases hnumber : t.passNumberFor d with
      | none =>
          rw [hnumber, Option.none_or] at hpass
          rw [Tables.resolve_of_no_passNumber hfound hnumber] at hvalid ⊢
          refine ⟨hvalid, fun _ h => (nomatch h), fun _ => ⟨_, d, hcode, hfound, ?_⟩,
            fun h => (nomatch h)⟩
          cases hlater : Reference.passNumber b d with
          | none => exact .inl (Tables.resolve_of_no_passNumber hdistrict (hpass.trans hlater))
          | some number =>
              exact .inr ⟨_, Tables.resolve_of_passNumber hdistrict (hpass.trans hlater), rfl⟩
      | some number =>
          rw [hnumber, Option.some_or] at hpass
          rw [Tables.resolve_of_passNumber hfound hnumber] at hvalid ⊢
          refine ⟨hvalid, fun pass h => ?_, fun h => (nomatch h), fun h => (nomatch h)⟩
          cases h
          exact ⟨_, _, hcode, Tables.resolve_of_passNumber hdistrict hpass,
            hasContainer_extended ht hu, Tables.hasContainer_of_no_exception⟩

/-- **More calls never rewrite an answer that was given.**  Where calls and the same calls
    with more behind them are both configurations, every request is answered on the
    tables of all of them as `Continues` allows. -/
theorem extended_calls_continue_answers {a b : List Call} {t u : Tables}
    (ht : Tables.ofCalls a = .ok t) (hu : Tables.ofCalls (a ++ b) = .ok u)
    (postalCode : String) (houseNumber : Option String) :
    Continues t b postalCode (t.lookUp postalCode houseNumber)
      (u.lookUp postalCode houseNumber) := by
  rw [Tables.ofCalls, ofCalls_eq_listed] at ht hu
  have hbefore := ((build_eq_ok_iff _ t).mp ht).2
  have hafter := ((build_eq_ok_iff _ u).mp hu).2
  rw [Tables.lookUp, Tables.lookUp]
  cases hparse : Request.parse postalCode houseNumber with
  | error reason =>
      refine ⟨fun _ => Iff.rfl, ?_, ?_, ?_⟩
      · intro pass h
        cases h
      · intro h
        cases h
      · intro h
        cases h
  | ok request => exact continues_resolve hbefore hafter (Request.code_of_parse hparse)

/-- Later entries lie over all earlier ones: what was missing is added, and a container is
    lost only where no exception was. -/
theorem extended_calls_continue_answers_of_overlap :
    ∃ t, Tables.ofCalls
        [.district .noord [("1020", "1039")], .passNumber .noord "1",
         .district .oost [("1040", "1049")], .containerException ("1020", "1020") ["AB"]]
          = .ok t ∧
      Continues t [.noContainers ("1000", "1100"), .district .zuid [("1000", "1100")],
          .passNumber .oost "2"] "1020 ac" (.ok ⟨.noord, "1", true⟩) (.ok ⟨.noord, "1", true⟩) ∧
      Continues t [.noContainers ("1000", "1100"), .district .zuid [("1000", "1100")],
          .passNumber .oost "2"] "1030 ac" (.ok ⟨.noord, "1", true⟩) (.ok ⟨.noord, "1", false⟩) ∧
      Continues t [.noContainers ("1000", "1100"), .district .zuid [("1000", "1100")],
          .passNumber .oost "2"] "1045 aa" (.error (.notFound .passNumber))
        (.ok ⟨.oost, "2", false⟩) := by
  have ht : Tables.ofCalls
        [.district .noord [("1020", "1039")], .passNumber .noord "1",
         .district .oost [("1040", "1049")], .containerException ("1020", "1020") ["AB"]]
      = .ok ⟨[⟨.noord, [⟨1020, 1039, by decide⟩]⟩, ⟨.oost, [⟨1040, 1049, by decide⟩]⟩],
          [(.noord, "1")], [⟨⟨1020, 1020, by decide⟩, [⟨0, 1⟩]⟩]⟩ := by
    rfl
  have hu : Tables.ofCalls
        ([.district .noord [("1020", "1039")], .passNumber .noord "1",
          .district .oost [("1040", "1049")], .containerException ("1020", "1020") ["AB"]] ++
         [.noContainers ("1000", "1100"), .district .zuid [("1000", "1100")],
          .passNumber .oost "2"])
      = .ok ⟨[⟨.noord, [⟨1020, 1039, by decide⟩]⟩, ⟨.oost, [⟨1040, 1049, by decide⟩]⟩,
            ⟨.zuid, [⟨1000, 1100, by decide⟩]⟩], [(.noord, "1"), (.oost, "2")],
          [⟨⟨1020, 1020, by decide⟩, [⟨0, 1⟩]⟩, ⟨⟨1000, 1100, by decide⟩, []⟩]⟩ := by
    rfl
  refine ⟨_, ht, ?_, ?_, ?_⟩
  · exact extended_calls_continue_answers ht hu "1020 ac" none
  · exact extended_calls_continue_answers ht hu "1030 ac" none
  · exact extended_calls_continue_answers ht hu "1045 aa" (some "12")

end WastePass
