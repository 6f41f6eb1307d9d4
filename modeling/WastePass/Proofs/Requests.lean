import WastePass.Proofs.PostalText
import WastePass.Service

/-!
# Requests — what an answer cannot depend on

    A request is read before any table is asked, the postal code first, so the tables
    have no say in what is malformed.  A house number that can be read is dropped before
    the tables are asked, so it has no say in the answer, and neither has the way a
    postal code is written: the text it is shown as asks for the same.
-/

namespace WastePass

/-! ## The text of a code -/

theorem Letters.toList_text (l : Letters) : l.text.toList = l.chars :=
  String.toList_ofList

namespace PostalCode

/-- The text of a code has one blank, between its digits and its letters. -/
theorem toList_text (code : PostalCode) :
    code.text.toList = code.number.chars ++ ' ' :: code.letters.chars := by
  show (code.number.text ++ " " ++ code.letters.text).toList = _
  rw [String.toList_append, String.toList_append, PostalNumber.toList_text,
    Letters.toList_text, List.append_assoc]
  rfl

theorem length_text (code : PostalCode) : code.text.toList.length = 7 := by
  rw [toList_text]
  rfl

theorem withoutBlanks_text (code : PostalCode) :
    Text.withoutBlanks code.text = code.number.chars ++ code.letters.chars := by
  have hdigit : ∀ d : Fin 10, Text.isBlank (PostalNumber.digitChar d) = false := by decide
  have hcapital : ∀ i : Fin 26, Text.isBlank (Letters.capital i) = false := by decide
  have hspace : Text.isBlank ' ' = true := by decide
  show code.text.toList.filter (fun c => !Text.isBlank c) = _
  rw [toList_text]
  simp [PostalNumber.chars, Letters.chars, hdigit, hcapital, hspace]

/-- Reading the text of a code gives the code back. -/
theorem parse_text (code : PostalCode) : parse code.text = .ok code := by
  have hnumber := PostalNumber.ofChars?_chars code.number
  have hletters := Letters.ofChars?_text code.letters
  rw [PostalNumber.chars] at hnumber
  rw [Letters.toList_text, Letters.chars] at hletters
  -- Without its blank the text is four characters for the number and two for the letters.
  simp only [parse, withoutBlanks_text, PostalNumber.chars, Letters.chars, List.cons_append,
    List.nil_append, hnumber, hletters]

theorem text_injective : Function.Injective text := by
  intro code other h
  have hread : (Except.ok code : Except ValidationError PostalCode) = .ok other := by
    rw [← parse_text code, h, parse_text other]
  exact Except.ok.inj hread

/-- What is wrong with a postal code is never the house number. -/
theorem field_of_parse {raw : String} {reason : ValidationError}
    (h : parse raw = .error reason) : reason.field = "postal_code" := by
  rw [parse] at h
  split at h
  · cases h
    rfl
  · split at h
    · cases h
      rfl
    · split at h
      · cases h
        rfl
      · exact nomatch h
  · cases h
    rfl

end PostalCode

/-! ## What can be read -/

/-- No house number, or one digit or more and nothing else. -/
def ProperNumber (houseNumber : Option String) : Prop :=
  ∀ text ∈ houseNumber, text ≠ "" ∧ ∀ c ∈ text.toList, '0' ≤ c ∧ c ≤ '9'

theorem isDigit_iff (c : Char) : c.isDigit = true ↔ '0' ≤ c ∧ c ≤ '9' := by
  simp [Char.isDigit, Char.le_def]

/-- A house number is read when it is proper. -/
theorem HouseNumber.parse_eq_ok_iff (raw : String) :
    (∃ number, parse raw = .ok number) ↔ ProperNumber (some raw) := by
  have hproper : ProperNumber (some raw) ↔ raw ≠ "" ∧ raw.toList.all Char.isDigit = true := by
    show (∀ text, some raw = some text → _) ↔ _
    simp only [Option.some.injEq, forall_eq', List.all_eq_true, isDigit_iff]
  rw [hproper]
  constructor
  · rintro ⟨number, h⟩
    by_contra hnot
    rw [parse, dif_neg hnot] at h
    exact nomatch h
  · intro h
    exact ⟨⟨raw, h⟩, dif_pos h⟩

namespace Request

/-- A postal code that cannot be read is what is wrong with the request. -/
theorem parse_of_code_error {postalCode : String} {reason : ValidationError}
    (h : PostalCode.parse postalCode = .error reason) (houseNumber : Option String) :
    parse postalCode houseNumber = .error reason := by
  rw [parse, h]
  rfl

/-- Behind a postal code that can be read, an improper house number is what is wrong. -/
theorem parse_of_improper {postalCode : String} {code : PostalCode}
    (h : PostalCode.parse postalCode = .ok code) {houseNumber : Option String}
    (hnumber : ¬ ProperNumber houseNumber) :
    parse postalCode houseNumber = .error .houseNumber := by
  cases houseNumber with
  | none => exact absurd (fun text htext => nomatch htext) hnumber
  | some raw =>
      have hparse : HouseNumber.parse raw = .error .houseNumber := by
        refine dif_neg fun hread => hnumber ?_
        exact (HouseNumber.parse_eq_ok_iff raw).mp ⟨⟨raw, hread⟩, dif_pos hread⟩
      rw [parse, h]
      show (HouseNumber.parse raw >>= fun number => _) = _
      rw [hparse]
      rfl

/-- A proper house number completes a postal code that can be read. -/
theorem parse_of_proper {postalCode : String} {code : PostalCode}
    (h : PostalCode.parse postalCode = .ok code) {houseNumber : Option String}
    (hnumber : ProperNumber houseNumber) :
    ∃ number, parse postalCode houseNumber = .ok ⟨code, number⟩ := by
  rw [parse, h]
  cases houseNumber with
  | none => exact ⟨none, rfl⟩
  | some raw =>
      obtain ⟨number, hread⟩ := (HouseNumber.parse_eq_ok_iff raw).mpr hnumber
      refine ⟨some number, ?_⟩
      show (HouseNumber.parse raw >>= fun number => _) = _
      rw [hread]
      rfl

/-- The postal code of a request is read from its own text. -/
theorem code_of_parse {postalCode : String} {houseNumber : Option String} {request : Request}
    (h : parse postalCode houseNumber = .ok request) :
    PostalCode.parse postalCode = .ok request.postalCode := by
  cases hcode : PostalCode.parse postalCode with
  | error reason => exact nomatch (parse_of_code_error hcode houseNumber).symm.trans h
  | ok code =>
      by_cases hnumber : ProperNumber houseNumber
      · obtain ⟨number, hparse⟩ := parse_of_proper hcode hnumber
        rw [Except.ok.inj (h.symm.trans hparse)]
      · exact nomatch (parse_of_improper hcode hnumber).symm.trans h

end Request

/-! ## What is answered -/

namespace Tables

theorem resolve_of_no_district {t : Tables} {request : Request}
    (h : t.districtFor request.postalCode = none) :
    t.resolve request = .error (.notFound .district) := by
  rw [resolve, h]

theorem resolve_of_no_passNumber {t : Tables} {request : Request} {d : District}
    (h : t.districtFor request.postalCode = some d) (hnumber : t.passNumberFor d = none) :
    t.resolve request = .error (.notFound .passNumber) := by
  rw [resolve, h]
  simp only [hnumber]

theorem resolve_of_passNumber {t : Tables} {request : Request} {d : District} {number : String}
    (h : t.districtFor request.postalCode = some d) (hnumber : t.passNumberFor d = some number) :
    t.resolve request = .ok ⟨d, number, t.hasContainer request.postalCode⟩ := by
  rw [resolve, h]
  simp only [hnumber]

/-- The tables never call a request malformed. -/
theorem resolve_ne_invalid (t : Tables) (request : Request) (reason : ValidationError) :
    t.resolve request ≠ .error (.invalid reason) := by
  intro h
  cases hdistrict : t.districtFor request.postalCode with
  | none => exact nomatch (resolve_of_no_district hdistrict).symm.trans h
  | some d =>
      cases hnumber : t.passNumberFor d with
      | none => exact nomatch (resolve_of_no_passNumber hdistrict hnumber).symm.trans h
      | some number => exact nomatch (resolve_of_passNumber hdistrict hnumber).symm.trans h

/-- A lookup is refused for what is wrong with its request, and for nothing else. -/
theorem lookUp_eq_invalid_iff (t : Tables) (postalCode : String) (houseNumber : Option String)
    (reason : ValidationError) :
    t.lookUp postalCode houseNumber = .error (.invalid reason)
      ↔ Request.parse postalCode houseNumber = .error reason := by
  rw [lookUp]
  cases Request.parse postalCode houseNumber with
  | error e =>
      show Except.error (LookupError.invalid e) = .error (.invalid reason) ↔ _
      rw [Except.error.injEq, LookupError.invalid.injEq, Except.error.injEq]
  | ok request =>
      exact ⟨fun h => absurd h (t.resolve_ne_invalid request reason), fun h => nomatch h⟩

/-- A postal code and a proper house number are answered by what the tables say of the
    code. -/
theorem lookUp_of_proper (t : Tables) {postalCode : String} {code : PostalCode}
    (h : PostalCode.parse postalCode = .ok code) {houseNumber : Option String}
    (hnumber : ProperNumber houseNumber) :
    t.lookUp postalCode houseNumber = t.resolve ⟨code, none⟩ := by
  obtain ⟨number, hparse⟩ := Request.parse_of_proper h hnumber
  rw [lookUp, hparse]
  rfl

end Tables

/-- What two services say to the same postal code, and one to different house numbers.  What
    is wrong with the postal code comes first, and one proper house number is as good as
    another or none. -/
structure Service.Independent (s other : Service) (postalCode : String) : Prop where
  validation : ∀ houseNumber reason,
    s.answer (.lookUp postalCode houseNumber) = .outcome (.error (.invalid reason)) ↔
      other.answer (.lookUp postalCode houseNumber) = .outcome (.error (.invalid reason))
  codeFirst : ∀ reason, PostalCode.parse postalCode = .error reason →
    reason.field = "postal_code" ∧ ∀ houseNumber,
      s.answer (.lookUp postalCode houseNumber) = .outcome (.error (.invalid reason))
  houseNumber : ∀ code, PostalCode.parse postalCode = .ok code → ∀ raw : String,
    (raw = "" ∨ ∃ c ∈ raw.toList, ¬ ('0' ≤ c ∧ c ≤ '9')) →
      s.answer (.lookUp postalCode (some raw)) = .outcome (.error (.invalid .houseNumber))
  answer : ∀ first second, ProperNumber first → ProperNumber second →
    s.answer (.lookUp postalCode first) = s.answer (.lookUp postalCode second)
  shown : ∀ code, PostalCode.parse postalCode = .ok code →
    ∀ houseNumber, ProperNumber houseNumber →
      s.answer (.lookUp postalCode houseNumber) = s.answer (.lookUp code.text none)

/-- **What is malformed does not depend on the tables, and the answer does not depend on the
    house number**, for any two services and any texts. -/
theorem Service.refusals_and_answers_independent (s other : Service) (postalCode : String) :
    Independent s other postalCode := by
  have hrefused : ∀ (s : Service) houseNumber reason,
      s.answer (.lookUp postalCode houseNumber) = .outcome (.error (.invalid reason))
        ↔ Request.parse postalCode houseNumber = .error reason := by
    intro s houseNumber reason
    rw [← s.tables.lookUp_eq_invalid_iff]
    exact ⟨fun h => Answer.outcome.inj h, fun h => congrArg Answer.outcome h⟩
  have hshown : ∀ code, PostalCode.parse postalCode = .ok code →
      ∀ houseNumber, ProperNumber houseNumber →
        s.answer (.lookUp postalCode houseNumber) = s.answer (.lookUp code.text none) := by
    intro code hcode houseNumber hnumber
    have hnone : ProperNumber none := fun text htext => nomatch htext
    refine congrArg Answer.outcome ?_
    rw [s.tables.lookUp_of_proper hcode hnumber,
      s.tables.lookUp_of_proper (PostalCode.parse_text code) hnone]
  refine
    { validation := ?_, codeFirst := ?_, houseNumber := ?_, answer := ?_, shown := hshown }
  · intro houseNumber reason
    exact (hrefused s houseNumber reason).trans (hrefused other houseNumber reason).symm
  · intro reason hcode
    refine ⟨PostalCode.field_of_parse hcode, fun houseNumber => ?_⟩
    exact (hrefused s houseNumber reason).mpr (Request.parse_of_code_error hcode houseNumber)
  · intro code hcode raw hraw
    refine (hrefused s (some raw) .houseNumber).mpr (Request.parse_of_improper hcode ?_)
    intro hproper
    obtain ⟨hne, hdigits⟩ := hproper raw rfl
    rcases hraw with hempty | ⟨c, hc, hother⟩
    · exact hne hempty
    · exact hother (hdigits c hc)
  · intro first second hfirst hsecond
    cases hcode : PostalCode.parse postalCode with
    | error reason =>
        have hparse := Request.parse_of_code_error hcode
        rw [(hrefused s first reason).mpr (hparse first),
          (hrefused s second reason).mpr (hparse second)]
    | ok code => rw [hshown code hcode first hfirst, hshown code hcode second hsecond]

/-- A code outside all tables: a padded house number is refused, digits and none are not, and
    two faults in one request give that of the postal code. -/
theorem Service.refusals_and_answers_independent_of_uncovered :
    let s : Service := { tables := ⟨[], [], []⟩ }
    let other : Service := { tables := ⟨[], [(.oost, "7")], []⟩ }
    s.answer (.lookUp " 9999\tzz" (some " 12")) = .outcome (.error (.invalid .houseNumber)) ∧
      other.answer (.lookUp "1234 ä" (some "x")) = .outcome (.error (.invalid .postalCodeLength)) ∧
      s.answer (.lookUp " 9999\tzz" (some "0012")) = s.answer (.lookUp "9999 ZZ" none) := by
  intro s other
  have hcode : PostalCode.parse " 9999\tzz" = .ok ⟨9999, ⟨25, 25⟩⟩ := by rfl
  have hindependent := refusals_and_answers_independent s other " 9999\tzz"
  refine ⟨hindependent.houseNumber _ hcode " 12" ?_, ?_, ?_⟩
  · exact .inr ⟨' ', by decide, by decide⟩
  · exact ((refusals_and_answers_independent other s "1234 ä").codeFirst _ (by rfl)).2 (some "x")
  · refine hindependent.shown _ hcode (some "0012") ?_
    exact (HouseNumber.parse_eq_ok_iff "0012").mp ⟨⟨"0012", by decide⟩, by rfl⟩

end WastePass
