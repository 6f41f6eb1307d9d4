import WastePass.Json.Render
import WastePass.Proofs.Json.Choices
import WastePass.Proofs.Json.Unambiguous

/-!
# Passes — what is written of a pass is read back

    A pass is written as an object of three members, and its text is taken apart into them
    in no other way.  The readers of districts and of pass numbers undo what the writer
    has done to each of them, whatever characters the pass number has, so a pass can be
    told from its text.
-/

namespace WastePass

/-! ## The names of districts in documents -/

namespace District

/-- A district stands at its place in the list. -/
theorem getElem?_all_index (d : District) : all[d.index]? = some d := by
  cases d <;> rfl

theorem mem_all (d : District) : d ∈ all :=
  List.mem_of_getElem? d.getElem?_all_index

/-- Documents use the names that the municipality uses. -/
theorem documentName_eq (d : District) : d.documentName = d.name := by
  cases d <;> rfl

/-- A district has exactly its own name. -/
theorem ofExactName?_eq_some_iff (s : String) (d : District) :
    ofExactName? s = some d ↔ s = d.name := by
  constructor
  · intro h
    unfold ofExactName? at h
    have hname := List.find?_some h
    exact (beq_iff_eq.mp hname).symm
  · rintro rfl
    cases d <;> rfl

/-- Among the names in documents a district is found under exactly its name. -/
theorem lookup_documentName (s : String) :
    (all.map fun d => (d.documentName, d)).lookup s = ofExactName? s := by
  unfold ofExactName?
  induction all with
  | nil => rfl
  | cons d ds ih =>
      rw [List.map_cons, List.lookup_cons, List.find?_cons, documentName_eq, BEq.comm, ih]

end District

namespace Json

/-! ## Texts -/

theorem mem_hexDigits_hexDigit {n : Nat} (hn : n < 16) : (Text.hexDigit n, n) ∈ hexDigits := by
  have hall : ∀ n : Fin 16, (Text.hexDigit n.val, n.val) ∈ hexDigits := by decide
  exact hall ⟨n, hn⟩

/-- A character is written in one of the ways it may be written. -/
theorem charSpelling_renderChar (c : Char) : CharSpelling c (renderChar c) := by
  unfold renderChar
  split
  · exact CharSpelling.short (by decide)
  · exact CharSpelling.short (by decide)
  · exact CharSpelling.short (by decide)
  · exact CharSpelling.short (by decide)
  · exact CharSpelling.short (by decide)
  · exact CharSpelling.short (by decide)
  · exact CharSpelling.short (by decide)
  · next hquote hslash _ _ _ _ _ =>
    by_cases hcontrol : c.toNat < 32
    · rw [if_pos hcontrol]
      have hunit := HexUnit.digits (mem_hexDigits_hexDigit (n := 0) (by decide))
        (mem_hexDigits_hexDigit (n := 0) (by decide))
        (mem_hexDigits_hexDigit (n := c.toNat / 16) (by omega))
        (mem_hexDigits_hexDigit (n := c.toNat % 16) (by omega))
      rw [show 4096 * 0 + 256 * 0 + 16 * (c.toNat / 16) + c.toNat % 16 = c.toNat by omega]
        at hunit
      exact CharSpelling.unit hunit
    · rw [if_neg hcontrol]
      exact CharSpelling.plain hquote hslash (by omega)

theorem textBody_renderChar (cs : List Char) : TextBody cs (cs.flatMap renderChar) := by
  induction cs with
  | nil => exact TextBody.nil
  | cons c cs ih =>
      rw [List.flatMap_cons]
      exact TextBody.cons (charSpelling_renderChar c) ih

theorem textSpelling_renderText (s : String) : TextSpelling s (renderText s).toList := by
  rw [renderText, String.toList_ofList]
  exact TextSpelling.quoted (textBody_renderChar s.toList)

/-- The name of a member between its quotes. -/
theorem textSpelling_plain {s : String}
    (h : s.toList.all fun c => c != '"' && c != '\\' && 32 ≤ c.toNat) :
    TextSpelling s ('"' :: (s.toList ++ ['"'])) :=
  TextSpelling.quoted (TextBody.of_plain h)

theorem value_renderBool (b : Bool) : Value (renderBool b).toList := by
  cases b
  · exact WellFormed.no
  · exact WellFormed.yes

theorem renderBool_injective : Function.Injective renderBool := by
  intro a b
  cases a <;> cases b <;> decide

/-! ## The object -/

/-- The members of a pass in their order. -/
def passMembers (p : Pass) : List (String × List Char) :=
  [("district", (renderText p.district.documentName).toList),
   ("pass_number", (renderText p.passNumber).toList),
   ("has_container", (renderBool p.hasContainer).toList)]

theorem value_of_mem_passMembers {p : Pass} : ∀ m ∈ passMembers p, Value m.2 := by
  simp only [passMembers, List.forall_mem_cons]
  exact ⟨(textSpelling_renderText p.district.documentName).value,
    (textSpelling_renderText p.passNumber).value, value_renderBool p.hasContainer,
    fun m hm => nomatch hm⟩

/-- A pass is written as the object of its members. -/
theorem objectSpelling_renderPass (p : Pass) :
    ObjectSpelling (passMembers p) (renderPass p).toList := by
  have member : ∀ (name : String) (value : List Char),
      (name.toList.all fun c => c != '"' && c != '\\' && 32 ≤ c.toNat) →
      MemberSpelling (name, value)
        ('"' :: (name.toList ++ ['"']) ++ ([] ++ ':' :: ([] ++ value))) :=
    fun name value hname =>
      MemberSpelling.keyed (textSpelling_plain hname) Spaces.nil Spaces.nil
  have hitems := Enclosed.items (e := .object)
    (Items.more Spaces.nil
      (member "district" (renderText p.district.documentName).toList (by decide)) Spaces.nil
    (Items.more Spaces.nil
      (member "pass_number" (renderText p.passNumber).toList (by decide)) Spaces.nil
    (Items.last Spaces.nil
      (member "has_container" (renderBool p.hasContainer).toList (by decide)) Spaces.nil)))
  refine (congrArg (ObjectSpelling (passMembers p)) ?_).mp hitems
  unfold renderPass
  simp only [String.toList_append, String.reduceToList, List.append_assoc, List.nil_append,
    List.cons_append, Enclosure.opening, Enclosure.closing]

/-- The text of a pass is taken apart into its members, and into nothing else. -/
theorem objectSpelling_renderPass_iff (p : Pass) (members : List (String × List Char)) :
    (ObjectSpelling members (renderPass p).toList ∧ ∀ m ∈ members, Value m.2) ↔
      members = passMembers p := by
  constructor
  · rintro ⟨hmembers, hvalues⟩
    exact members_eq (objectSpelling_renderPass p) value_of_mem_passMembers hmembers hvalues
  · rintro rfl
    exact ⟨objectSpelling_renderPass p, value_of_mem_passMembers⟩

theorem value_renderPass (p : Pass) : Value (renderPass p).toList :=
  (objectSpelling_renderPass p).value fun m hm _ hcs =>
    hcs.wellFormed (value_of_mem_passMembers m hm)

/-! ## Reading back -/

theorem run_readPassNumber (s : String) :
    readPassNumber.run (renderText s) = .ok s :=
  Reader.run_eq_ok_of_alone (Alone.self (textSpelling_renderText s)) fun h => Reader.reads_text h

theorem run_readDistrict_iff {s text : String} (h : Alone (TextSpelling s) text)
    (d : District) : readDistrict.run text = .ok d ↔ s = d.documentName := by
  rw [readDistrict, Reader.run_choice_iff _ h, District.lookup_documentName,
    District.ofExactName?_eq_some_iff, District.documentName_eq]

theorem run_readDistrict (d : District) :
    readDistrict.run (renderText d.documentName) = .ok d :=
  (run_readDistrict_iff (Alone.self (textSpelling_renderText d.documentName)) d).mpr rfl

/-- What is kept of passes and pass numbers when they are written.  A pass becomes an object
    of just three members in this order, from which its parts are read back. -/
structure ReadBack (p other : Pass) (s : String) : Prop where
  value : Value (renderPass p).toList
  members : ∃ district number container : String,
    (∀ members, ObjectSpelling members (renderPass p).toList ∧ (∀ m ∈ members, Value m.2) ↔
      members = [("district", district.toList), ("pass_number", number.toList),
        ("has_container", container.toList)]) ∧
    readDistrict.run district = .ok p.district ∧
    readPassNumber.run number = .ok p.passNumber ∧
    container = if p.hasContainer then "true" else "false"
  injective : renderPass p = renderPass other → p = other
  passNumber : readPassNumber.run (renderText s) = .ok s

/-- **What is written is read back**: the parts of any pass, and any pass number. -/
theorem written_read_back (p other : Pass) (s : String) : ReadBack p other s := by
  refine
    { value := value_renderPass p, members := ?_, injective := ?_,
      passNumber := run_readPassNumber s }
  · exact ⟨_, _, _, objectSpelling_renderPass_iff p, run_readDistrict p.district,
      run_readPassNumber p.passNumber, rfl⟩
  · intro h
    -- One text has one list of members, and each member gives back its part.
    have hmembers : passMembers p = passMembers other := by
      rw [← objectSpelling_renderPass_iff other, ← h]
      exact ⟨objectSpelling_renderPass p, value_of_mem_passMembers⟩
    simp only [passMembers, List.cons.injEq, Prod.mk.injEq, true_and, and_true,
      String.toList_inj] at hmembers
    obtain ⟨hdistrict, hnumber, hcontainer⟩ := hmembers
    have hd : p.district = other.district := by
      have hread := run_readDistrict p.district
      rw [hdistrict, run_readDistrict] at hread
      exact (Except.ok.inj hread).symm
    have hn : p.passNumber = other.passNumber := by
      have hread := run_readPassNumber p.passNumber
      rw [hnumber, run_readPassNumber] at hread
      exact (Except.ok.inj hread).symm
    have hc : p.hasContainer = other.hasContainer := renderBool_injective hcontainer
    calc p = ⟨p.district, p.passNumber, p.hasContainer⟩ := rfl
      _ = ⟨other.district, other.passNumber, other.hasContainer⟩ := by rw [hd, hn, hc]
      _ = other := rfl

end Json

end WastePass
