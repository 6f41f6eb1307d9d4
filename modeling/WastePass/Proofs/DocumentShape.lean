import WastePass.Proofs.Documents
import WastePass.Proofs.Json.Fields
import WastePass.Proofs.Json.Values

/-!
# The shape of documents — nothing else is read

    The converse of `parse_of_written`: a text from which a document is read is written
    as one, whatever stands in it and at any depth.  So the two say together exactly
    which texts are documents.  What was decoded before a name was found unknown, or an
    entry at odds with another, has passed that test as a whole.
-/

namespace WastePass.Tables

open Json

namespace Document

variable {α β γ : Type}

/-! ## Entries -/

/-- A field has been read when it has been written. -/
theorem isSome_eq_of_rel {item : α → List Char → Prop} {x : Option α} {u : Option (List Char)}
    (h : Option.Rel item x u) : x.isSome = u.isSome := by
  cases h with
  | some _ => rfl
  | none => rfl

/-- What is known of an entry of two fields tells how they were written. -/
def explainsHalves {r : Record (Halves α β) γ} {first second : String} {optional : Bool}
    {readFirst : Reader α} {readSecond : Reader β} {itemFirst : α → List Char → Prop}
    {itemSecond : β → List Char → Prop} {slotFirst slotSecond : γ → Slot}
    (hfields : r.fields = [firstField first readFirst, secondField second optional readSecond])
    (hinitial : r.initial = {}) (hnames : first ≠ second)
    (hfirst : Takes readFirst itemFirst) (hsecond : Takes readSecond itemSecond)
    (hfinish : ∀ {x y a u v}, r.finish ⟨x, y⟩ = .ok a → Option.Rel itemFirst x u →
      Option.Rel itemSecond y v → slotFirst a u ∧ slotSecond a v) :
    r.Explains fun a => [(first, slotFirst a), (second, slotSecond a)] where
  Knows s w := Option.Rel itemFirst s.first (w first) ∧ Option.Rel itemSecond s.second (w second)
  names_eq a := by
    rw [hfields]
    rfl
  nodup := by
    rw [hfields]
    simpa [firstField, secondField] using hnames
  initial := by
    rw [hinitial]
    exact ⟨Option.Rel.none, Option.Rel.none⟩
  isSet_eq := by
    intro s w hknows f hf
    rw [hfields] at hf
    simp only [List.mem_cons, List.not_mem_nil, or_false] at hf
    rcases hf with rfl | rfl
    · exact isSome_eq_of_rel hknows.1
    · exact isSome_eq_of_rel hknows.2
  read := by
    intro s w hknows f hf
    rw [hfields] at hf
    simp only [List.mem_cons, List.not_mem_nil, or_false] at hf
    rcases hf with rfl | rfl
    · refine hfirst.map fun v cs hv => ?_
      show Option.Rel itemFirst (some v) (Function.update w first (some cs) first) ∧
        Option.Rel itemSecond s.second (Function.update w first (some cs) second)
      rw [Function.update_self, Function.update_of_ne hnames.symm]
      exact ⟨Option.Rel.some hv, hknows.2⟩
    · refine hsecond.map fun v cs hv => ?_
      show Option.Rel itemFirst s.first (Function.update w second (some cs) first) ∧
        Option.Rel itemSecond (some v) (Function.update w second (some cs) second)
      rw [Function.update_self, Function.update_of_ne hnames]
      exact ⟨hknows.1, Option.Rel.some hv⟩
  finish := by
    intro s w a hknows hfin slot hslot
    obtain ⟨hx, hy⟩ := hfinish hfin hknows.1 hknows.2
    simp only [List.mem_cons, List.not_mem_nil, or_false] at hslot
    rcases hslot with rfl | rfl
    · exact hx
    · exact hy

/-- An entry that is just its two fields has both of them. -/
def explainsBoth {r : Record (Halves α β) (α × β)} {first second : String}
    {readFirst : Reader α} {readSecond : Reader β} {itemFirst : α → List Char → Prop}
    {itemSecond : β → List Char → Prop}
    (hfields : r.fields = [firstField first readFirst, secondField second false readSecond])
    (hinitial : r.initial = {}) (hnames : first ≠ second)
    (hfirst : Takes readFirst itemFirst) (hsecond : Takes readSecond itemSecond)
    (hboth : ∀ x y, r.finish ⟨some x, some y⟩ = .ok (x, y))
    (hnoFirst : ∀ y a, r.finish ⟨none, y⟩ ≠ .ok a)
    (hnoSecond : ∀ x a, r.finish ⟨some x, none⟩ ≠ .ok a) :
    r.Explains fun entry =>
      [(first, Slot.required (itemFirst entry.1)), (second, Slot.required (itemSecond entry.2))] :=
  explainsHalves hfields hinitial hnames hfirst hsecond <| by
    intro x y a u v h hx hy
    cases hx with
    | none => exact absurd h (hnoFirst y a)
    | some hx =>
        cases hy with
        | none => exact absurd h (hnoSecond _ a)
        | some hy =>
            rw [hboth] at h
            cases h
            exact ⟨hx, hy⟩

theorem takes_bounds : Takes bounds BoundsSpelling :=
  Reader.takes_pair Reader.takes_text

/-- Entries of the range table are taken where they are read. -/
theorem takes_districtEntry : Takes districtEntry.read DistrictSpelling :=
  Record.takes <| explainsBoth rfl rfl (by decide) Reader.takes_text
    (Reader.takes_list takes_bounds) (fun _ _ => rfl) nofun nofun

/-- Entries of the pass number table are taken where they are read. -/
theorem takes_passNumberEntry : Takes passNumberEntry.read PassNumberSpelling :=
  Record.takes <| explainsBoth rfl rfl (by decide) Reader.takes_text Reader.takes_text
    (fun _ _ => rfl) nofun nofun

/-- Exceptions are taken where they are read: the range is there, and the letters where they
    are written. -/
theorem takes_exceptionEntry : Takes exceptionEntry.read ExceptionSpelling := by
  refine Record.takes (explainsHalves rfl rfl (by decide) takes_bounds
    (Reader.takes_list Reader.takes_text) ?_)
  intro x y a u v h hx hy
  cases hx with
  | none => exact nomatch h
  | some hx =>
      cases hy with
      | none =>
          cases h
          exact ⟨hx, rfl⟩
      | some hy =>
          cases h
          exact ⟨hx, hy⟩

/-! ## Documents -/

/-- A table is left out only where it is empty. -/
theorem optional_of_rel {item : α → List Char → Prop} {x : Option (List α)}
    {u : Option (List Char)} (h : Option.Rel (ListSpelling item) x u) :
    Slot.optional (x.getD [] = []) (ListSpelling item (x.getD [])) u := by
  cases h with
  | none => exact rfl
  | some h => exact h

/-- What is known of a document tells how its tables were written. -/
def explainsRecord :
    record.Explains fun doc =>
      [("districts",
          Slot.optional (doc.districts = []) (ListSpelling DistrictSpelling doc.districts)),
       ("pass_numbers",
          Slot.optional (doc.passNumbers = [])
            (ListSpelling PassNumberSpelling doc.passNumbers)),
       ("container_exceptions",
          Slot.optional (doc.exceptions = [])
            (ListSpelling ExceptionSpelling doc.exceptions))] where
  Knows s w :=
    Option.Rel (ListSpelling DistrictSpelling) s.districts (w "districts") ∧
    Option.Rel (ListSpelling PassNumberSpelling) s.passNumbers (w "pass_numbers") ∧
    Option.Rel (ListSpelling ExceptionSpelling) s.exceptions (w "container_exceptions")
  names_eq _ := rfl
  nodup := by
    show ["districts", "pass_numbers", "container_exceptions"].Nodup
    decide
  initial := ⟨Option.Rel.none, Option.Rel.none, Option.Rel.none⟩
  isSet_eq := by
    intro s w hknows f hf
    obtain ⟨hdistricts, hpasses, hexceptions⟩ := hknows
    simp only [record, List.mem_cons, List.not_mem_nil, or_false] at hf
    rcases hf with rfl | rfl | rfl
    · exact isSome_eq_of_rel hdistricts
    · exact isSome_eq_of_rel hpasses
    · exact isSome_eq_of_rel hexceptions
  read := by
    intro s w hknows f hf
    obtain ⟨hdistricts, hpasses, hexceptions⟩ := hknows
    simp only [record, List.mem_cons, List.not_mem_nil, or_false] at hf
    rcases hf with rfl | rfl | rfl
    · refine (Reader.takes_list takes_districtEntry).map fun v cs hv => ?_
      simpa using ⟨hv, hpasses, hexceptions⟩
    · refine (Reader.takes_list takes_passNumberEntry).map fun v cs hv => ?_
      simpa using ⟨hdistricts, hv, hexceptions⟩
    · refine (Reader.takes_list takes_exceptionEntry).map fun v cs hv => ?_
      simpa using ⟨hdistricts, hpasses, hv⟩
  finish := by
    intro s w doc hknows hfin slot hslot
    cases hfin
    simp only [List.mem_cons, List.not_mem_nil, or_false] at hslot
    rcases hslot with rfl | rfl | rfl
    · exact optional_of_rel hknows.1
    · exact optional_of_rel hknows.2.1
    · exact optional_of_rel hknows.2.2

/-- What is read as a document is written as one. -/
theorem takes_record : Takes record.read DocumentSpelling :=
  Record.takes explainsRecord

/-- **A text from which a document is read writes it.** -/
theorem written_of_parse {doc : Document} {text : String} (h : parse text = .ok doc) :
    Written doc text := by
  obtain ⟨c, hread, hrest⟩ := Reader.run_eq_ok h
  obtain ⟨ws, cs, hws, hcs, htext⟩ := takes_record hread
  exact ⟨ws, cs, c.rest, hws, hcs, hrest, htext⟩

/-- **The texts of a document** are those from which it is read. -/
theorem parse_eq_ok_iff {doc : Document} {text : String} :
    parse text = .ok doc ↔ Written doc text :=
  ⟨written_of_parse, parse_of_written⟩

/-! ## Every part is a value -/

/-- Bounds are a value. -/
theorem value_of_bounds {bounds : String × String} {cs : List Char}
    (h : BoundsSpelling bounds cs) : Value cs :=
  value_of_list h TextSpelling.value

/-- An entry of the range table is a value. -/
theorem value_of_district {entry : String × List (String × String)} {cs : List Char}
    (h : DistrictSpelling entry cs) : Value cs :=
  RecordSpelling.value h <| List.forall_mem_cons.mpr ⟨fun _ hname => TextSpelling.value hname,
    List.forall_mem_singleton.mpr fun _ hranges => value_of_list hranges value_of_bounds⟩

/-- An entry of the pass number table is a value. -/
theorem value_of_passNumber {entry : String × String} {cs : List Char}
    (h : PassNumberSpelling entry cs) : Value cs :=
  RecordSpelling.value h <| List.forall_mem_cons.mpr ⟨fun _ hname => TextSpelling.value hname,
    List.forall_mem_singleton.mpr fun _ hnumber => TextSpelling.value hnumber⟩

/-- An exception is a value. -/
theorem value_of_exception {entry : (String × String) × List String} {cs : List Char}
    (h : ExceptionSpelling entry cs) : Value cs :=
  RecordSpelling.value h <| List.forall_mem_cons.mpr ⟨fun _ hrange => value_of_bounds hrange,
    List.forall_mem_singleton.mpr fun _ hletters => value_of_list hletters TextSpelling.value⟩

/-- A document is a value. -/
theorem value_of_document {doc : Document} {cs : List Char} (h : DocumentSpelling doc cs) :
    Value cs :=
  RecordSpelling.value h <| List.forall_mem_cons.mpr
    ⟨fun _ hdistricts => value_of_list hdistricts value_of_district,
      List.forall_mem_cons.mpr ⟨fun _ hpasses => value_of_list hpasses value_of_passNumber,
        List.forall_mem_singleton.mpr fun _ hexceptions =>
          value_of_list hexceptions value_of_exception⟩⟩

end Document

/-- Decoding fails or gives a document, and then what is wrong is found in that. -/
theorem not_malformed_iff_written (text : String) :
    (∀ e, ofDocument text ≠ .error (.malformed e)) ↔ ∃ doc, Written doc text := by
  have hparse : (∀ e, ofDocument text ≠ .error (.malformed e)) ↔
      ∃ doc, Document.parse text = .ok doc := by
    unfold ofDocument
    cases Document.parse text with
    | error e => simp
    | ok doc =>
        refine iff_of_true (fun e h => ?_) ⟨doc, rfl⟩
        simp only at h
        split at h
        · exact nomatch h
        · exact nomatch h
  rw [hparse]
  exact exists_congr fun doc => Document.parse_eq_ok_iff

/-- **No text of another shape gets past decoding**, whatever becomes of it afterwards, and
    none of this shape is refused.  It is one value with spaces around it, and that value
    spells a document: as an object it has no members but the tables, none of them twice,
    and as a list no more than three elements. -/
theorem not_malformed_iff_shaped (text : String) :
    (∀ e, ofDocument text ≠ .error (.malformed e)) ↔
      ∃ doc ws cs vs, Spaces ws ∧ Spaces vs ∧ text.toList = ws ++ (cs ++ vs) ∧ Value cs ∧
        DocumentSpelling doc cs ∧
        ((∃ members, ObjectSpelling members cs ∧ (members.map (·.1)).Nodup ∧
            ∀ m ∈ members, m.1 ∈ ["districts", "pass_numbers", "container_exceptions"]) ∨
          ∃ values, ListSpelling (fun value cs => cs = value) values cs ∧
            values.length ≤ 3) := by
  rw [not_malformed_iff_written]
  refine exists_congr fun doc => ⟨?_, ?_⟩
  · rintro ⟨ws, cs, vs, hws, hdoc, hvs, htext⟩
    refine ⟨ws, cs, vs, hws, hvs, htext, Document.value_of_document hdoc, hdoc, ?_⟩
    rcases RecordSpelling.closed_cases hdoc with
      ⟨members, hobject, hnodup, hnames⟩ | ⟨values, hlist, hlen⟩
    · exact Or.inl ⟨members, hobject, hnodup, hnames⟩
    · exact Or.inr ⟨values, hlist, hlen⟩
  · rintro ⟨ws, cs, vs, hws, hvs, htext, -, hdoc, -⟩
    exact ⟨ws, cs, vs, hws, hdoc, hvs, htext⟩

end WastePass.Tables
