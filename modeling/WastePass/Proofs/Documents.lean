import WastePass.Tables.Document
import WastePass.Proofs.Consistency
import WastePass.Proofs.DistrictNames
import WastePass.Proofs.Json.Choices
import WastePass.Proofs.Json.Records

/-!
# Documents — a configuration written down as a document means the calls it lists

    `Written doc text` says that the text is one of the many ways to write the document
    down: its members in any order, its records as objects or as lists, its texts with
    any escapes, unknown members of any depth inside its entries.  `ofDocument_of_written`
    is about all of them at once: the tables are those of the calls that the document
    lists, the range table first, unless a district name is unknown.
-/

namespace WastePass.Tables

open Json

/-! ## How a document is written -/

/-- The bounds of a range are a list of two texts. -/
abbrev BoundsSpelling (bounds : String × String) : List Char → Prop :=
  ListSpelling TextSpelling [bounds.1, bounds.2]

/-- An entry of the range table. -/
def DistrictSpelling (entry : String × List (String × String)) : List Char → Prop :=
  RecordSpelling
    [("district", Slot.required (TextSpelling entry.1)),
     ("ranges", Slot.required (ListSpelling BoundsSpelling entry.2))] false

/-- An entry of the pass number table. -/
def PassNumberSpelling (entry : String × String) : List Char → Prop :=
  RecordSpelling
    [("district", Slot.required (TextSpelling entry.1)),
     ("pass_number", Slot.required (TextSpelling entry.2))] false

/-- An entry of the table of exceptions.  Where it has no letters they may be left out. -/
def ExceptionSpelling (entry : (String × String) × List String) : List Char → Prop :=
  RecordSpelling
    [("range", Slot.required (BoundsSpelling entry.1)),
     ("letters", Slot.optional (entry.2 = []) (ListSpelling TextSpelling entry.2))] false

/-- The three tables.  One without entries may be left out. -/
def DocumentSpelling (doc : Document) : List Char → Prop :=
  RecordSpelling
    [("districts",
        Slot.optional (doc.districts = []) (ListSpelling DistrictSpelling doc.districts)),
     ("pass_numbers",
        Slot.optional (doc.passNumbers = []) (ListSpelling PassNumberSpelling doc.passNumbers)),
     ("container_exceptions",
        Slot.optional (doc.exceptions = []) (ListSpelling ExceptionSpelling doc.exceptions))]
    true

/-- The text writes the document, with any spaces around it. -/
def Written (doc : Document) (text : String) : Prop :=
  ∃ ws cs vs, Spaces ws ∧ DocumentSpelling doc cs ∧ Spaces vs ∧ text.toList = ws ++ (cs ++ vs)

/-! ## What a document lists -/

namespace Document

/-- The names of districts, those of the range table first. -/
def names (doc : Document) : List String :=
  doc.districts.map (·.1) ++ doc.passNumbers.map (·.1)

/-- The first name that no district has. -/
def unknownName? (doc : Document) : Option String :=
  doc.names.find? fun name => (District.ofName? name).isNone

/-- The calls that a document lists, table by table. -/
def calls (doc : Document) : List Call :=
  (doc.districts.filterMap fun entry =>
    (District.ofName? entry.1).map fun d => Call.district d entry.2) ++
  (doc.passNumbers.filterMap fun entry =>
    (District.ofName? entry.1).map fun d => Call.passNumber d entry.2) ++
  doc.exceptions.map fun entry => Call.containerException entry.1 entry.2

/-! ## Records of two fields -/

variable {α β γ : Type}

/-- Two fields of an entry, of which some have been read. -/
def Halves.given (x : α) (y : β) (first second : Bool) : Halves α β :=
  ⟨if first then some x else none, if second then some y else none⟩

/-- An entry of two fields is read into its value. -/
def describesHalves {r : Record (Halves α β) γ} {first second : String} {optional : Bool}
    {readFirst : Reader α} {readSecond : Reader β} {x : α} {y : β} {a : γ}
    {slotFirst slotSecond : Slot}
    (hfields : r.fields = [firstField first readFirst, secondField second optional readSecond])
    (hinitial : r.initial = {}) (hnames : first ≠ second)
    (hfirst : ∀ cs, slotFirst (some cs) → Starts cs ∧ Reads readFirst cs x)
    (hsecond : ∀ cs, slotSecond (some cs) → Starts cs ∧ Reads readSecond cs y)
    (hrequired : ¬ slotFirst none) (hoptional : slotSecond none → optional = true)
    (hboth : r.finish ⟨some x, some y⟩ = .ok a)
    (hone : slotSecond none → r.finish ⟨some x, none⟩ = .ok a) :
    r.Describes
      [(firstField first readFirst, slotFirst),
       (secondField second optional readSecond, slotSecond)] a where
  state seen := Halves.given x y (decide (first ∈ seen)) (decide (second ∈ seen))
  fields_eq := hfields
  nodup := by simpa [firstField, secondField] using hnames
  state_nil := hinitial.symm
  isSet_eq := by
    intro m hm seen
    simp only [List.mem_cons, List.not_mem_nil, or_false] at hm
    rcases hm with rfl | rfl
    · show (if decide (first ∈ seen) then some x else none).isSome = true ↔ first ∈ seen
      by_cases h : first ∈ seen <;> simp [h]
    · show (if decide (second ∈ seen) then some y else none).isSome = true ↔ second ∈ seen
      by_cases h : second ∈ seen <;> simp [h]
  reads := by
    intro m hm cs seen hslot
    simp only [List.mem_cons, List.not_mem_nil, or_false] at hm
    rcases hm with rfl | rfl
    · exact starts_reads_map (hfirst cs hslot) (fun v =>
        ({ Halves.given x y (decide (first ∈ seen)) (decide (second ∈ seen)) with
            first := some v } : Halves α β)) (by simp [Halves.given, firstField, hnames.symm])
    · exact starts_reads_map (hsecond cs hslot) (fun v =>
        ({ Halves.given x y (decide (first ∈ seen)) (decide (second ∈ seen)) with
            second := some v } : Halves α β)) (by simp [Halves.given, secondField, hnames])
  optional_of_none := by
    intro m hm hnone
    simp only [List.mem_cons, List.not_mem_nil, or_false] at hm
    rcases hm with rfl | rfl
    · exact absurd hnone hrequired
    · exact hoptional hnone
  finish_eq := by
    intro seen hseen
    -- The first field has to be there; the second may hold its default.
    have hfirst : first ∈ seen := (hseen _ List.mem_cons_self).resolve_right hrequired
    have hsecond : second ∈ seen ∨ slotSecond none :=
      hseen _ (List.mem_cons_of_mem _ List.mem_cons_self)
    by_cases h : second ∈ seen
    · simpa [Halves.given, hfirst, h] using hboth
    · simpa [Halves.given, hfirst, h] using hone (hsecond.resolve_left h)

/-! ## Every spelling is read -/

/-- Bounds are decoded. -/
theorem decodes_bounds : Decodes bounds BoundsSpelling :=
  Reader.decodes_pair Reader.decodes_text

/-- An entry of the range table is read from its two fields. -/
def describesDistrictEntry (entry : String × List (String × String)) :
    districtEntry.Describes
      [(firstField "district" Reader.text, Slot.required (TextSpelling entry.1)),
       (secondField "ranges" false (Reader.list bounds),
        Slot.required (ListSpelling BoundsSpelling entry.2))] entry :=
  describesHalves rfl rfl (by decide) (fun _ h => Reader.decodes_text h)
    (fun _ h => Reader.decodes_list decodes_bounds h) id False.elim rfl False.elim

/-- An entry of the pass number table is read from its two fields. -/
def describesPassNumberEntry (entry : String × String) :
    passNumberEntry.Describes
      [(firstField "district" Reader.text, Slot.required (TextSpelling entry.1)),
       (secondField "pass_number" false Reader.text,
        Slot.required (TextSpelling entry.2))] entry :=
  describesHalves rfl rfl (by decide) (fun _ h => Reader.decodes_text h)
    (fun _ h => Reader.decodes_text h) id False.elim rfl False.elim

/-- An exception is read from its range and its letters, if there are any. -/
def describesExceptionEntry (entry : (String × String) × List String) :
    exceptionEntry.Describes
      [(firstField "range" bounds, Slot.required (BoundsSpelling entry.1)),
       (secondField "letters" true (Reader.list Reader.text),
        Slot.optional (entry.2 = []) (ListSpelling TextSpelling entry.2))] entry :=
  describesHalves rfl rfl (by decide) (fun _ h => decodes_bounds h)
    (fun _ h => Reader.decodes_list Reader.decodes_text h) id (fun _ => rfl) rfl
    fun h => by
      obtain ⟨range, letters⟩ := entry
      cases h
      rfl

/-- Entries of the range table are decoded. -/
theorem decodes_districtEntry : Decodes districtEntry.read DistrictSpelling :=
  fun h => Record.decodes describesDistrictEntry h

/-- Entries of the pass number table are decoded. -/
theorem decodes_passNumberEntry : Decodes passNumberEntry.read PassNumberSpelling :=
  fun h => Record.decodes describesPassNumberEntry h

/-- Exceptions are decoded. -/
theorem decodes_exceptionEntry : Decodes exceptionEntry.read ExceptionSpelling :=
  fun h => Record.decodes describesExceptionEntry h

/-- The tables of a document of which some have been read. -/
def given (doc : Document) (seen : List String) : Parts where
  districts := if "districts" ∈ seen then some doc.districts else none
  passNumbers := if "pass_numbers" ∈ seen then some doc.passNumbers else none
  exceptions := if "container_exceptions" ∈ seen then some doc.exceptions else none

/-- A table is what was read, or empty where it may be left out. -/
theorem getD_given {α : Type} {xs : List α} {name : String} {seen : List String}
    (h : name ∈ seen ∨ xs = []) : (if name ∈ seen then some xs else none).getD [] = xs := by
  by_cases hseen : name ∈ seen
  · rw [if_pos hseen]
    rfl
  · rw [if_neg hseen, h.resolve_left hseen]
    rfl

/-- A document is read from its three tables. -/
def describesRecord (doc : Document) :
    record.Describes (record.fields.zip
      [Slot.optional (doc.districts = []) (ListSpelling DistrictSpelling doc.districts),
       Slot.optional (doc.passNumbers = []) (ListSpelling PassNumberSpelling doc.passNumbers),
       Slot.optional (doc.exceptions = []) (ListSpelling ExceptionSpelling doc.exceptions)])
      doc where
  state := doc.given
  fields_eq := rfl
  nodup := by
    show ["districts", "pass_numbers", "container_exceptions"].Nodup
    decide
  state_nil := rfl
  isSet_eq := by
    intro m hm seen
    simp only [record, List.zip_cons_cons, List.zip_nil_left, List.mem_cons, List.not_mem_nil,
      or_false] at hm
    rcases hm with rfl | rfl | rfl <;> simp [given]
  reads := by
    intro m hm cs seen hslot
    simp only [record, List.zip_cons_cons, List.zip_nil_left, List.mem_cons, List.not_mem_nil,
      or_false] at hm
    rcases hm with rfl | rfl | rfl
    · exact starts_reads_map (Reader.decodes_list decodes_districtEntry hslot)
        (fun v => ({ doc.given seen with districts := some v } : Parts)) (by simp [given])
    · exact starts_reads_map (Reader.decodes_list decodes_passNumberEntry hslot)
        (fun v => ({ doc.given seen with passNumbers := some v } : Parts)) (by simp [given])
    · exact starts_reads_map (Reader.decodes_list decodes_exceptionEntry hslot)
        (fun v => ({ doc.given seen with exceptions := some v } : Parts)) (by simp [given])
  optional_of_none := by
    intro m hm _
    simp only [record, List.zip_cons_cons, List.zip_nil_left, List.mem_cons, List.not_mem_nil,
      or_false] at hm
    rcases hm with rfl | rfl | rfl <;> rfl
  finish_eq := by
    intro seen hseen
    have hdistricts : (doc.given seen).districts.getD [] = doc.districts :=
      getD_given (hseen _ List.mem_cons_self)
    have hpasses : (doc.given seen).passNumbers.getD [] = doc.passNumbers :=
      getD_given (hseen _ (List.mem_cons_of_mem _ List.mem_cons_self))
    have hexceptions : (doc.given seen).exceptions.getD [] = doc.exceptions :=
      getD_given (hseen _ (List.mem_cons_of_mem _ (List.mem_cons_of_mem _ List.mem_cons_self)))
    show Except.ok (Document.mk _ _ _) = Except.ok doc
    rw [hdistricts, hpasses, hexceptions]

/-- Documents are decoded. -/
theorem decodes_record : Decodes record.read DocumentSpelling :=
  fun h => Record.decodes describesRecord h

/-- **A written document is read back.** -/
theorem parse_of_written {doc : Document} {text : String} (h : Written doc text) :
    parse text = .ok doc := by
  have halone : Alone (DocumentSpelling doc) text := h
  exact Reader.run_eq_ok_of_alone halone fun hdoc => (decodes_record hdoc).2

/-! ## What is read means the calls it lists -/

/-- The district of a name, or that the name is unknown. -/
theorem district_eq (name : String) :
    district name = match District.ofName? name with
      | some d => .ok d
      | none => .error (.unknownDistrict name) := by
  rw [district, District.fromText_eq]
  cases District.ofName? name <;> rfl

/-- Reading the names of entries stops at the first that no district has. -/
theorem mapM_district (entries : List (String × α)) :
    (entries.mapM fun entry => do return (← district entry.1, entry.2))
      = match (entries.map (·.1)).find? fun name => (District.ofName? name).isNone with
        | some name => .error (.unknownDistrict name)
        | none => .ok (entries.filterMap fun entry =>
            (District.ofName? entry.1).map fun d => (d, entry.2)) := by
  induction entries with
  | nil => rfl
  | cons entry entries ih =>
      rw [List.mapM_cons, ih, List.map_cons]
      cases hname : District.ofName? entry.1 with
      | none =>
          rw [List.find?_cons_of_pos (by simp [hname])]
          simp only [district_eq, hname]
          rfl
      | some d =>
          rw [List.find?_cons_of_neg (by simp [hname])]
          simp only [district_eq, hname, List.filterMap_cons, Option.map_some]
          cases (entries.map (·.1)).find? fun name => (District.ofName? name).isNone <;> rfl

/-- The entries that named calls add to a table. -/
theorem filterMap_calls {β : Type} (entries : List (String × α)) (call : District → α → Call)
    (table? : Call → Option β) :
    (entries.filterMap fun e => (District.ofName? e.1).map fun d => call d e.2).filterMap table?
      = entries.filterMap fun e => (District.ofName? e.1).bind fun d => table? (call d e.2) := by
  rw [List.filterMap_filterMap]
  simp only [Option.bind_map]
  rfl

/-- The entries that the calls of a document add. -/
theorem ofCalls_calls (doc : Document) :
    Draft.ofCalls doc.calls =
      ⟨doc.districts.filterMap fun e => (District.ofName? e.1).map fun d => (d, e.2),
       doc.passNumbers.filterMap fun e => (District.ofName? e.1).map fun d => (d, e.2),
       doc.exceptions⟩ := by
  rw [ofCalls_eq_listed, Draft.listed, calls]
  simp only [List.filterMap_append, filterMap_calls, List.filterMap_map, Call.rangeEntry?,
    Call.passEntry?, Call.exceptionEntry?, Function.comp_def]
  simp only [Option.map_eq_bind, Function.comp_def, Option.bind_fun_none, List.filterMap_none,
    List.append_nil, List.nil_append]
  exact congrArg (Draft.mk _ _) List.filterMap_some

/-- The draft of a document holds the entries of its calls, unless a name is unknown. -/
theorem draft_eq (doc : Document) :
    doc.draft = match doc.unknownName? with
      | some name => .error (.unknownDistrict name)
      | none => .ok (Draft.ofCalls doc.calls) := by
  unfold draft unknownName? names
  -- The names are looked up table by table, so the first unknown one is found in the
  -- range table if there is one there.
  rw [ofCalls_calls, mapM_district, mapM_district, List.find?_append]
  cases (doc.districts.map (·.1)).find? fun name => (District.ofName? name).isNone with
  | some name => rfl
  | none =>
      cases (doc.passNumbers.map (·.1)).find? fun name => (District.ofName? name).isNone <;> rfl

end Document

/-- **A document means the calls it lists.** -/
theorem ofDocument_of_written {doc : Document} {text : String} (h : Written doc text) :
    ofDocument text = match doc.unknownName? with
      | some name => .error (.inconsistent (.unknownDistrict name))
      | none => (Tables.ofCalls doc.calls).mapError .inconsistent := by
  unfold ofDocument
  rw [Document.parse_of_written h]
  simp only [Document.draft_eq]
  cases doc.unknownName? with
  | some name => rfl
  | none =>
      have hbind : (Except.ok (Draft.ofCalls doc.calls) >>= Draft.build)
          = Tables.ofCalls doc.calls := rfl
      simp only [hbind]
      cases Tables.ofCalls doc.calls <;> rfl

/-- One spelling: an escape, a member that is skipped, members out of order, two tables left
    out. -/
theorem ofDocument_of_written_escaped :
    ofDocument
        " \x7b\"pass_numbers\":[\x7b\"x\":[\x7b\x7d],\"pass_number\":\"7\",\"district\":\"\\u0057est\"\x7d]\x7d"
      = .ok ⟨[], [(.west, "7")], []⟩ := by
  have plain : ∀ s : String, (s.toList.all fun c => c != '"' && c != '\\' && 32 ≤ c.toNat) →
      TextSpelling s ('"' :: (s.toList ++ ['"'])) :=
    fun s h => TextSpelling.quoted (TextBody.of_plain h)
  have ignored : Value ('[' :: (([] ++ (('\x7b' :: ([] ++ ['\x7d'])) ++ [])) ++ [']'])) :=
    WellFormed.enclosed (e := .list)
      (WellFormed.last Spaces.nil (WellFormed.empty .object Spaces.nil) Spaces.nil)
  have west : TextSpelling "West" "\"\\u0057est\"".toList := by
    have unit : HexUnit ['0', '0', '5', '7'] 'W'.toNat :=
      HexUnit.digits (i := 0) (j := 0) (k := 5) (l := 7) (by decide) (by decide) (by decide)
        (by decide)
    have body : TextBody "West".toList (['\\', 'u', '0', '0', '5', '7'] ++ ['e', 's', 't']) := by
      show TextBody ('W' :: ['e', 's', 't']) _
      exact TextBody.cons (CharSpelling.unit unit) (TextBody.of_plain (by decide))
    exact TextSpelling.quoted body
  have entry : PassNumberSpelling ("West", "7") _ :=
    @RecordSpelling.object _ false
      [("x", _), ("pass_number", _), ("district", _)] _
      (Enclosed.items (Items.more Spaces.nil
          (MemberSpelling.keyed (plain "x" (by decide)) Spaces.nil Spaces.nil) Spaces.nil
        (Items.more Spaces.nil
          (MemberSpelling.keyed (plain "pass_number" (by decide)) Spaces.nil Spaces.nil) Spaces.nil
        (Items.last Spaces.nil
          (MemberSpelling.keyed (plain "district" (by decide)) Spaces.nil Spaces.nil)
            Spaces.nil))))
      (by
        intro field hfield
        simp only [List.mem_cons, List.not_mem_nil, or_false] at hfield
        rcases hfield with rfl | rfl
        · exact ⟨some _, rfl, west⟩
        · exact ⟨some _, rfl, plain "7" (by decide)⟩)
      (by
        intro m hm hname
        simp only [List.mem_cons, List.not_mem_nil, or_false] at hm
        rcases hm with rfl | rfl | rfl
        · exact ⟨rfl, ignored⟩
        · exact absurd (by decide) hname
        · exact absurd (by decide) hname)
  have document : DocumentSpelling ⟨[], [("West", "7")], []⟩ _ :=
    @RecordSpelling.object _ true [("pass_numbers", _)] _
      (Enclosed.items (Items.last Spaces.nil
        (MemberSpelling.keyed (plain "pass_numbers" (by decide)) Spaces.nil Spaces.nil)
          Spaces.nil))
      (by
        intro field hfield
        simp only [List.mem_cons, List.not_mem_nil, or_false] at hfield
        rcases hfield with rfl | rfl | rfl
        · exact ⟨none, rfl, trivial⟩
        · exact ⟨some _, rfl, Enclosed.items (Items.last Spaces.nil entry Spaces.nil)⟩
        · exact ⟨none, rfl, trivial⟩)
      (by
        intro m hm hname
        simp only [List.mem_cons, List.not_mem_nil, or_false] at hm
        subst hm
        exact absurd (by decide) hname)
  have space : Spaces [' '] := by
    intro c hc
    exact Or.inl (List.mem_singleton.mp hc)
  exact (ofDocument_of_written ⟨[' '], _, [], space, document, Spaces.nil, rfl⟩).trans rfl

end WastePass.Tables
