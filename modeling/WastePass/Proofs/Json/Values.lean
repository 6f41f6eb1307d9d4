import WastePass.Proofs.Json.Records

/-!
# Values — what spells a text, a list or a record is one well-formed value

    The spellings of a known shape are part of the notation at large: with `Value` for
    whatever their items or fields hold, they are a `Value` themselves.  Of a record that
    refuses other members more can be said: no name comes twice, and no list is too long.
-/

namespace WastePass.Json

/-! ## Texts -/

/-- A character of a text may stand in a text that nobody asks for. -/
theorem CharSpelling.loose {c : Char} {cs ds : List Char} (h : CharSpelling c cs)
    (hds : LooseBody ds) : LooseBody (cs ++ ds) := by
  cases h with
  | plain hquote hslash hcontrol => exact LooseBody.plain hquote hslash hcontrol hds
  | short h => exact LooseBody.short h hds
  | unit h => exact LooseBody.unit h hds
  | pair hfirst hsecond _ _ _ =>
      rw [List.cons_append, List.cons_append, List.append_assoc]
      exact LooseBody.unit hfirst (LooseBody.unit hsecond hds)

/-- What stands between the quotes of a text may stand in one that nobody asks for. -/
theorem TextBody.loose {s body : List Char} (h : TextBody s body) : LooseBody body := by
  induction h with
  | nil => exact LooseBody.nil
  | cons hc _ ih => exact hc.loose ih

/-- A text is well-formed. -/
theorem TextSpelling.loose {s : String} {cs : List Char} (h : TextSpelling s cs) :
    LooseText cs := by
  cases h with
  | quoted hbody => exact LooseText.quoted hbody.loose

/-- A text is a value. -/
theorem TextSpelling.value {s : String} {cs : List Char} (h : TextSpelling s cs) : Value cs :=
  WellFormed.text h.loose

/-! ## Lists and objects -/

variable {α : Type} {item : α → List Char → Prop}

/-- Items are well-formed when each of them is. -/
theorem Items.wellFormed {e : Enclosure} {xs : List α} {cs : List Char}
    (h : Items item xs cs) :
    (∀ x ∈ xs, ∀ cs, item x cs → WellFormed (.one e) cs) → WellFormed (.all e) cs := by
  induction h with
  | last hws hx hvs =>
      intro hitem
      exact WellFormed.last hws (hitem _ List.mem_cons_self _ hx) hvs
  | more hws hx hvs _ ih =>
      intro hitem
      refine WellFormed.more hws (hitem _ List.mem_cons_self _ hx) hvs (ih ?_)
      exact fun y hy => hitem y (List.mem_cons_of_mem _ hy)

/-- A list or an object is a value when its items are well-formed. -/
theorem Enclosed.value {e : Enclosure} {xs : List α} {cs : List Char}
    (h : Enclosed e item xs cs) (hitem : ∀ x ∈ xs, ∀ cs, item x cs → WellFormed (.one e) cs) :
    Value cs := by
  cases h with
  | empty hws => exact WellFormed.empty e hws
  | items h => exact WellFormed.enclosed (h.wellFormed hitem)

/-- A list of values is a value. -/
theorem value_of_list {xs : List α} {cs : List Char} (h : ListSpelling item xs cs)
    (hitem : ∀ {x cs}, item x cs → Value cs) : Value cs :=
  h.value fun _ _ _ hx => hitem hx

/-- A member with a value is well-formed. -/
theorem MemberSpelling.wellFormed {m : String × List Char} {cs : List Char}
    (h : MemberSpelling m cs) (hm : Value m.2) : WellFormed (.one .object) cs := by
  cases h with
  | keyed hkey hws hvs => exact WellFormed.member hkey.loose hws hvs hm

/-! ## Records -/

variable {fields : List (String × Slot)}

/-- Each of the values that fill fields in order fills one of them. -/
theorem InOrder.exists_slot {values : List (List Char)} (h : InOrder fields values) :
    ∀ value ∈ values, ∃ slot ∈ fields, slot.2 (some value) := by
  induction fields generalizing values with
  | nil =>
      intro value hvalue
      rw [show values = [] from h] at hvalue
      exact absurd hvalue List.not_mem_nil
  | cons slot fields ih =>
      intro value hvalue
      cases values with
      | nil => exact absurd hvalue List.not_mem_nil
      | cons v values =>
          rcases List.mem_cons.mp hvalue with rfl | hvalue
          · exact ⟨slot, List.mem_cons_self, h.1⟩
          · obtain ⟨other, hother, hfill⟩ := ih h.2 value hvalue
            exact ⟨other, List.mem_cons_of_mem slot hother, hfill⟩

/-- There are no more values than fields. -/
theorem InOrder.length_le {values : List (List Char)} (h : InOrder fields values) :
    values.length ≤ fields.length := by
  induction fields generalizing values with
  | nil =>
      rw [show values = [] from h]
      exact Nat.le_refl 0
  | cons slot fields ih =>
      cases values with
      | nil => exact Nat.zero_le _
      | cons v values => exact Nat.succ_le_succ (ih h.2)

/-- The value of a member is among the values of its name. -/
theorem mem_valuesOf {m : String × List Char} {members : List (String × List Char)}
    (hm : m ∈ members) : m.2 ∈ valuesOf m.1 members := by
  unfold valuesOf
  exact List.mem_map_of_mem (List.mem_filter.mpr ⟨hm, by simp⟩)

/-- A record is a value when whatever may fill its fields is. -/
theorem RecordSpelling.value {closed : Bool} {cs : List Char}
    (h : RecordSpelling fields closed cs)
    (hfields : ∀ slot ∈ fields, ∀ cs, slot.2 (some cs) → Value cs) : Value cs := by
  cases h with
  | @object members _ hobject known others =>
      refine hobject.value fun m hm cs hcs => hcs.wellFormed ?_
      by_cases hname : m.1 ∈ fields.map (·.1)
      · obtain ⟨slot, hslot, heq⟩ := List.mem_map.mp hname
        obtain ⟨value, hvalues, hfill⟩ := known slot hslot
        have hmem := mem_valuesOf hm
        rw [← heq, hvalues, Option.mem_toList] at hmem
        rw [hmem] at hfill
        exact hfields slot hslot m.2 hfill
      · exact (others m hm hname).2
  | list hlist fits =>
      refine hlist.value fun value hvalue cs hcs => ?_
      obtain ⟨slot, hslot, hfill⟩ := fits.exists_slot value hvalue
      rw [hcs]
      exact hfields slot hslot value hfill

/-- A name comes as often as it has values. -/
theorem count_name (name : String) (members : List (String × List Char)) :
    (members.map (·.1)).count name = (valuesOf name members).length := by
  unfold valuesOf List.count
  rw [List.countP_map, List.countP_eq_length_filter, List.length_map]
  rfl

/-- A closed record is an object of its fields, no name coming twice, or a list that is not
    too long. -/
theorem RecordSpelling.closed_cases {cs : List Char} (h : RecordSpelling fields true cs) :
    (∃ members, ObjectSpelling members cs ∧ (members.map (·.1)).Nodup ∧
      ∀ m ∈ members, m.1 ∈ fields.map (·.1)) ∨
    (∃ values, ListSpelling (fun value cs => cs = value) values cs ∧
      values.length ≤ fields.length) := by
  cases h with
  | @object members _ hobject known others =>
      have hnames : ∀ m ∈ members, m.1 ∈ fields.map (·.1) := by
        intro m hm
        refine Decidable.byContradiction fun hname => ?_
        exact nomatch (others m hm hname).1
      refine Or.inl ⟨members, hobject, ?_, hnames⟩
      -- The name of a field has one value at most, and no other name comes at all.
      rw [List.nodup_iff_count]
      intro name
      by_cases hname : name ∈ fields.map (·.1)
      · obtain ⟨slot, hslot, rfl⟩ := List.mem_map.mp hname
        obtain ⟨value, hvalues, -⟩ := known slot hslot
        rw [count_name, hvalues]
        cases value <;> simp
      · rw [List.count_eq_zero_of_not_mem]
        · exact Nat.zero_le 1
        · intro hmem
          obtain ⟨m, hm, rfl⟩ := List.mem_map.mp hmem
          exact hname (hnames m hm)
  | @list values _ hlist fits => exact Or.inr ⟨values, hlist, fits.length_le⟩

end WastePass.Json
