import Mathlib.Logic.Function.Basic
import WastePass.Proofs.Json.Records
import WastePass.Proofs.Json.Brackets

/-!
# Fields — what a record has been read from

    `Record.Explains` is the converse of `Record.Describes`: what is known of a record
    while it is read tells which of its fields have been written, and how.  Both loops
    carry that along, over the members of an object and over the elements of a list, so
    that in the end every slot is filled with what was written for its field.
-/

namespace WastePass.Json

variable {σ α : Type}

/-- The fields of a record that have been written so far, each with its characters. -/
abbrev Filled := String → Option (List Char)

/-- What is known of a record (`Knows`) tells how the fields that have been read were
    written. -/
structure Record.Explains (r : Record σ α) (slots : α → List (String × Slot)) where
  Knows : σ → Filled → Prop
  names_eq : ∀ a, (slots a).map (·.1) = r.fields.map (·.name)
  nodup : (r.fields.map (·.name)).Nodup
  initial : Knows r.initial fun _ => none
  isSet_eq : ∀ {s w}, Knows s w → ∀ f ∈ r.fields, f.isSet s = (w f.name).isSome
  read : ∀ {s w}, Knows s w → ∀ f ∈ r.fields,
    Takes (f.read s) fun s' cs => Knows s' (Function.update w f.name (some cs))
  finish : ∀ {s w a}, Knows s w → r.finish s = .ok a → ∀ slot ∈ slots a, slot.2 (w slot.1)

namespace Record

open Reader

variable {r : Record σ α} {slots : α → List (String × Slot)}

/-! ## As an object -/

/-- Reading these members fills the fields of a record from `w` to `w'`. -/
structure Fills (r : Record σ α) (w w' : Filled) (members : List (String × List Char)) :
    Prop where
  known : ∀ f ∈ r.fields, (w' f.name).toList = (w f.name).toList ++ valuesOf f.name members
  others : ∀ m ∈ members, m.1 ∉ r.fields.map (·.name) → r.closed = false ∧ Value m.2

theorem Fills.nil (r : Record σ α) (w : Filled) : Fills r w w [] :=
  ⟨fun f _ => (List.append_nil (w f.name).toList).symm, fun _ hm => absurd hm List.not_mem_nil⟩

/-- A member fills the field of its name, which was not filled before. -/
theorem Fills.field {w w' : Filled} {members : List (String × List Char)} {f : Member σ}
    {cs : List Char} (h : Fills r (Function.update w f.name (some cs)) w' members)
    (hf : f ∈ r.fields) (hempty : w f.name = none) : Fills r w w' ((f.name, cs) :: members) := by
  refine ⟨fun g hg => ?_, fun m hm hname => ?_⟩
  · rw [h.known g hg]
    by_cases heq : f.name = g.name
    · rw [← heq, Function.update_self, hempty, valuesOf_cons_self]
      rfl
    · rw [Function.update_of_ne (Ne.symm heq), valuesOf_cons_ne heq]
  · rcases List.mem_cons.mp hm with rfl | hm
    · exact absurd (List.mem_map_of_mem hf) hname
    · exact h.others m hm hname

/-- A member of another name fills nothing. -/
theorem Fills.other {w w' : Filled} {members : List (String × List Char)} {name : String}
    {cs : List Char} (h : Fills r w w' members) (hname : name ∉ r.fields.map (·.name))
    (hclosed : r.closed = false) (hcs : Value cs) : Fills r w w' ((name, cs) :: members) := by
  refine ⟨fun g hg => ?_, fun m hm hother => ?_⟩
  · have hne : name ≠ g.name := by
      rintro rfl
      exact hname (List.mem_map_of_mem hg)
    rw [valuesOf_cons_ne hne]
    exact h.known g hg
  · rcases List.mem_cons.mp hm with rfl | hm
    · exact ⟨hclosed, hcs⟩
    · exact h.others m hm hother

/-- Behind a key that is refused nothing is read. -/
theorem failAfterKey_ne_ok {β : Type} {fault : Fault} {c c' : Cursor} {b : β} :
    failAfterKey fault c ≠ .ok (b, c') := by
  intro h
  obtain ⟨o, c₁, -, hrun⟩ := bind_eq_ok h
  split at hrun
  · exact nomatch hrun
  · exact nomatch hrun

/-- Where the members of an object go on, one is taken and fills what is known; where they
    do not, the brace is next. -/
theorem members_step (d : r.Explains slots) {n : Nat} {first : Bool} {s s' : σ} {w : Filled}
    {c c' : Cursor} (hknows : d.Knows s w) (h : r.members (n + 1) first s c = .ok (s', c')) :
    (∃ name cs s₁ w₁ c₁ lead ws cs', Lead first lead ∧ Spaces ws ∧
        MemberSpelling (name, cs) cs' ∧ c.rest = lead ++ (ws ++ (cs' ++ c₁.rest)) ∧
        d.Knows s₁ w₁ ∧ r.members n false s₁ c₁ = .ok (s', c') ∧
        ∀ {w' members}, Fills r w₁ w' members → Fills r w w' ((name, cs) :: members)) ∨
      (s' = s ∧ ∃ ws rest p, Spaces ws ∧ c.rest = ws ++ '\x7d' :: rest ∧
        c' = ⟨'\x7d' :: rest, p⟩) := by
  rw [Record.members] at h
  obtain ⟨o, c₁, hkey, hrun⟩ := bind_eq_ok h
  rcases nextKey_taken hkey with
    ⟨name, rfl, lead, ws, key, hlead, hws, hname, hrest⟩ | ⟨rfl, hbrace⟩
  · refine Or.inl ?_
    cases hfind : r.fields.find? fun f => f.name == name with
    | some f =>
      -- A field, which has not been read before.
      simp only [hfind] at hrun
      have hf : f ∈ r.fields := List.mem_of_find?_eq_some hfind
      obtain rfl : f.name = name := by simpa using List.find?_some hfind
      split at hrun
      · exact absurd hrun failAfterKey_ne_ok
      · next hset =>
        obtain ⟨_, c₂, hcolon, hrun⟩ := bind_eq_ok hrun
        obtain ⟨s₁, c₃, hread, hrun⟩ := bind_eq_ok hrun
        obtain ⟨us, hus, hc₁⟩ := colon_taken hcolon
        obtain ⟨vs, cs, hvs, hknows₁, hc₂⟩ := d.read hknows f hf hread
        have hempty : w f.name = none := by
          rw [d.isSet_eq hknows f hf] at hset
          simpa using hset
        refine ⟨f.name, cs, s₁, _, c₃, lead, ws, _, hlead, hws,
          MemberSpelling.keyed hname hus hvs, ?_, hknows₁, hrun, fun h => h.field hf hempty⟩
        rw [hrest, hc₁, hc₂]
        simp only [List.append_assoc, List.cons_append]
    | none =>
      -- Another member, which an open record has skipped.
      simp only [hfind] at hrun
      split at hrun
      · exact absurd hrun failAfterKey_ne_ok
      · next hclosed =>
        obtain ⟨_, c₂, hcolon, hrun⟩ := bind_eq_ok hrun
        obtain ⟨_, c₃, hskip, hrun⟩ := bind_eq_ok hrun
        obtain ⟨us, hus, hc₁⟩ := colon_taken hcolon
        obtain ⟨vs, cs, hvs, hcs, hc₂⟩ := takes_skipValue hskip
        have hother : name ∉ r.fields.map (·.name) := by
          intro hmem
          obtain ⟨f, hf, rfl⟩ := List.mem_map.mp hmem
          exact List.find?_eq_none.mp hfind f hf (beq_self_eq_true f.name)
        refine ⟨name, cs, s, w, c₃, lead, ws, _, hlead, hws,
          MemberSpelling.keyed hname hus hvs, ?_, hknows, hrun,
          fun h => h.other hother (by simpa using hclosed) hcs⟩
        rw [hrest, hc₁, hc₂]
        simp only [List.append_assoc, List.cons_append]
  · obtain ⟨rfl, rfl⟩ := pure_eq_ok hrun
    exact Or.inr ⟨rfl, hbrace⟩

/-- The members of an object are taken up to its brace, and they fill what is known. -/
theorem members_taken (d : r.Explains slots) :
    ∀ (n : Nat) {first : Bool} {s s' : σ} {w : Filled} {c c' : Cursor}, d.Knows s w →
      r.members n first s c = .ok (s', c') →
      ∃ members cs w' rest p, Leaves MemberSpelling first members cs ∧ d.Knows s' w' ∧
        Fills r w w' members ∧ c.rest = cs ++ '\x7d' :: rest ∧ c' = ⟨'\x7d' :: rest, p⟩ := by
  intro n
  induction n with
  | zero =>
      intro first s s' w c c' _ h
      exact nomatch h
  | succ n ih =>
      intro first s s' w c c' hknows h
      rcases members_step d hknows h with
        ⟨name, cs, s₁, w₁, c₁, lead, ws, cs', hlead, hws, hmember, hc, hknows₁, hrun, hfill⟩ |
        ⟨rfl, ws, rest, p, hws, hc, rfl⟩
      · obtain ⟨members, ds, w', rest, p, hds, hknows', hfills, hc₁, rfl⟩ := ih hknows₁ hrun
        refine ⟨_, _, w', rest, p, hds.cons hlead hws hmember, hknows', hfill hfills, ?_, rfl⟩
        rw [hc, hc₁]
        simp only [List.append_assoc]
      · exact ⟨[], ws, w, rest, p, Leaves.nothing hws, hknows, Fills.nil r w, hc, rfl⟩

/-- The slots of a record are those of its fields. -/
theorem Explains.exists_field (d : r.Explains slots) {a : α} {slot : String × Slot}
    (hslot : slot ∈ slots a) : ∃ f ∈ r.fields, f.name = slot.1 := by
  have hmem : slot.1 ∈ r.fields.map (·.name) := by
    rw [← d.names_eq a]
    exact List.mem_map_of_mem hslot
  exact List.mem_map.mp hmem

/-! ## As a list -/

/-- Where no fields have been written those that are left may be missing. -/
theorem inOrder_nil {fields : List (String × Slot)} (h : ∀ slot ∈ fields, slot.2 none) :
    InOrder fields [] := by
  induction fields with
  | nil => rfl
  | cons slot fields ih =>
      exact ⟨h slot List.mem_cons_self, ih fun s hs => h s (List.mem_cons_of_mem slot hs)⟩

/-- The fields of these names, each written just as it has been filled. -/
def exactly (w : Filled) (names : List String) : List (String × Slot) :=
  names.map fun name => (name, fun value => value = w name)

/-- The slots of fields that have been filled one after the other are filled in order. -/
theorem inOrder_of_exactly {w : Filled} {fields : List (String × Slot)} :
    ∀ {values : List (List Char)}, (∀ slot ∈ fields, slot.2 (w slot.1)) →
      InOrder (exactly w (fields.map (·.1))) values → InOrder fields values := by
  induction fields with
  | nil => exact fun _ h => h
  | cons slot fields ih =>
      intro values hslots h
      obtain ⟨hhead, htail⟩ := h
      refine ⟨?_, ih (fun s hs => hslots s (List.mem_cons_of_mem slot hs)) htail⟩
      rw [show values.head? = w slot.1 from hhead]
      exact hslots slot List.mem_cons_self

/-- Behind the end of a list no field is read. -/
theorem ordered_closed (fields : List (Member σ)) :
    ∀ {i : Nat} {s s' : σ} {rest : List Char} {p : Position} {c' : Cursor},
      r.ordered fields i s ⟨']' :: rest, p⟩ = .ok (s', c') → s' = s ∧ c'.rest = ']' :: rest := by
  induction fields with
  | nil =>
      intro i s s' rest p c' h
      cases h
      exact ⟨rfl, rfl⟩
  | cons f fields ih =>
      intro i s s' rest p c' h
      obtain ⟨p', hnext⟩ := nextElement_close (i == 0) Spaces.nil rest p
      rw [List.nil_append] at hnext
      rw [Record.ordered, bind_ok hnext, if_neg Bool.false_ne_true] at h
      split at h
      · exact ih h
      · exact absurd h failNext_ne_ok

/-- The elements of a list fill the fields that are left, in their order. -/
theorem ordered_taken (d : r.Explains slots) (fields : List (Member σ)) :
    ∀ {i : Nat} {s s' : σ} {w : Filled} {c c' : Cursor} {us rest : List Char},
      fields ⊆ r.fields → (fields.map (·.name)).Nodup → (∀ f ∈ fields, w f.name = none) →
      d.Knows s w → r.ordered fields i s c = .ok (s', c') → Spaces us →
      c'.rest = us ++ ']' :: rest →
      ∃ values cs w', Leaves (fun value cs => cs = value) (i == 0) values cs ∧
        d.Knows s' w' ∧ (∀ name ∉ fields.map (·.name), w' name = w name) ∧
        InOrder (exactly w' (fields.map (·.name))) values ∧ c.rest = cs ++ ']' :: rest := by
  induction fields with
  | nil =>
      intro i s s' w c c' us rest _ _ _ hknows h hus hc'
      obtain ⟨rfl, rfl⟩ := pure_eq_ok h
      exact ⟨[], us, w, Leaves.nothing hus, hknows, fun _ _ => rfl, rfl, hc'⟩
  | cons f fields ih =>
      intro i s s' w c c' us rest hsub hnodup hempty hknows h hus hc'
      rw [Record.ordered] at h
      obtain ⟨more, c₁, hmore, hrun⟩ := bind_eq_ok h
      rcases nextElement_taken hmore with
        ⟨rfl, lead, ws, hlead, hws, hc⟩ | ⟨rfl, ws, tail, p, hws, hc, rfl⟩
      · -- An element fills the field, and no field that is left has its name.
        obtain ⟨s₁, c₂, hread, hrun⟩ := bind_eq_ok (r := f.read s) hrun
        obtain ⟨vs, cs, hvs, hknows₁, hc₁⟩ := d.read hknows f (hsub List.mem_cons_self) hread
        rw [List.map_cons, List.nodup_cons] at hnodup
        have hempty₁ : ∀ g ∈ fields, Function.update w f.name (some cs) g.name = none := by
          intro g hg
          have hne : g.name ≠ f.name := fun heq => hnodup.1 (heq ▸ List.mem_map_of_mem hg)
          rw [Function.update_of_ne hne]
          exact hempty g (List.mem_cons_of_mem f hg)
        obtain ⟨values, ds, w', hds, hknows', hsame, horder, hc₂⟩ :=
          ih (fun g hg => hsub (List.mem_cons_of_mem f hg)) hnodup.2 hempty₁ hknows₁ hrun hus hc'
        have hself : w' f.name = some cs := by
          rw [hsame f.name hnodup.1, Function.update_self]
        refine ⟨cs :: values, _, w', hds.cons hlead (hws.append hvs) rfl, hknows',
          fun name hname => ?_, ⟨hself.symm, horder⟩, ?_⟩
        · rw [List.map_cons, List.mem_cons, not_or] at hname
          rw [hsame name hname.2, Function.update_of_ne hname.1]
        · rw [hc, hc₁, hc₂]
          simp only [List.append_assoc]
      · -- The list is over, and what is left stays empty.
        rw [if_neg Bool.false_ne_true] at hrun
        split at hrun
        · obtain ⟨rfl, htail⟩ := ordered_closed fields hrun
          refine ⟨[], ws ++ us, w, Leaves.nothing (hws.append hus), hknows, fun _ _ => rfl,
            inOrder_nil ?_, ?_⟩
          · intro slot hslot
            obtain ⟨name, hname, rfl⟩ := List.mem_map.mp hslot
            obtain ⟨g, hg, rfl⟩ := List.mem_map.mp hname
            exact (hempty g hg).symm
          · rw [hc, ← htail, hc', List.append_assoc]
        · exact absurd hrun failNext_ne_ok

/-! ## Either way -/

/-- Members between braces spell the record that they have been read as. -/
theorem members_spelling (d : r.Explains slots) {n : Nat} {s : σ} {a : α} {c c' : Cursor}
    (h : r.members n true r.initial c = .ok (s, c')) (hfinish : r.finish s = .ok a) :
    ∃ cs rest p,
      RecordSpelling (slots a) r.closed
        (Enclosure.object.opening :: (cs ++ [Enclosure.object.closing])) ∧
      c.rest = cs ++ '\x7d' :: rest ∧ c' = ⟨'\x7d' :: rest, p⟩ := by
  obtain ⟨members, cs, w, rest, p, hmembers, hknows, hfills, hc, hc'⟩ :=
    members_taken d n d.initial h
  refine ⟨cs, rest, p, RecordSpelling.object (hmembers.enclosed .object) ?_ ?_, hc, hc'⟩
  · intro slot hslot
    obtain ⟨f, hf, hname⟩ := d.exists_field hslot
    refine ⟨w slot.1, ?_, d.finish hknows hfinish slot hslot⟩
    rw [← hname, hfills.known f hf]
    rfl
  · intro m hm hname
    rw [d.names_eq a] at hname
    exact hfills.others m hm hname

/-- Elements between brackets spell the record that they have been read as. -/
theorem ordered_spelling (d : r.Explains slots) {s : σ} {a : α} {c c₁ c' : Cursor}
    (h : r.ordered r.fields 0 r.initial c = .ok (s, c₁)) (hfinish : r.finish s = .ok a)
    (hclose : closeList c₁ = .ok ((), c')) :
    ∃ cs,
      RecordSpelling (slots a) r.closed
        (Enclosure.list.opening :: (cs ++ [Enclosure.list.closing])) ∧
      c.rest = cs ++ ']' :: c'.rest := by
  obtain ⟨us, hus, hc₁⟩ := closeList_taken hclose
  obtain ⟨values, cs, w, hvalues, hknows, -, horder, hc⟩ :=
    ordered_taken d r.fields (List.Subset.refl _) d.nodup (fun _ _ => rfl) d.initial h hus hc₁
  refine ⟨cs, RecordSpelling.list (hvalues.enclosed .list) ?_, hc⟩
  rw [← d.names_eq a] at horder
  exact inOrder_of_exactly (d.finish hknows hfinish) horder

/-- **What is read as a record is written as one.** -/
theorem takes (d : r.Explains slots) :
    Takes r.read fun a => RecordSpelling (slots a) r.closed := by
  intro c c' a h
  unfold Record.read at h
  obtain ⟨o, c₁, hnext, hrun⟩ := bind_eq_ok h
  split at hrun
  · obtain ⟨ws, xs, p, hws, hc, rfl⟩ := next_some hnext
    rw [advance_bind] at hrun
    obtain ⟨s, c₂, hordered, hrun⟩ := bind_eq_ok hrun
    cases hfinish : r.finish s with
    | error name =>
        rw [hfinish] at hrun
        exact nomatch hrun
    | ok b =>
        rw [hfinish] at hrun
        obtain ⟨_, c₃, hclose, hpure⟩ := bind_eq_ok hrun
        obtain ⟨rfl, rfl⟩ := pure_eq_ok hpure
        obtain ⟨cs, hcs, hxs⟩ := ordered_spelling d hordered hfinish hclose
        exact ⟨ws, _, hws, hcs, rest_enclosed .list hc hxs⟩
  · obtain ⟨ws, xs, p, hws, hc, rfl⟩ := next_some hnext
    rw [advance_bind, bind_ok (get_ok _)] at hrun
    obtain ⟨s, c₂, hmembers, hrun⟩ := bind_eq_ok hrun
    cases hfinish : r.finish s with
    | error name =>
        rw [hfinish] at hrun
        exact nomatch hrun
    | ok b =>
        rw [hfinish] at hrun
        obtain ⟨cs, rest, p, hcs, hxs, rfl⟩ := members_spelling d hmembers hfinish
        cases hrun
        exact ⟨ws, _, hws, hcs, rest_enclosed .object hc hxs⟩
  · exact absurd hrun mismatch_ne_ok

end Record

end WastePass.Json
