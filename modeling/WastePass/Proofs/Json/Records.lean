import WastePass.Proofs.Json.Lists

/-!
# Records — fields in any order, or as a list, are read into one value

    `Record.Describes` ties a record to the fields of a value: what has been read so far
    depends only on which fields those were.  From it `Record.decodes` reads every
    spelling of the value, whatever the order of its members and whatever stands among
    them.
-/

namespace WastePass.Json

variable {σ α : Type}

/-- The record reads this value from fields that are written as the slots allow.  Its `state`
    is what is known once the fields of some names have been read. -/
structure Record.Describes (r : Record σ α) (slots : List (Member σ × Slot)) (a : α) where
  state : List String → σ
  fields_eq : r.fields = slots.map (·.1)
  nodup : (slots.map (·.1.name)).Nodup
  state_nil : state [] = r.initial
  isSet_eq : ∀ m ∈ slots, ∀ seen, m.1.isSet (state seen) = true ↔ m.1.name ∈ seen
  reads : ∀ m ∈ slots, ∀ cs seen, m.2 (some cs) →
    Starts cs ∧ Reads (m.1.read (state seen)) cs (state (m.1.name :: seen))
  optional_of_none : ∀ m ∈ slots, m.2 none → m.1.optional = true
  finish_eq : ∀ seen, (∀ m ∈ slots, m.1.name ∈ seen ∨ m.2 none) → r.finish (state seen) = .ok a

/-- The names of the fields and how each is written. -/
def spellings (slots : List (Member σ × Slot)) : List (String × Slot) :=
  slots.map fun m => (m.1.name, m.2)

/-! ## As an object -/

/-- The values of a member's own name. -/
theorem valuesOf_cons_self (name : String) (cs : List Char)
    (members : List (String × List Char)) :
    valuesOf name ((name, cs) :: members) = cs :: valuesOf name members := by
  unfold valuesOf
  rw [List.filter_cons_of_pos (by simp)]
  rfl

/-- A member of another name changes nothing. -/
theorem valuesOf_cons_ne {name other : String} (h : other ≠ name) (cs : List Char)
    (members : List (String × List Char)) :
    valuesOf name ((other, cs) :: members) = valuesOf name members := by
  unfold valuesOf
  rw [List.filter_cons_of_neg (by simpa using h)]

/-- What the members that are left have to be when these fields have been read: no field
    comes twice, each is written as its slot allows, and others are skipped. -/
structure Fits (slots : List (Member σ × Slot)) (closed : Bool) (seen : List String)
    (members : List (String × List Char)) : Prop where
  known : ∀ m ∈ slots, valuesOf m.1.name members = [] ∨
    m.1.name ∉ seen ∧ ∃ cs, valuesOf m.1.name members = [cs] ∧ m.2 (some cs)
  others : ∀ m ∈ members, m.1 ∉ slots.map (·.1.name) → closed = false ∧ Value m.2

/-- Reading a field leaves members that fit. -/
theorem Fits.field {slots : List (Member σ × Slot)} {closed : Bool} {seen : List String}
    {m : Member σ × Slot} {cs : List Char} {members : List (String × List Char)}
    (h : Fits slots closed seen ((m.1.name, cs) :: members)) (hm : m ∈ slots) :
    m.1.name ∉ seen ∧ m.2 (some cs) ∧ Fits slots closed (m.1.name :: seen) members := by
  have hself := h.known m hm
  rw [valuesOf_cons_self] at hself
  obtain hnone | ⟨hseen, ds, hds, hslot⟩ := hself
  · exact nomatch hnone
  obtain ⟨rfl, hrest⟩ := List.cons.inj hds
  refine ⟨hseen, hslot, ⟨fun k hk => ?_, fun k hk => h.others k (List.mem_cons_of_mem _ hk)⟩⟩
  by_cases heq : m.1.name = k.1.name
  · rw [← heq]
    exact Or.inl hrest
  · have hk' := h.known k hk
    rw [valuesOf_cons_ne heq] at hk'
    refine hk'.imp_right fun ⟨hseen, hvalue⟩ => ⟨?_, hvalue⟩
    rw [List.mem_cons]
    rintro (hname | hname)
    · exact heq hname.symm
    · exact hseen hname

/-- Skipping a member leaves members that fit. -/
theorem Fits.other {slots : List (Member σ × Slot)} {closed : Bool} {seen : List String}
    {name : String} {cs : List Char} {members : List (String × List Char)}
    (h : Fits slots closed seen ((name, cs) :: members)) (hname : name ∉ slots.map (·.1.name)) :
    closed = false ∧ Value cs ∧ Fits slots closed seen members := by
  obtain ⟨hclosed, hvalue⟩ := h.others _ List.mem_cons_self hname
  refine ⟨hclosed, hvalue, fun k hk => ?_, fun k hk => h.others k (List.mem_cons_of_mem _ hk)⟩
  have hne : name ≠ k.1.name := by
    rintro rfl
    exact hname (List.mem_map_of_mem hk)
  have hk' := h.known k hk
  rwa [valuesOf_cons_ne hne] at hk'

namespace Record

open Reader

variable {r : Record σ α} {slots : List (Member σ × Slot)} {a : α}

/-- The field of a name. -/
theorem find_field (hfields : r.fields = slots.map (·.1)) (hnodup : (slots.map (·.1.name)).Nodup)
    {m : Member σ × Slot} (hm : m ∈ slots) :
    (r.fields.find? fun f => f.name == m.1.name) = some m.1 := by
  rw [hfields]
  clear hfields
  induction slots with
  | nil => exact nomatch hm
  | cons k slots ih =>
      rw [List.map_cons, List.nodup_cons] at hnodup
      rw [List.map_cons]
      rcases List.mem_cons.mp hm with rfl | hm
      · exact List.find?_cons_of_pos (by simp)
      · have hne : k.1.name ≠ m.1.name := by
          intro heq
          exact hnodup.1 (heq ▸ List.mem_map_of_mem hm)
        rw [List.find?_cons_of_neg (by simpa using hne)]
        exact ih hnodup.2 hm

/-- No field has another name. -/
theorem find_other (hfields : r.fields = slots.map (·.1)) {name : String}
    (hname : name ∉ slots.map (·.1.name)) :
    (r.fields.find? fun f => f.name == name) = none := by
  rw [hfields, List.find?_eq_none]
  intro f hf heq
  obtain ⟨m, hm, rfl⟩ := List.mem_map.mp hf
  exact hname (List.mem_map.mpr ⟨m, hm, by simpa using heq⟩)

/-- A key with what stands in front of it and its colon. -/
theorem key_append {name : String} {first : Bool} {lead us key ws : List Char}
    (hlead : Lead first lead) (hus : Spaces us) (hkey : TextSpelling name key)
    (hws : Spaces ws) (rest : List Char) (p : Position) :
    ∃ c p', nextKey first ⟨lead ++ (us ++ (key ++ (ws ++ ':' :: rest))), p⟩ = .ok (some name, c) ∧
      colon c = .ok ((), ⟨rest, p'⟩) := by
  obtain ⟨p₁, h₁⟩ := nextKey_append hlead hus hkey (ws ++ ':' :: rest) p
  obtain ⟨p₂, h₂⟩ := colon_append hws rest p₁
  exact ⟨_, p₂, h₁, h₂⟩

/-- What reading one member does: a field moves on to what is then known, another member
    is skipped. -/
theorem members_member (d : r.Describes slots a) {seen : List String}
    {name : String} {cs cs' : List Char} {members : List (String × List Char)}
    (hfits : Fits slots r.closed seen ((name, cs) :: members))
    (hmember : MemberSpelling (name, cs) cs') {first : Bool} {lead us rest : List Char}
    (hlead : Lead first lead) (hus : Spaces us) (hrest : Follow rest) (n : Nat)
    (p : Position) :
    ∃ seen' p', Fits slots r.closed seen' members ∧ seen ⊆ seen' ∧
      (name ∈ slots.map (·.1.name) → name ∈ seen') ∧
      r.members (n + 1) first (d.state seen) ⟨lead ++ (us ++ (cs' ++ rest)), p⟩
        = r.members n false (d.state seen') ⟨rest, p'⟩ := by
  cases hmember with
  | @keyed _ key ws vs _ hkey hws hvs =>
      obtain ⟨c, p₁, h₁, h₂⟩ := key_append hlead hus hkey hws (vs ++ (cs ++ rest)) p
      by_cases hname : name ∈ slots.map (·.1.name)
      · -- A field, which cannot have been read before.
        obtain ⟨m, hm, rfl⟩ := List.mem_map.mp hname
        obtain ⟨hseen, hslot, hfits'⟩ := hfits.field hm
        obtain ⟨p₂, h₃⟩ := (d.reads m hm cs seen hslot).2 vs rest p₁ hvs hrest
        have hset : m.1.isSet (d.state seen) = false :=
          Bool.eq_false_iff.mpr (mt (d.isSet_eq m hm seen).mp hseen)
        refine ⟨m.1.name :: seen, p₂, hfits', List.subset_cons_self _ _,
          fun _ => List.mem_cons_self, ?_⟩
        simp only [List.append_assoc, List.cons_append]
        rw [Record.members, bind_ok h₁]
        simp only [find_field d.fields_eq d.nodup hm, hset]
        show (colon >>= fun _ => m.1.read (d.state seen) >>= _) _ = _
        rw [bind_ok h₂, bind_ok h₃]
      · -- Another member, which an open record skips whole.
        obtain ⟨hclosed, hvalue, hfits'⟩ := hfits.other hname
        obtain ⟨p₂, h₃⟩ := reads_skipValue hvalue vs rest p₁ hvs hrest
        refine ⟨seen, p₂, hfits', List.Subset.refl _, fun h => absurd h hname, ?_⟩
        simp only [List.append_assoc, List.cons_append]
        rw [Record.members, bind_ok h₁]
        simp only [find_other d.fields_eq hname, hclosed]
        show (colon >>= fun _ => skipValue >>= fun _ => _) _ = _
        rw [bind_ok h₂, bind_ok h₃]

/-- A field of the member at hand has been read when the member has; any other has its
    members among those that are left. -/
theorem seen_cons {name : String} {value : List Char} {members : List (String × List Char)}
    {seen seen' : List String} (hname : name ∈ slots.map (·.1.name) → name ∈ seen)
    (hsub : seen ⊆ seen')
    (hleft : ∀ m ∈ slots, valuesOf m.1.name members ≠ [] → m.1.name ∈ seen') :
    ∀ m ∈ slots, valuesOf m.1.name ((name, value) :: members) ≠ [] → m.1.name ∈ seen' := by
  intro m hm hvalues
  by_cases heq : name = m.1.name
  · subst heq
    exact hsub (hname (List.mem_map_of_mem hm))
  · rw [valuesOf_cons_ne heq] at hvalues
    exact hleft m hm hvalues

/-- The members of an object up to its brace: in the end every field that has a member has
    been read. -/
theorem members_append (d : r.Describes slots a) {members : List (String × List Char)}
    {cs : List Char} (h : Items MemberSpelling members cs) (rest : List Char) :
    ∀ (n : Nat) (first : Bool) (lead : List Char) (seen : List String) (p : Position),
      Lead first lead → members.length < n → Fits slots r.closed seen members →
      ∃ seen' p', seen ⊆ seen' ∧
        (∀ m ∈ slots, valuesOf m.1.name members ≠ [] → m.1.name ∈ seen') ∧
        r.members n first (d.state seen) ⟨lead ++ (cs ++ '\x7d' :: rest), p⟩
          = .ok (d.state seen', ⟨'\x7d' :: rest, p'⟩) := by
  induction h with
  | @last member us cs vs hus hmember hvs =>
      intro n first lead seen p hlead hn hfits
      obtain ⟨m, rfl⟩ : ∃ m, n = m + 2 := ⟨n - 2, by simp at hn; omega⟩
      have hfollow : Follow (vs ++ '\x7d' :: rest) := (Follow.closing .object rest).spaces hvs
      obtain ⟨seen', p₁, -, hsub, hname, h₁⟩ :=
        members_member d hfits hmember hlead hus hfollow (m + 1) p
      obtain ⟨p₂, h₂⟩ := nextKey_close false hvs rest p₁
      refine ⟨seen', p₂, hsub, seen_cons hname (List.Subset.refl _) (fun _ _ h => absurd rfl h), ?_⟩
      rw [List.append_assoc, List.append_assoc, h₁, Record.members, bind_ok h₂]
      rfl
  | @more member members us cs vs ds hus hmember hvs _ ih =>
      intro n first lead seen p hlead hn hfits
      obtain ⟨m, rfl⟩ : ∃ m, n = m + 1 := ⟨n - 1, by simp at hn; omega⟩
      have hfollow : Follow (vs ++ ',' :: (ds ++ '\x7d' :: rest)) :=
        (Follow.comma _).spaces hvs
      obtain ⟨seen₁, p₁, hfits₁, hsub₁, hname, h₁⟩ :=
        members_member d hfits hmember hlead hus hfollow m p
      obtain ⟨seen₂, p₂, hsub₂, hleft, h₂⟩ :=
        ih m false (vs ++ [',']) seen₁ p₁ (Lead.comma hvs) (by simpa using hn) hfits₁
      refine ⟨seen₂, p₂, List.Subset.trans hsub₁ hsub₂, seen_cons hname hsub₂ hleft, ?_⟩
      rw [List.append_assoc, List.singleton_append] at h₂
      rw [List.append_assoc, List.append_assoc, List.append_assoc, List.cons_append, h₁, h₂]

/-- Members that spell the fields fit. -/
theorem fits_of_known {closed : Bool} {members : List (String × List Char)}
    (known : ∀ field ∈ spellings slots, ∃ value : Option (List Char),
      valuesOf field.1 members = value.toList ∧ field.2 value)
    (others : ∀ m ∈ members, m.1 ∉ (spellings slots).map (·.1) → closed = false ∧ Value m.2) :
    Fits slots closed [] members := by
  refine ⟨fun m hm => ?_, fun m hm hname => others m hm ?_⟩
  · obtain ⟨value, hvalues, hslot⟩ := known (m.1.name, m.2) (List.mem_map_of_mem hm)
    cases value with
    | none => exact Or.inl hvalues
    | some cs => exact Or.inr ⟨List.not_mem_nil, cs, hvalues, hslot⟩
  · unfold spellings
    rwa [List.map_map]

/-- The members between the braces of an object. -/
theorem members_object (d : r.Describes slots a) {members : List (String × List Char)}
    {cs : List Char} (h : ObjectSpelling members cs) (hfits : Fits slots r.closed [] members) :
    ∃ inner, cs = Enclosure.object.opening :: (inner ++ [Enclosure.object.closing]) ∧
      ∀ rest p, ∃ seen p',
        (∀ m ∈ slots, valuesOf m.1.name members ≠ [] → m.1.name ∈ seen) ∧
        r.members ((inner ++ Enclosure.object.closing :: rest).length + 1) true r.initial
            ⟨inner ++ Enclosure.object.closing :: rest, p⟩
          = .ok (d.state seen, ⟨Enclosure.object.closing :: rest, p'⟩) := by
  rw [← d.state_nil]
  cases h with
  | @empty ws hws =>
      refine ⟨ws, rfl, fun rest p => ?_⟩
      obtain ⟨p', hp'⟩ := nextKey_close true hws rest p
      refine ⟨[], p', fun m hm hvalues => absurd rfl hvalues, ?_⟩
      rw [Record.members]
      exact bind_ok hp'
  | @items _ inner h =>
      refine ⟨inner, rfl, fun rest p => ?_⟩
      -- The bound is the length of what is left, and a member has at least a character.
      have hlen : members.length < (inner ++ Enclosure.object.closing :: rest).length + 1 := by
        have := h.length_le (fun {m cs} hm => by
          cases hm with
          | keyed hkey _ _ => exact List.append_ne_nil_of_left_ne_nil hkey.starts.ne_nil _)
        simp
        omega
      obtain ⟨seen, p', -, hseen, hp'⟩ :=
        members_append d h rest _ true [] [] p Lead.first hlen hfits
      exact ⟨seen, p', hseen, hp'⟩

/-- A record written as an object. -/
theorem reads_object (d : r.Describes slots a) {members : List (String × List Char)}
    {cs : List Char} (h : ObjectSpelling members cs)
    (known : ∀ field ∈ spellings slots, ∃ value : Option (List Char),
      valuesOf field.1 members = value.toList ∧ field.2 value)
    (others : ∀ m ∈ members, m.1 ∉ (spellings slots).map (·.1) → r.closed = false ∧ Value m.2) :
    Reads r.read cs a := by
  intro us rest p hus _
  obtain ⟨inner, rfl, hmembers⟩ := members_object d h (fits_of_known known others)
  obtain ⟨p₁, h₁⟩ := enclosed_append .object hus inner rest p
  obtain ⟨seen, p₂, hseen, h₂⟩ := hmembers rest (p₁.after Enclosure.object.opening)
  -- A field without a member is one that may be left out.
  have hfinish : r.finish (d.state seen) = .ok a := by
    refine d.finish_eq seen fun m hm => ?_
    obtain ⟨value, hvalues, hslot⟩ := known (m.1.name, m.2) (List.mem_map_of_mem hm)
    cases value with
    | none => exact Or.inr hslot
    | some cs => exact Or.inl (hseen m hm (by simp [hvalues]))
  refine ⟨p₂.after Enclosure.object.closing, ?_⟩
  unfold Record.read
  rw [bind_ok h₁]
  show (advance >>= fun _ => get >>= fun c => r.members (c.rest.length + 1) true _ >>= _) _ = _
  rw [bind_ok (advance_cons _ _ _), bind_ok (get_ok _), bind_ok h₂, hfinish]
  rfl

/-! ## As a list -/

/-- At the end of the list the fields that are left are those that may be left out. -/
theorem ordered_close (d : r.Describes slots a) (rest : List Char) (seen : List String) :
    ∀ (left : List (Member σ × Slot)) (i : Nat) (ws : List Char) (p : Position),
      left ⊆ slots → (∀ m ∈ left, m.2 none) → Spaces ws →
      ∃ us p', Spaces us ∧
        r.ordered (left.map (·.1)) i (d.state seen) ⟨ws ++ ']' :: rest, p⟩
          = .ok (d.state seen, ⟨us ++ ']' :: rest, p'⟩) := by
  intro left
  induction left with
  | nil => exact fun i ws p _ _ hws => ⟨ws, p, hws, rfl⟩
  | cons m left ih =>
      intro i ws p hleft hnone hws
      obtain ⟨hm, hleft⟩ := List.cons_subset.mp hleft
      obtain ⟨p₁, h₁⟩ := nextElement_close (i == 0) hws rest p
      obtain ⟨us, p₂, hus, h₂⟩ := ih (i + 1) [] p₁ hleft
        (fun k hk => hnone k (List.mem_cons_of_mem m hk)) Spaces.nil
      refine ⟨us, p₂, hus, ?_⟩
      have hoptional : m.1.optional = true :=
        d.optional_of_none m hm (hnone m List.mem_cons_self)
      rw [List.map_cons, ordered, bind_ok h₁]
      show (if m.1.optional = true then r.ordered _ (i + 1) _ else _ : Reader σ) _ = _
      rw [if_pos hoptional]
      exact h₂

/-- Fields behind the last element are left out. -/
theorem none_of_inOrder_nil :
    ∀ {left : List (Member σ × Slot)}, InOrder (spellings left) [] → ∀ m ∈ left, m.2 none
  | [], _ => fun _ hm => nomatch hm
  | m :: left, h => by
      intro k hk
      rcases List.mem_cons.mp hk with rfl | hk
      · exact h.1
      · exact none_of_inOrder_nil h.2 k hk

/-- An element is read as the next field. -/
theorem ordered_element (d : r.Describes slots a) {m : Member σ × Slot} (hm : m ∈ slots)
    {value : List Char} (hslot : m.2 (some value)) {i : Nat} {lead ws rest : List Char}
    (hlead : Lead (i == 0) lead) (hws : Spaces ws) (hrest : Follow rest)
    (left : List (Member σ)) (seen : List String) (p : Position) :
    ∃ p', r.ordered (m.1 :: left) i (d.state seen) ⟨lead ++ (ws ++ (value ++ rest)), p⟩
      = r.ordered left (i + 1) (d.state (m.1.name :: seen)) ⟨rest, p'⟩ := by
  obtain ⟨c, p', h₁, h₂⟩ := element_append hlead hws (d.reads m hm value seen hslot) hrest p
  refine ⟨p', ?_⟩
  rw [ordered, bind_ok h₁]
  show (m.1.read (d.state seen) >>= _) _ = _
  rw [bind_ok h₂]

/-- The elements of a list of fields, up to its bracket: in the end every field has been read
    or may be left out. -/
theorem ordered_append (d : r.Describes slots a) {values : List (List Char)} {cs : List Char}
    (h : Items (fun value cs => cs = value) values cs) (rest : List Char) :
    ∀ (left : List (Member σ × Slot)) (i : Nat) (lead : List Char) (seen : List String)
      (p : Position), left ⊆ slots → InOrder (spellings left) values → Lead (i == 0) lead →
      ∃ seen' us p', Spaces us ∧ seen ⊆ seen' ∧
        (∀ m ∈ left, m.1.name ∈ seen' ∨ m.2 none) ∧
        r.ordered (left.map (·.1)) i (d.state seen) ⟨lead ++ (cs ++ ']' :: rest), p⟩
          = .ok (d.state seen', ⟨us ++ ']' :: rest, p'⟩) := by
  induction h with
  | @last value ws cs vs hws hvalue hvs =>
      intro left i lead seen p hleft horder hlead
      subst hvalue
      cases left with
      | nil => exact nomatch horder
      | cons m left =>
          obtain ⟨hm, hleft⟩ := List.cons_subset.mp hleft
          obtain ⟨hslot, horder⟩ := horder
          have hnone : ∀ k ∈ left, k.2 none := none_of_inOrder_nil horder
          have hfollow : Follow (vs ++ ']' :: rest) := (Follow.closing .list rest).spaces hvs
          obtain ⟨p₁, h₁⟩ :=
            ordered_element d hm hslot hlead hws hfollow (left.map (·.1)) seen p
          obtain ⟨us, p₂, hus, h₂⟩ :=
            ordered_close d rest (m.1.name :: seen) left (i + 1) vs p₁ hleft hnone hvs
          refine ⟨m.1.name :: seen, us, p₂, hus, List.subset_cons_self _ _, fun k hk => ?_, ?_⟩
          · rcases List.mem_cons.mp hk with rfl | hk
            · exact Or.inl List.mem_cons_self
            · exact Or.inr (hnone k hk)
          · rw [List.append_assoc, List.append_assoc, List.map_cons, h₁, h₂]
  | @more value values ws cs vs ds hws hvalue hvs _ ih =>
      intro left i lead seen p hleft horder hlead
      subst hvalue
      cases left with
      | nil => exact nomatch horder
      | cons m left =>
          obtain ⟨hm, hleft⟩ := List.cons_subset.mp hleft
          obtain ⟨hslot, horder⟩ := horder
          have hfollow : Follow (vs ++ ',' :: (ds ++ ']' :: rest)) := (Follow.comma _).spaces hvs
          obtain ⟨p₁, h₁⟩ :=
            ordered_element d hm hslot hlead hws hfollow (left.map (·.1)) seen p
          obtain ⟨seen', us, p₂, hus, hsub, hread, h₂⟩ :=
            ih left (i + 1) (vs ++ [',']) (m.1.name :: seen) p₁ hleft horder (Lead.comma hvs)
          obtain ⟨hname, hsub⟩ := List.cons_subset.mp hsub
          refine ⟨seen', us, p₂, hus, hsub, fun k hk => ?_, ?_⟩
          · rcases List.mem_cons.mp hk with rfl | hk
            · exact Or.inl hname
            · exact hread k hk
          · rw [List.append_assoc, List.singleton_append] at h₂
            rw [List.append_assoc, List.append_assoc, List.append_assoc, List.cons_append,
              List.map_cons, h₁, h₂]

/-- The elements between the brackets of a list of fields. -/
theorem ordered_list (d : r.Describes slots a) {values : List (List Char)} {cs : List Char}
    (h : ListSpelling (fun value cs => cs = value) values cs)
    (fits : InOrder (spellings slots) values) :
    ∃ inner, cs = Enclosure.list.opening :: (inner ++ [Enclosure.list.closing]) ∧
      ∀ rest p, ∃ seen us p', Spaces us ∧ (∀ m ∈ slots, m.1.name ∈ seen ∨ m.2 none) ∧
        r.ordered r.fields 0 r.initial ⟨inner ++ Enclosure.list.closing :: rest, p⟩
          = .ok (d.state seen, ⟨us ++ ']' :: rest, p'⟩) := by
  rw [d.fields_eq, ← d.state_nil]
  cases h with
  | @empty ws hws =>
      refine ⟨ws, rfl, fun rest p => ?_⟩
      have hnone : ∀ m ∈ slots, m.2 none := none_of_inOrder_nil fits
      obtain ⟨us, p', hus, hp'⟩ :=
        ordered_close d rest [] slots 0 ws p (List.Subset.refl slots) hnone hws
      exact ⟨[], us, p', hus, fun m hm => Or.inr (hnone m hm), hp'⟩
  | @items _ inner h =>
      refine ⟨inner, rfl, fun rest p => ?_⟩
      obtain ⟨seen, us, p', hus, -, hread, hp'⟩ :=
        ordered_append d h rest slots 0 [] [] p (List.Subset.refl slots) fits Lead.first
      exact ⟨seen, us, p', hus, hread, hp'⟩

/-- A record written as a list. -/
theorem reads_ordered (d : r.Describes slots a) {values : List (List Char)} {cs : List Char}
    (h : ListSpelling (fun value cs => cs = value) values cs)
    (fits : InOrder (spellings slots) values) : Reads r.read cs a := by
  intro us rest p hus _
  obtain ⟨inner, rfl, hordered⟩ := ordered_list d h fits
  obtain ⟨p₁, h₁⟩ := enclosed_append .list hus inner rest p
  obtain ⟨seen, ws, p₂, hws, hread, h₂⟩ := hordered rest (p₁.after Enclosure.list.opening)
  obtain ⟨p₃, h₃⟩ := closeList_append hws rest p₂
  refine ⟨p₃, ?_⟩
  unfold Record.read
  rw [bind_ok h₁]
  show (advance >>= fun _ => r.ordered r.fields 0 r.initial >>= _) _ = _
  rw [bind_ok (advance_cons _ _ _), bind_ok h₂, d.finish_eq seen hread]
  show (closeList >>= fun _ => pure a) _ = _
  rw [bind_ok h₃]
  rfl

/-- A record begins with a bracket. -/
theorem starts_of_spelling {fields : List (String × Slot)} {closed : Bool} {cs : List Char}
    (h : RecordSpelling fields closed cs) : Starts cs := by
  cases h with
  | object h _ _ => exact h.starts
  | list h _ => exact h.starts

/-- **Every spelling of a record is read** into the value that its fields describe. -/
theorem decodes {slots : α → List (Member σ × Slot)}
    (d : ∀ a, r.Describes (slots a) a) :
    Decodes r.read fun a => RecordSpelling (spellings (slots a)) r.closed := by
  intro a cs h
  refine ⟨starts_of_spelling h, ?_⟩
  cases h with
  | object h known others => exact reads_object (d a) h known others
  | list h fits => exact reads_ordered (d a) h fits

end Record

end WastePass.Json
