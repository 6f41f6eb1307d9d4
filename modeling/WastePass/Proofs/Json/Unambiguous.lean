import WastePass.Proofs.Blanks
import WastePass.Proofs.Json.Values

/-!
# Unambiguous notation — characters that write an object write no other

    `Unambiguous item`: in front of anything that may follow, no characters spell two
    different things, and none end in two places.  What a reader decodes is so, since the
    reader cannot stop in two places, and brackets keep it so.  An object of well-formed
    values is therefore taken apart into its members in one way only (`members_eq`).
-/

namespace WastePass.Json

variable {α : Type} {item item' : α → List Char → Prop}

/-- The characters and what follows them tell what is written and where it ends. -/
def Unambiguous (item : α → List Char → Prop) : Prop :=
  ∀ ⦃x y : α⦄ ⦃cs ds rest rest' : List Char⦄, item x cs → item y ds →
    Follow rest → Follow rest' → cs ++ rest = ds ++ rest' → x = y ∧ cs = ds

theorem Decodes.unambiguous {r : Reader α} (hr : Decodes r item) : Unambiguous item := by
  intro x y cs ds rest rest' hx hy hrest hrest' h
  obtain ⟨p, hp⟩ := (hr hx).2 [] rest Position.start Spaces.nil hrest
  obtain ⟨q, hq⟩ := (hr hy).2 [] rest' Position.start Spaces.nil hrest'
  rw [h, hq] at hp
  obtain ⟨rfl, hcursor⟩ := Prod.mk.inj (Except.ok.inj hp)
  obtain ⟨rfl, -⟩ := Cursor.mk.inj hcursor
  exact ⟨rfl, List.append_cancel_right h⟩

theorem unambiguous_text : Unambiguous TextSpelling :=
  Reader.decodes_text.unambiguous

theorem unambiguous_value : Unambiguous fun _ : Unit => Value :=
  Decodes.unambiguous (r := Reader.skipValue) fun h => ⟨h.starts, Reader.reads_skipValue h⟩

/-! ## Spaces -/

/-- The characters do not begin with a space. -/
def Solid (cs : List Char) : Prop :=
  ∀ c ∈ cs.head?, Cursor.isSpace c = false

theorem Solid.cons {c : Char} (hc : Cursor.isSpace c = false) (cs : List Char) :
    Solid (c :: cs) := by
  intro d hd
  cases hd
  exact hc

theorem Starts.solid {cs : List Char} (h : Starts cs) (rest : List Char) :
    Solid (cs ++ rest) := by
  obtain ⟨c, ds, rfl, hspace, -⟩ := h
  exact Solid.cons hspace (ds ++ rest)

theorem Spaces.append_inj {ws vs cs ds : List Char} (hws : Spaces ws) (hvs : Spaces vs)
    (hcs : Solid cs) (hds : Solid ds) (h : ws ++ cs = vs ++ ds) : ws = vs ∧ cs = ds := by
  have hspace : ∀ {us : List Char}, Spaces us → ∀ c ∈ us, Cursor.isSpace c = true := by
    intro us hus c hc
    rcases hus c hc with rfl | rfl | rfl | rfl <;> rfl
  have hrest : cs = ds := by
    rw [← dropWhile_append_of_head? (hspace hws) hcs, h,
      dropWhile_append_of_head? (hspace hvs) hds]
  subst hrest
  exact ⟨List.append_cancel_right h, rfl⟩

/-! ## Members -/

/-- A member with a value that is well-formed. -/
def ValueMember (m : String × List Char) (cs : List Char) : Prop :=
  MemberSpelling m cs ∧ Value m.2

theorem ValueMember.starts {m : String × List Char} {cs : List Char} (h : ValueMember m cs) :
    Starts cs :=
  (h.1.wellFormed h.2).starts

theorem Follow.colon (rest : List Char) : Follow (':' :: rest) := by
  intro c hc
  cases hc
  decide

theorem unambiguous_member : Unambiguous ValueMember := by
  rintro ⟨name, v⟩ ⟨other, v'⟩ _ _ rest rest' ⟨hm, hv⟩ ⟨hm', hv'⟩ hrest hrest' h
  cases hm with
  | @keyed _ key ws us _ hkey hws hus =>
      cases hm' with
      | @keyed _ key' ws' us' _ hkey' hws' hus' =>
          simp only [List.append_assoc, List.cons_append] at h
          -- One after the other: the key, the spaces around the colon, the value.
          obtain ⟨rfl, rfl⟩ := unambiguous_text hkey hkey' ((Follow.colon _).spaces hws)
            ((Follow.colon _).spaces hws') h
          obtain ⟨rfl, hcolon⟩ := hws.append_inj hws' (Solid.cons rfl _) (Solid.cons rfl _)
            (List.append_cancel_left h)
          obtain ⟨rfl, hvalue⟩ := hus.append_inj hus' (hv.starts.solid rest)
            (hv'.starts.solid rest') (List.cons.inj hcolon).2
          obtain ⟨-, hvv⟩ := unambiguous_value (x := ()) (y := ()) hv hv' hrest hrest' hvalue
          subst hvv
          exact ⟨rfl, rfl⟩

/-! ## Brackets -/

/-- What stands behind an item: a comma, or the bracket that closes. -/
def Ends (e : Enclosure) (c : Char) : Prop :=
  c = ',' ∨ c = e.closing

theorem Ends.follow {e : Enclosure} {c : Char} (hc : Ends e c) (rest : List Char) :
    Follow (c :: rest) := by
  rcases hc with rfl | rfl
  · exact Follow.comma rest
  · exact Follow.closing e rest

theorem Ends.solid {e : Enclosure} {c : Char} (hc : Ends e c) (rest : List Char) :
    Solid (c :: rest) := by
  rcases hc with rfl | rfl
  · exact Solid.cons rfl rest
  · cases e <;> exact Solid.cons rfl rest

theorem comma_ne_closing (e : Enclosure) : ',' ≠ e.closing := by
  cases e <;> decide

/-- An item and what stands around it are told by the characters. -/
theorem Unambiguous.step (hitem : Unambiguous item) (hstarts : ∀ {x cs}, item x cs → Starts cs)
    {e : Enclosure} {x y : α} {ws cs vs us ds ts rest rest' : List Char} {c d : Char}
    (hws : Spaces ws) (hx : item x cs) (hvs : Spaces vs) (hc : Ends e c)
    (hus : Spaces us) (hy : item y ds) (hts : Spaces ts) (hd : Ends e d)
    (h : ws ++ (cs ++ (vs ++ c :: rest)) = us ++ (ds ++ (ts ++ d :: rest'))) :
    (x = y ∧ c = d ∧ rest = rest') ∧ ws = us ∧ cs = ds ∧ vs = ts := by
  obtain ⟨rfl, hone⟩ := hws.append_inj hus ((hstarts hx).solid _) ((hstarts hy).solid _) h
  obtain ⟨rfl, rfl⟩ := hitem hx hy ((hc.follow rest).spaces hvs) ((hd.follow rest').spaces hts)
    hone
  obtain ⟨rfl, hrest⟩ := hvs.append_inj hts (hc.solid rest) (hd.solid rest')
    (List.append_cancel_left hone)
  obtain ⟨rfl, rfl⟩ := List.cons.inj hrest
  exact ⟨⟨rfl, rfl, rfl⟩, rfl, rfl, rfl⟩

theorem Items.unambiguous (e : Enclosure) (hitem : Unambiguous item)
    (hstarts : ∀ {x cs}, item x cs → Starts cs) {xs : List α} {cs : List Char}
    (h : Items item xs cs) :
    ∀ {ys : List α} {ds rest rest' : List Char}, Items item ys ds →
      cs ++ e.closing :: rest = ds ++ e.closing :: rest' → xs = ys ∧ cs = ds := by
  -- Item by item; behind each the same character stands in both, so both go on or both end.
  induction h with
  | last hws hx hvs =>
      intro ys ds rest rest' hys heq
      cases hys with
      | last hus hy hts =>
          simp only [List.append_assoc] at heq
          obtain ⟨⟨rfl, -, -⟩, rfl, rfl, rfl⟩ :=
            hitem.step hstarts hws hx hvs (.inr rfl) hus hy hts (.inr rfl) heq
          exact ⟨rfl, rfl⟩
      | more hus hy hts _ =>
          simp only [List.append_assoc, List.cons_append] at heq
          obtain ⟨⟨-, hend, -⟩, -⟩ :=
            hitem.step (e := e) hstarts hws hx hvs (.inr rfl) hus hy hts (.inl rfl) heq
          exact absurd hend.symm (comma_ne_closing e)
  | more hws hx hvs _ ih =>
      intro ys ds rest rest' hys heq
      cases hys with
      | last hus hy hts =>
          simp only [List.append_assoc, List.cons_append] at heq
          obtain ⟨⟨-, hend, -⟩, -⟩ :=
            hitem.step (e := e) hstarts hws hx hvs (.inl rfl) hus hy hts (.inr rfl) heq
          exact absurd hend (comma_ne_closing e)
      | more hus hy hts hys =>
          simp only [List.append_assoc, List.cons_append] at heq
          obtain ⟨⟨rfl, -, hrest⟩, rfl, rfl, rfl⟩ :=
            hitem.step (e := e) hstarts hws hx hvs (.inl rfl) hus hy hts (.inl rfl) heq
          obtain ⟨rfl, rfl⟩ := ih hys hrest
          exact ⟨rfl, rfl⟩

/-- Items do not begin with the bracket that closes them. -/
theorem Items.ne_closing (e : Enclosure) (hstarts : ∀ {x cs}, item x cs → Starts cs)
    {xs : List α} {cs ws rest rest' : List Char} (h : Items item xs cs) (hws : Spaces ws) :
    ws ++ e.closing :: rest ≠ cs ++ rest' := by
  have hone : ∀ {us one tail : List Char}, Spaces us → Starts one →
      ws ++ e.closing :: rest ≠ us ++ (one ++ tail) := by
    rintro us one tail hus hone heq
    obtain ⟨-, hclose⟩ := hws.append_inj hus (Ends.solid (.inr rfl) rest) (hone.solid tail) heq
    obtain ⟨c, ds, rfl, -, hlist, hobject⟩ := hone
    have hc : e.closing = c := (List.cons.inj hclose).1
    cases e
    · exact hlist hc.symm
    · exact hobject hc.symm
  cases h with
  | last hus hx _ =>
      rw [List.append_assoc, List.append_assoc]
      exact hone hus (hstarts hx)
  | more hus hx _ _ =>
      rw [List.append_assoc, List.append_assoc]
      exact hone hus (hstarts hx)

/-- Brackets around what is unambiguous are so too. -/
theorem unambiguous_enclosed (e : Enclosure) (hitem : Unambiguous item)
    (hstarts : ∀ {x cs}, item x cs → Starts cs) : Unambiguous (Enclosed e item) := by
  intro xs ys _ _ rest rest' hxs hys _ _ h
  cases hxs with
  | empty hws =>
      cases hys with
      | empty hvs =>
          simp only [List.cons_append, List.append_assoc, List.nil_append] at h
          obtain ⟨rfl, -⟩ := hws.append_inj hvs (Ends.solid (.inr rfl) rest)
            (Ends.solid (.inr rfl) rest') (List.cons.inj h).2
          exact ⟨rfl, rfl⟩
      | items hys =>
          simp only [List.cons_append, List.append_assoc, List.nil_append] at h
          exact absurd (List.cons.inj h).2 (hys.ne_closing e hstarts hws)
  | items hxs =>
      cases hys with
      | empty hvs =>
          simp only [List.cons_append, List.append_assoc, List.nil_append] at h
          exact absurd (List.cons.inj h).2.symm (hxs.ne_closing e hstarts hvs)
      | items hys =>
          simp only [List.cons_append, List.append_assoc, List.nil_append] at h
          obtain ⟨rfl, rfl⟩ := hxs.unambiguous e hitem hstarts hys (List.cons.inj h).2
          exact ⟨rfl, rfl⟩

/-! ## Objects -/

theorem Items.imp {xs : List α} {cs : List Char} (h : Items item xs cs) :
    (∀ x ∈ xs, ∀ cs, item x cs → item' x cs) → Items item' xs cs := by
  induction h with
  | last hws hx hvs =>
      intro himp
      exact Items.last hws (himp _ List.mem_cons_self _ hx) hvs
  | more hws hx hvs _ ih =>
      intro himp
      refine Items.more hws (himp _ List.mem_cons_self _ hx) hvs (ih ?_)
      exact fun y hy => himp y (List.mem_cons_of_mem _ hy)

theorem Enclosed.imp {e : Enclosure} {xs : List α} {cs : List Char} (h : Enclosed e item xs cs)
    (himp : ∀ x ∈ xs, ∀ cs, item x cs → item' x cs) : Enclosed e item' xs cs := by
  cases h with
  | empty hws => exact Enclosed.empty hws
  | items h => exact Enclosed.items (h.imp himp)

/-- **An object is taken apart in one way**: it has no other members, and no other order. -/
theorem members_eq {members others : List (String × List Char)} {cs : List Char}
    (h : ObjectSpelling members cs) (hmembers : ∀ m ∈ members, Value m.2)
    (h' : ObjectSpelling others cs) (hothers : ∀ m ∈ others, Value m.2) :
    others = members := by
  have hone : Enclosed .object ValueMember members cs :=
    h.imp fun m hm _ hcs => ⟨hcs, hmembers m hm⟩
  have hother : Enclosed .object ValueMember others cs :=
    h'.imp fun m hm _ hcs => ⟨hcs, hothers m hm⟩
  have hend : Follow [] := fun c hc => nomatch hc
  exact (unambiguous_enclosed .object unambiguous_member ValueMember.starts hother hone hend hend
    rfl).1

end WastePass.Json
