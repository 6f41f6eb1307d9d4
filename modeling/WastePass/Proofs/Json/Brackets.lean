import WastePass.Proofs.Json.Lists
import WastePass.Proofs.Json.Skipped

/-!
# Brackets — what a list or an object has been read from

    `Leaves first xs cs`: the characters `cs` are what is left of a list or an object in
    front of its closing bracket when the items `xs` are still to come.  Each item read
    puts one in front (`Leaves.cons`), and what is left behind the opening bracket makes
    the whole (`Leaves.enclosed`).  A reader that `Takes` items so takes lists of them.
-/

namespace WastePass.Json

variable {α : Type} {item : α → List Char → Prop}

/-- What is left in front of a closing bracket, from the comma of the next item on. -/
inductive Leaves (item : α → List Char → Prop) (first : Bool) : List α → List Char → Prop
  | nothing {ws : List Char} (hws : Spaces ws) : Leaves item first [] ws
  | items {lead cs : List Char} {xs : List α} (hlead : Lead first lead)
      (h : Items item xs cs) : Leaves item first xs (lead ++ cs)

/-- An item with what stands in front of it. -/
theorem Leaves.cons {first : Bool} {x : α} {xs : List α} {lead ws cs ds : List Char}
    (hxs : Leaves item false xs ds) (hlead : Lead first lead) (hws : Spaces ws)
    (hx : item x cs) : Leaves item first (x :: xs) (lead ++ (ws ++ (cs ++ ds))) := by
  cases hxs with
  | nothing hvs => exact Leaves.items hlead (Items.last hws hx hvs)
  | items hcomma h =>
      cases hcomma with
      | comma hvs =>
          rw [List.append_assoc, List.singleton_append]
          exact Leaves.items hlead (Items.more hws hx hvs h)

/-- What is left behind the opening bracket. -/
theorem Leaves.enclosed {xs : List α} {cs : List Char} (h : Leaves item true xs cs)
    (e : Enclosure) : Enclosed e item xs (e.opening :: (cs ++ [e.closing])) := by
  cases h with
  | nothing hws => exact Enclosed.empty hws
  | items hlead h =>
      cases hlead with
      | first => exact Enclosed.items h

/-- What was taken between brackets was taken with them. -/
theorem rest_enclosed (e : Enclosure) {c : Cursor} {ws xs cs rest : List Char}
    (hc : c.rest = ws ++ e.opening :: xs) (hxs : xs = cs ++ e.closing :: rest) :
    c.rest = ws ++ (e.opening :: (cs ++ [e.closing]) ++ rest) := by
  rw [hc, hxs, List.cons_append, List.append_assoc, List.singleton_append]

namespace Reader

/-! ## One step -/

/-- Where a list goes on, its next element stands behind what leads it; where it does not,
    its bracket is next. -/
theorem nextElement_taken {first more : Bool} {c c₁ : Cursor}
    (h : nextElement first c = .ok (more, c₁)) :
    (more = true ∧ ∃ lead ws, Lead first lead ∧ Spaces ws ∧ c.rest = lead ++ (ws ++ c₁.rest)) ∨
      (more = false ∧ ∃ ws rest p, Spaces ws ∧ c.rest = ws ++ ']' :: rest ∧
        c₁ = ⟨']' :: rest, p⟩) := by
  obtain ⟨o, c₂, hnext, hrun⟩ := bind_eq_ok h
  split at hrun
  · exact nomatch hrun
  · obtain ⟨rfl, rfl⟩ := pure_eq_ok hrun
    exact Or.inr ⟨rfl, next_some hnext⟩
  · next x _ =>
      cases first with
      | true =>
          obtain ⟨ws, hws, hrest, -⟩ := next_taken hnext
          obtain ⟨rfl, rfl⟩ := pure_eq_ok hrun
          exact Or.inl ⟨rfl, [], ws, Lead.first, hws, hrest⟩
      | false =>
          -- A comma has to come, and behind it no bracket.
          obtain ⟨ws, xs, p, hws, hrest, rfl⟩ := next_some hnext
          rw [if_neg Bool.false_ne_true] at hrun
          split at hrun
          · next hcomma =>
              subst hcomma
              rw [advance_bind] at hrun
              obtain ⟨o, c₃, hnext, hrun⟩ := bind_eq_ok hrun
              obtain ⟨vs, hvs, hxs, -⟩ := next_taken hnext
              split at hrun
              · exact nomatch hrun
              · exact nomatch hrun
              · obtain ⟨rfl, rfl⟩ := pure_eq_ok hrun
                refine Or.inl ⟨rfl, ws ++ [','], vs, Lead.comma hws, hvs, ?_⟩
                rw [hrest, show xs = _ from hxs, List.append_assoc, List.singleton_append]
          · exact nomatch hrun

/-- The bracket that ends a list of a known length stands behind spaces. -/
theorem closeList_taken {c c' : Cursor} (h : closeList c = .ok ((), c')) :
    ∃ ws, Spaces ws ∧ c.rest = ws ++ ']' :: c'.rest := by
  obtain ⟨o, c₁, hnext, hrun⟩ := bind_eq_ok h
  split at hrun
  · obtain ⟨ws, xs, p, hws, hrest, rfl⟩ := next_some hnext
    cases hrun
    exact ⟨ws, hws, hrest⟩
  · obtain ⟨o, c₂, hcomma, hrun⟩ := bind_eq_ok (r := advance) hrun
    obtain ⟨o, c₃, hnext, hrun⟩ := bind_eq_ok hrun
    split at hrun
    · exact nomatch hrun
    · exact nomatch hrun
  · exact nomatch hrun
  · exact nomatch hrun

/-- A text that stands for a key, its opening quote being next. -/
theorem key_taken {xs : List Char} {p : Position} {c₁ : Cursor} {o : Option String}
    (h : (do advance; return some (← readText)) ⟨'"' :: xs, p⟩ = .ok (o, c₁)) :
    ∃ name key, o = some name ∧ TextSpelling name key ∧ '"' :: xs = key ++ c₁.rest := by
  rw [advance_bind] at h
  obtain ⟨name, c₂, htext, hpure⟩ := bind_eq_ok h
  obtain ⟨rfl, rfl⟩ := pure_eq_ok hpure
  obtain ⟨body, hbody, hrest⟩ := readText_taken htext
  refine ⟨name, _, rfl, TextSpelling.quoted hbody, ?_⟩
  rw [show xs = _ from hrest, List.cons_append, List.append_assoc, List.singleton_append]

/-- Where an object goes on, its next key stands behind what leads it; where it does not, its
    brace is next. -/
theorem nextKey_taken {first : Bool} {o : Option String} {c c₁ : Cursor}
    (h : nextKey first c = .ok (o, c₁)) :
    (∃ name, o = some name ∧ ∃ lead ws key, Lead first lead ∧ Spaces ws ∧
        TextSpelling name key ∧ c.rest = lead ++ (ws ++ (key ++ c₁.rest))) ∨
      (o = none ∧ ∃ ws rest p, Spaces ws ∧ c.rest = ws ++ '\x7d' :: rest ∧
        c₁ = ⟨'\x7d' :: rest, p⟩) := by
  obtain ⟨x, c₂, hnext, hrun⟩ := bind_eq_ok h
  split at hrun
  · exact nomatch hrun
  · obtain ⟨rfl, rfl⟩ := pure_eq_ok hrun
    exact Or.inr ⟨rfl, next_some hnext⟩
  · obtain ⟨ws, xs, p, hws, hrest, rfl⟩ := next_some hnext
    cases first with
    | true =>
        rw [if_pos rfl] at hrun
        split at hrun
        · next hquote =>
            subst hquote
            obtain ⟨name, key, rfl, hkey, hxs⟩ := key_taken hrun
            refine Or.inl ⟨name, rfl, [], ws, key, Lead.first, hws, hkey, ?_⟩
            rw [hrest, hxs, List.nil_append]
        · exact nomatch hrun
    | false =>
        rw [if_neg Bool.false_ne_true] at hrun
        split at hrun
        · next hcomma =>
            subst hcomma
            rw [advance_bind] at hrun
            obtain ⟨o, c₃, hnext, hrun⟩ := bind_eq_ok hrun
            split at hrun
            · exact nomatch hrun
            · obtain ⟨vs, ys, q, hvs, hxs, rfl⟩ := next_some hnext
              obtain ⟨name, key, rfl, hkey, hys⟩ := key_taken hrun
              refine Or.inl ⟨name, rfl, ws ++ [','], vs, key, Lead.comma hws, hvs, hkey, ?_⟩
              rw [hrest, show xs = _ from hxs, hys, List.append_assoc, List.singleton_append]
            · exact nomatch hrun
            · exact nomatch hrun
        · exact nomatch hrun

/-! ## Lists -/

/-- The elements of a list are taken up to and with its bracket. -/
theorem elements_taken {r : Reader α} (hr : Takes r item) :
    ∀ (n : Nat) {first : Bool} {c c' : Cursor} {xs : List α},
      elements r n first c = .ok (xs, c') →
      ∃ cs, Leaves item first xs cs ∧ c.rest = cs ++ ']' :: c'.rest := by
  intro n
  induction n with
  | zero =>
      intro first c c' xs h
      exact nomatch h
  | succ n ih =>
      intro first c c' xs h
      obtain ⟨more, c₁, hmore, hrun⟩ := bind_eq_ok h
      rcases nextElement_taken hmore with
        ⟨rfl, lead, ws, hlead, hws, hrest⟩ | ⟨rfl, ws, rest, p, hws, hrest, rfl⟩
      · obtain ⟨x, c₂, hx, hrun⟩ := bind_eq_ok (r := r) hrun
        obtain ⟨xs, c₃, hxs, hpure⟩ := bind_eq_ok hrun
        obtain ⟨rfl, rfl⟩ := pure_eq_ok hpure
        obtain ⟨vs, cs, hvs, hcs, hc₁⟩ := hr hx
        obtain ⟨ds, hds, hc₂⟩ := ih hxs
        refine ⟨_, hds.cons hlead (hws.append hvs) hcs, ?_⟩
        rw [hrest, hc₁, hc₂]
        simp only [List.append_assoc]
      · cases hrun
        exact ⟨ws, Leaves.nothing hws, hrest⟩

/-- A list of items is taken where one is read. -/
theorem takes_list {r : Reader α} (hr : Takes r item) :
    Takes (list r) (ListSpelling item) := by
  intro c c' xs h
  obtain ⟨o, c₁, hnext, hrun⟩ := bind_eq_ok h
  split at hrun
  · obtain ⟨ws, ys, p, hws, hrest, rfl⟩ := next_some hnext
    obtain ⟨cs, hcs, hys⟩ := elements_taken hr (ys.length + 1) hrun
    exact ⟨ws, _, hws, hcs.enclosed .list, rest_enclosed .list hrest hys⟩
  · exact absurd hrun mismatch_ne_ok

/-- Two items between brackets are taken where a pair is read. -/
theorem takes_pair {r : Reader α} (hr : Takes r item) :
    Takes (pair r r) fun x => ListSpelling item [x.1, x.2] := by
  intro c c' x h
  obtain ⟨o, c₁, hnext, hrun⟩ := bind_eq_ok h
  split at hrun
  · obtain ⟨ws, ys, p, hws, hrest, rfl⟩ := next_some hnext
    rw [advance_bind] at hrun
    obtain ⟨more, c₂, hmore, hrun⟩ := bind_eq_ok hrun
    rcases nextElement_taken hmore with
      ⟨rfl, lead, us, hlead, hus, hys⟩ | ⟨rfl, -⟩
    · obtain ⟨a, c₃, ha, hrun⟩ := bind_eq_ok (r := r) hrun
      obtain ⟨more, c₄, hmore, hrun⟩ := bind_eq_ok hrun
      rcases nextElement_taken hmore with
        ⟨rfl, lead', us', hlead', hus', hc₃⟩ | ⟨rfl, -⟩
      · obtain ⟨b, c₅, hb, hrun⟩ := bind_eq_ok (r := r) hrun
        obtain ⟨_, c₆, hclose, hpure⟩ := bind_eq_ok hrun
        obtain ⟨rfl, rfl⟩ := pure_eq_ok hpure
        obtain ⟨vs, cs, hvs, hcs, hc₂⟩ := hr ha
        obtain ⟨vs', ds, hvs', hds, hc₄⟩ := hr hb
        obtain ⟨end', hend, hc₅⟩ := closeList_taken hclose
        -- From the closing bracket back: nothing is left behind the second item.
        have hsecond := (Leaves.nothing hend).cons hlead' (hus'.append hvs') hds
        have hfirst := hsecond.cons hlead (hus.append hvs) hcs
        refine ⟨ws, _, hws, hfirst.enclosed .list, rest_enclosed .list hrest ?_⟩
        rw [show ys = _ from hys, hc₂, hc₃, hc₄, hc₅]
        simp only [List.append_assoc]
        rfl
      · exact nomatch hrun
    · exact nomatch hrun
  · exact absurd hrun mismatch_ne_ok

end Reader

end WastePass.Json
