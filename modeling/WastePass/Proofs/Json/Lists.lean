import WastePass.Proofs.Json.Skipping

/-!
# Lists and keys — what is read between brackets

    The readers of lists and objects are told whether an item is the first, and take the
    comma in front of every other.  `Lead` is that comma.  Given a reader that
    `Decodes` the items, the reader of lists decodes lists of them.
-/

namespace WastePass.Json

/-- The reader reads every spelling of every item, and no spelling looks like an end. -/
def Decodes {α : Type} (r : Reader α) (item : α → List Char → Prop) : Prop :=
  ∀ {a : α} {cs : List Char}, item a cs → Starts cs ∧ Reads r cs a

/-- What has been decoded may be put somewhere. -/
theorem starts_reads_map {α β : Type} {r : Reader α} {cs : List Char} {a : α}
    (h : Starts cs ∧ Reads r cs a) (f : α → β) {b : β} (hb : b = f a) :
    Starts cs ∧ Reads (do return f (← r)) cs b := by
  subst hb
  exact ⟨h.1, h.2.map f⟩

/-- What stands behind an item and in front of the next: nothing before the first. -/
inductive Lead : Bool → List Char → Prop
  | first : Lead true []
  | comma {ws : List Char} (hws : Spaces ws) : Lead false (ws ++ [','])

namespace Reader

/-! ## One step -/

/-- A list goes on where an element stands. -/
theorem nextElement_append {first : Bool} {lead ws cs : List Char} (hlead : Lead first lead)
    (hws : Spaces ws) (hcs : Starts cs) (rest : List Char) (p : Position) :
    ∃ p', nextElement first ⟨lead ++ (ws ++ (cs ++ rest)), p⟩ = .ok (true, ⟨cs ++ rest, p'⟩) := by
  obtain ⟨c, ds, rfl, hspace, hclose, -⟩ := hcs
  rw [List.cons_append]
  cases hlead with
  | first =>
      obtain ⟨p', hp'⟩ := next_append hws hspace (ds ++ rest) p
      refine ⟨p', ?_⟩
      unfold nextElement
      rw [List.nil_append, bind_ok hp']
      generalize hnext : some c = next
      split
      · exact nomatch hnext
      · cases hnext
        exact absurd rfl hclose
      · rfl
  | @comma us hus =>
      obtain ⟨p₁, h₁⟩ := next_append hus (c := ',') rfl (ws ++ c :: (ds ++ rest)) p
      obtain ⟨p₂, h₂⟩ := next_append hws hspace (ds ++ rest) (p₁.after ',')
      refine ⟨p₂, ?_⟩
      unfold nextElement
      rw [List.append_assoc, List.singleton_append, bind_ok h₁]
      show (advance >>= fun _ => next >>= _) _ = _
      rw [bind_ok (advance_cons _ _ _), bind_ok h₂]
      generalize hnext : some c = next
      split
      · exact nomatch hnext
      · cases hnext
        exact absurd rfl hclose
      · rfl

/-- A list ends where its bracket stands, which is left. -/
theorem nextElement_close (first : Bool) {ws : List Char} (hws : Spaces ws) (rest : List Char)
    (p : Position) :
    ∃ p', nextElement first ⟨ws ++ ']' :: rest, p⟩ = .ok (false, ⟨']' :: rest, p'⟩) := by
  obtain ⟨p', hp'⟩ := next_append hws (c := ']') rfl rest p
  refine ⟨p', ?_⟩
  unfold nextElement
  rw [bind_ok hp']
  rfl

/-- The bracket behind the last element. -/
theorem closeList_append {ws : List Char} (hws : Spaces ws) (rest : List Char) (p : Position) :
    ∃ p', closeList ⟨ws ++ ']' :: rest, p⟩ = .ok ((), ⟨rest, p'⟩) := by
  obtain ⟨p', hp'⟩ := next_append hws (c := ']') rfl rest p
  refine ⟨p'.after ']', ?_⟩
  unfold closeList
  rw [bind_ok hp']
  rfl

/-- An object goes on with the key that stands there. -/
theorem nextKey_append {first : Bool} {lead ws key : List Char} {name : String}
    (hlead : Lead first lead) (hws : Spaces ws) (hkey : TextSpelling name key)
    (rest : List Char) (p : Position) :
    ∃ p', nextKey first ⟨lead ++ (ws ++ (key ++ rest)), p⟩ = .ok (some name, ⟨rest, p'⟩) := by
  cases hkey with
  | @quoted body h =>
      rw [List.cons_append, List.append_assoc, List.singleton_append]
      cases hlead with
      | first =>
          obtain ⟨p₁, h₁⟩ := next_append hws (c := '"') rfl (body ++ '"' :: rest) p
          obtain ⟨p₂, h₂⟩ := readText_append h rest (p₁.after '"')
          refine ⟨p₂, ?_⟩
          unfold nextKey
          rw [List.nil_append, bind_ok h₁]
          show (advance >>= fun _ => readText >>= _) _ = _
          rw [bind_ok (advance_cons _ _ _), bind_ok h₂]
          rfl
      | @comma us hus =>
          obtain ⟨p₁, h₁⟩ := next_append hus (c := ',') rfl (ws ++ '"' :: (body ++ '"' :: rest)) p
          obtain ⟨p₂, h₂⟩ := next_append hws (c := '"') rfl (body ++ '"' :: rest) (p₁.after ',')
          obtain ⟨p₃, h₃⟩ := readText_append h rest (p₂.after '"')
          refine ⟨p₃, ?_⟩
          unfold nextKey
          rw [List.append_assoc, List.singleton_append, bind_ok h₁]
          show (advance >>= fun _ => next >>= _) _ = _
          rw [bind_ok (advance_cons _ _ _), bind_ok h₂]
          show (advance >>= fun _ => readText >>= _) _ = _
          rw [bind_ok (advance_cons _ _ _), bind_ok h₃]
          rfl

/-- An object ends where its brace stands, which is left. -/
theorem nextKey_close (first : Bool) {ws : List Char} (hws : Spaces ws) (rest : List Char)
    (p : Position) :
    ∃ p', nextKey first ⟨ws ++ '\x7d' :: rest, p⟩ = .ok (none, ⟨'\x7d' :: rest, p'⟩) := by
  obtain ⟨p', hp'⟩ := next_append hws (c := '\x7d') rfl rest p
  refine ⟨p', ?_⟩
  unfold nextKey
  rw [bind_ok hp']
  rfl

end Reader

/-! ## Lists -/

variable {α : Type} {item : α → List Char → Prop}

/-- Items are no more than the characters they are written with. -/
theorem Items.length_le (hitem : ∀ {x cs}, item x cs → cs ≠ []) {xs : List α} {cs : List Char}
    (h : Items item xs cs) : xs.length ≤ cs.length := by
  induction h with
  | last _ h _ =>
      have := List.length_pos_iff.mpr (hitem h)
      simp
      omega
  | more _ h _ _ ih =>
      have := List.length_pos_iff.mpr (hitem h)
      simp
      omega

/-- What begins with a character is not empty. -/
theorem Starts.ne_nil {cs : List Char} (h : Starts cs) : cs ≠ [] := by
  obtain ⟨c, ds, rfl, -⟩ := h
  exact List.cons_ne_nil c ds

/-- A list or an object begins with its bracket. -/
theorem Enclosed.starts {e : Enclosure} {xs : List α} {cs : List Char}
    (h : Enclosed e item xs cs) : Starts cs := by
  cases h with
  | empty _ => cases e <;> exact ⟨_, _, rfl, rfl, by decide, by decide⟩
  | items _ => cases e <;> exact ⟨_, _, rfl, rfl, by decide, by decide⟩

/-- A text begins with its quote. -/
theorem TextSpelling.starts {s : String} {cs : List Char} (h : TextSpelling s cs) :
    Starts cs := by
  cases h with
  | quoted _ => exact ⟨'"', _, rfl, rfl, by decide, by decide⟩

namespace Reader

/-- Texts are decoded. -/
theorem decodes_text : Decodes text TextSpelling :=
  fun h => ⟨h.starts, reads_text h⟩

/-- Behind the last element a list is taken to its end. -/
theorem elements_close (r : Reader α) (n : Nat) (first : Bool) {ws : List Char}
    (hws : Spaces ws) (rest : List Char) (p : Position) :
    ∃ p', elements r (n + 1) first ⟨ws ++ ']' :: rest, p⟩ = .ok ([], ⟨rest, p'⟩) := by
  obtain ⟨p', hp'⟩ := nextElement_close first hws rest p
  refine ⟨p'.after ']', ?_⟩
  rw [elements, bind_ok hp']
  rfl

/-- An element with what stands in front of it. -/
theorem element_append {r : Reader α} {x : α} {first : Bool} {lead ws cs rest : List Char}
    (hlead : Lead first lead) (hws : Spaces ws) (hr : Starts cs ∧ Reads r cs x)
    (hrest : Follow rest) (p : Position) :
    ∃ c p', nextElement first ⟨lead ++ (ws ++ (cs ++ rest)), p⟩ = .ok (true, c) ∧
      r c = .ok (x, ⟨rest, p'⟩) := by
  obtain ⟨p₁, h₁⟩ := nextElement_append hlead hws hr.1 rest p
  obtain ⟨p₂, h₂⟩ := hr.2 [] rest p₁ Spaces.nil hrest
  exact ⟨_, p₂, h₁, h₂⟩

/-- The elements of a list, up to and with its bracket. -/
theorem elements_append {r : Reader α} (hr : Decodes r item) {xs : List α} {cs : List Char}
    (h : Items item xs cs) (rest : List Char) :
    ∀ (n : Nat) (first : Bool) (lead : List Char) (p : Position),
      Lead first lead → xs.length < n →
      ∃ p', elements r n first ⟨lead ++ (cs ++ ']' :: rest), p⟩ = .ok (xs, ⟨rest, p'⟩) := by
  -- For any comma in front: what follows an item leads the next one.
  induction h with
  | @last x ws cs vs hws h hvs =>
      intro n first lead p hlead hn
      obtain ⟨m, rfl⟩ : ∃ m, n = m + 2 := ⟨n - 2, by simp at hn; omega⟩
      have hfollow : Follow (vs ++ ']' :: rest) := (Follow.closing .list rest).spaces hvs
      obtain ⟨c, p₁, h₁, h₂⟩ := element_append hlead hws (hr h) hfollow p
      obtain ⟨p₂, h₃⟩ := elements_close r m false hvs rest p₁
      refine ⟨p₂, ?_⟩
      rw [List.append_assoc, List.append_assoc, elements, bind_ok h₁]
      show (r >>= fun x => elements r (m + 1) false >>= _) _ = _
      rw [bind_ok h₂, bind_ok h₃]
      rfl
  | @more x xs ws cs vs ds hws h hvs _ ih =>
      intro n first lead p hlead hn
      obtain ⟨m, rfl⟩ : ∃ m, n = m + 1 := ⟨n - 1, by simp at hn; omega⟩
      have hfollow : Follow (vs ++ ',' :: (ds ++ ']' :: rest)) := (Follow.comma _).spaces hvs
      obtain ⟨c, p₁, h₁, h₂⟩ := element_append hlead hws (hr h) hfollow p
      obtain ⟨p₂, h₃⟩ := ih m false (vs ++ [',']) p₁ (Lead.comma hvs) (by simpa using hn)
      refine ⟨p₂, ?_⟩
      rw [List.append_assoc, List.singleton_append] at h₃
      rw [List.append_assoc, List.append_assoc, List.append_assoc, List.cons_append, elements,
        bind_ok h₁]
      show (r >>= fun x => elements r m false >>= _) _ = _
      rw [bind_ok h₂, bind_ok h₃]
      rfl

/-- What stands between brackets, with what stands around them. -/
theorem enclosed_append (e : Enclosure) {us : List Char} (hus : Spaces us) (cs rest : List Char)
    (p : Position) :
    ∃ p', next ⟨us ++ (e.opening :: (cs ++ [e.closing]) ++ rest), p⟩
      = .ok (some e.opening, ⟨e.opening :: (cs ++ e.closing :: rest), p'⟩) := by
  rw [List.cons_append, List.append_assoc, List.singleton_append]
  exact next_append hus (by cases e <;> rfl) (cs ++ e.closing :: rest) p

/-- Lists of any length are decoded. -/
theorem decodes_list {r : Reader α} (hr : Decodes r item) :
    Decodes (list r) (ListSpelling item) := by
  intro xs cs h
  refine ⟨h.starts, fun us rest p hus _ => ?_⟩
  unfold list
  cases h with
  | @empty ws hws =>
      obtain ⟨p₁, h₁⟩ := enclosed_append .list hus ws rest p
      obtain ⟨p₂, h₂⟩ := elements_close r (ws ++ ']' :: rest).length true hws rest (p₁.after '[')
      refine ⟨p₂, ?_⟩
      rw [bind_ok h₁]
      exact h₂
  | @items _ cs h =>
      have hlen : xs.length < (cs ++ ']' :: rest).length + 1 := by
        have := h.length_le fun hx => (hr hx).1.ne_nil
        simp
        omega
      obtain ⟨p₁, h₁⟩ := enclosed_append .list hus cs rest p
      obtain ⟨p₂, h₂⟩ := elements_append hr h rest _ true [] (p₁.after '[') Lead.first hlen
      refine ⟨p₂, ?_⟩
      rw [bind_ok h₁]
      exact h₂

/-- Lists of two elements are decoded as pairs. -/
theorem decodes_pair {r : Reader α} (hr : Decodes r item) :
    Decodes (pair r r) fun x => ListSpelling item [x.1, x.2] := by
  rintro ⟨x, y⟩ cs h
  refine ⟨h.starts, fun us rest p hus _ => ?_⟩
  cases h with
  | @items _ cs h =>
      cases h with
      | @more _ _ ws cs vs ds hws hx hvs h =>
          cases h with
          | @last _ ws' ds vs' hws' hy hvs' =>
              -- Bracket, element, element behind its comma, bracket.
              have hfollow : Follow (vs' ++ ']' :: rest) := (Follow.closing .list rest).spaces hvs'
              obtain ⟨p₁, h₁⟩ := enclosed_append .list hus
                (ws ++ (cs ++ (vs ++ ',' :: (ws' ++ (ds ++ vs'))))) rest p
              obtain ⟨c, p₂, h₂, hfirst⟩ := element_append Lead.first hws (hr hx)
                ((Follow.comma (ws' ++ (ds ++ (vs' ++ ']' :: rest)))).spaces hvs) (p₁.after '[')
              obtain ⟨c', p₃, h₃, hsecond⟩ :=
                element_append (Lead.comma hvs) hws' (hr hy) hfollow p₂
              obtain ⟨p₄, h₄⟩ := closeList_append hvs' rest p₃
              refine ⟨p₄, ?_⟩
              rw [List.append_assoc, List.singleton_append] at h₃
              unfold pair
              rw [bind_ok h₁]
              show (advance >>= fun _ => nextElement true >>= _) _ = _
              rw [bind_ok (advance_cons _ _ _)]
              simp only [List.append_assoc, List.cons_append, List.nil_append] at h₂ ⊢
              rw [show Enclosure.opening .list = '[' from rfl,
                show Enclosure.closing .list = ']' from rfl, bind_ok h₂]
              show (r >>= fun x => nextElement false >>= _) _ = _
              rw [bind_ok hfirst, bind_ok h₃]
              show (r >>= fun y => closeList >>= _) _ = _
              rw [bind_ok hsecond, bind_ok h₄]
              rfl
          | more _ _ _ h => exact nomatch h

end Reader

end WastePass.Json
