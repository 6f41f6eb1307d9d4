import WastePass.Proofs.Json.Lists
import WastePass.Proofs.Json.Taking

/-!
# Choices — a name that stands alone in a text

    `Alone spelling text`: the text is one spelling with any spaces around it.  What a
    reader reads so is what it makes of the whole text.  Of a choice among names this is
    the option of the name written there, however it is escaped, and without such an
    option there is no result.
-/

namespace WastePass.Json

variable {α : Type}

/-- The text is one spelling with spaces around it. -/
def Alone (spelling : List Char → Prop) (text : String) : Prop :=
  ∃ ws cs vs, Spaces ws ∧ spelling cs ∧ Spaces vs ∧ text.toList = ws ++ (cs ++ vs)

theorem Alone.self {spelling : List Char → Prop} {text : String} (h : spelling text.toList) :
    Alone spelling text :=
  ⟨[], text.toList, [], Spaces.nil, h, Spaces.nil, by simp⟩

theorem Follow.of_spaces {ws : List Char} (hws : Spaces ws) : Follow ws := by
  rw [← List.append_nil ws]
  exact Follow.spaces hws fun c hc => nomatch hc

namespace Reader

/-- What is read of a text that stands alone is the result. -/
theorem run_eq_ok_of_alone {r : Reader α} {a : α} {spelling : List Char → Prop} {text : String}
    (h : Alone spelling text) (hr : ∀ {cs}, spelling cs → Reads r cs a) :
    r.run text = .ok a := by
  obtain ⟨ws, cs, vs, hws, hcs, hvs, htext⟩ := h
  obtain ⟨p₁, h₁⟩ := hr hcs ws vs Position.start hws (Follow.of_spaces hvs)
  obtain ⟨p₂, h₂⟩ := next_end hvs p₁
  unfold run Cursor.ofText
  rw [htext]
  show Except.map _ ((r >>= fun a => next >>= _) _) = _
  rw [bind_ok h₁, bind_ok h₂]
  rfl

/-- A choice takes the option of the name that is written, or fails. -/
theorem choice_append (options : List (String × α)) {s : String} {cs ws : List Char}
    (hcs : TextSpelling s cs) (hws : Spaces ws) (rest : List Char) (p : Position) :
    ∃ p', choice options ⟨ws ++ (cs ++ rest), p⟩ = match options.lookup s with
      | some a => .ok (a, ⟨rest, p'⟩)
      | none => .error ⟨.unknownChoice s (options.map (·.1)), p'⟩ := by
  cases hcs with
  | @quoted body hbody =>
      rw [List.cons_append, List.append_assoc, List.singleton_append]
      obtain ⟨p₁, h₁⟩ := next_append hws (c := '"') rfl (body ++ '"' :: rest) p
      have h₂ := next_cons (c := '"') rfl (body ++ '"' :: rest) p₁
      obtain ⟨p₃, h₃⟩ := readText_append hbody rest (p₁.after '"')
      refine ⟨p₃, ?_⟩
      unfold choice
      rw [bind_ok h₁]
      -- The quote has been looked at, and the reader of names looks at it again.
      show name options ⟨'"' :: (body ++ '"' :: rest), p₁⟩ = _
      unfold name
      rw [bind_ok h₂]
      show (advance >>= fun _ => readText >>= _) _ = _
      rw [bind_ok (advance_cons _ _ _), bind_ok h₃]
      cases options.lookup s <;> rfl

theorem run_choice_iff (options : List (String × α)) {s text : String}
    (h : Alone (TextSpelling s) text) (a : α) :
    (choice options).run text = .ok a ↔ options.lookup s = some a := by
  cases hlookup : options.lookup s with
  | some b =>
      have hreads : ∀ {cs}, TextSpelling s cs → Reads (choice options) cs b := by
        intro cs hcs ws rest p hws _
        obtain ⟨p', hp'⟩ := choice_append options hcs hws rest p
        rw [hlookup] at hp'
        exact ⟨p', hp'⟩
      rw [run_eq_ok_of_alone h hreads, Except.ok.injEq, Option.some.injEq]
  | none =>
      obtain ⟨ws, cs, vs, hws, hcs, -, htext⟩ := h
      obtain ⟨p', hp'⟩ := choice_append options hcs hws vs Position.start
      rw [hlookup, ← htext] at hp'
      refine ⟨fun hok => ?_, fun hnone => nomatch hnone⟩
      obtain ⟨c, hread, -⟩ := run_eq_ok hok
      exact nomatch hp'.symm.trans hread

end Reader

end WastePass.Json
