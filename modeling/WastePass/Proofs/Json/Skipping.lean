import WastePass.Proofs.Json.Reading

/-!
# Skipping — every well-formed value is taken whole, however deep it is nested

    The reader that skips keeps what is open on a stack and runs on a bound of its own.
    `WellFormed.skips` says for every part of a value that skipping it comes to stand
    right behind it with the stack as it was, and has used up no more of the bound than
    the part has characters.  So the length of what is left is always enough.
-/

namespace WastePass.Json

/-! ## Texts -/

/-- A skipped text ends at its quote. -/
theorem LooseBody.pastText {body : List Char} (h : LooseBody body) (rest : List Char) :
    ∀ p, ∃ p', Json.pastText (body ++ '"' :: rest) p = .ok ⟨rest, p'⟩ := by
  induction h with
  | nil => exact fun p => ⟨p.plus 1, rfl⟩
  | @plain c cs hquote hslash hcontrol _ ih =>
      intro p
      obtain ⟨p', hp'⟩ := ih (p.after c)
      refine ⟨p', Eq.trans ?_ hp'⟩
      rw [List.cons_append, Json.pastText.eq_def]
      generalize htext : c :: (cs ++ '"' :: rest) = text
      split
      · exact nomatch htext
      · exact absurd (List.cons.inj htext).1 hquote
      · exact absurd (List.cons.inj htext).1 hslash
      · exact absurd (List.cons.inj htext).1 hslash
      · exact absurd (List.cons.inj htext).1 hslash
      · exact absurd (List.cons.inj htext).1 hslash
      · obtain ⟨rfl, rfl⟩ := List.cons.inj htext
        exact if_neg (Nat.not_lt.mpr hcontrol)
  | @short l c cs h _ ih =>
      intro p
      obtain ⟨p', hp'⟩ := ih (p.plus 2)
      refine ⟨p', Eq.trans ?_ hp'⟩
      simp only [shortEscapes, List.mem_cons, List.not_mem_nil, or_false, Prod.mk.injEq] at h
      rcases h with ⟨rfl, rfl⟩ | ⟨rfl, rfl⟩ | ⟨rfl, rfl⟩ | ⟨rfl, rfl⟩ | ⟨rfl, rfl⟩ |
        ⟨rfl, rfl⟩ | ⟨rfl, rfl⟩ | ⟨rfl, rfl⟩ <;> rfl
  | @unit ds cs n h _ ih =>
      intro p
      obtain ⟨p', hp'⟩ := ih (p.plus 6)
      obtain ⟨x, y, z, w, rfl, hvalue⟩ := h.hexValue4?
      refine ⟨p', Eq.trans ?_ hp'⟩
      show Json.pastText ('\\' :: 'u' :: x :: y :: z :: w :: (cs ++ '"' :: rest)) p = _
      rw [Json.pastText, hvalue]

/-! ## Numbers -/

/-- No digit follows. -/
def NoDigit (rest : List Char) : Prop :=
  ∀ c ∈ rest.head?, c.isDigit = false

/-- Digits are taken up to where none follows. -/
theorem digitsFrom_append {ds rest : List Char} (hds : ∀ c ∈ ds, c.isDigit = true)
    (hrest : NoDigit rest) :
    ∀ p, ∃ values p', values.length = ds.length ∧
      digitsFrom (ds ++ rest) p = (values, ⟨rest, p'⟩) := by
  induction ds with
  | nil =>
      intro p
      refine ⟨[], p, rfl, ?_⟩
      cases rest with
      | nil => rfl
      | cons c rest =>
          rw [List.nil_append, digitsFrom, digitValue?, hrest c rfl]
          rfl
  | cons d ds ih =>
      intro p
      obtain ⟨values, p', hlen, hp'⟩ :=
        ih (fun c hc => hds c (List.mem_cons_of_mem d hc)) (p.after d)
      refine ⟨(d.toNat - 48) :: values, p', congrArg (· + 1) hlen, ?_⟩
      rw [List.cons_append, digitsFrom, digitValue?, hds d List.mem_cons_self]
      simp only [if_true, hp']

namespace Reader

/-- Taking digits. -/
theorem digits_append {ds rest : List Char} (hds : Digits ds) (hrest : NoDigit rest)
    (p : Position) :
    ∃ values p', values.isEmpty = false ∧ digits ⟨ds ++ rest, p⟩ = .ok (values, ⟨rest, p'⟩) := by
  obtain ⟨values, p', hlen, hp'⟩ := digitsFrom_append hds.2 hrest p
  refine ⟨values, p', ?_, congrArg Except.ok hp'⟩
  cases values with
  | nil => exact absurd (List.length_eq_zero_iff.mp hlen.symm) hds.1
  | cons v values => rfl

/-- The sign of an exponent, in front of its digits. -/
theorem exponentSign_append {sign ds : List Char}
    (hsign : sign = [] ∨ sign = ['+'] ∨ sign = ['-']) (hds : Digits ds) (rest : List Char)
    (p : Position) :
    ∃ down p', exponentSign ⟨sign ++ (ds ++ rest), p⟩ = .ok (down, ⟨ds ++ rest, p'⟩) := by
  rcases hsign with rfl | rfl | rfl
  · obtain ⟨hne, hall⟩ := hds
    cases ds with
    | nil => exact absurd rfl hne
    | cons d ds =>
        have hd : d.isDigit = true := hall d List.mem_cons_self
        refine ⟨false, p, ?_⟩
        unfold exponentSign
        rw [List.nil_append, List.cons_append, bind_ok (peek_cons d _ p)]
        generalize hnext : some d = next
        split
        · cases hnext
          exact absurd hd (by decide)
        · cases hnext
          exact absurd hd (by decide)
        · rfl
  · exact ⟨false, p.after '+', rfl⟩
  · exact ⟨true, p.after '-', rfl⟩

/-- An exponent is taken whole. -/
theorem skipExponent_append {e : Char} {sign ds rest : List Char}
    (hsign : sign = [] ∨ sign = ['+'] ∨ sign = ['-']) (hds : Digits ds) (hrest : NoDigit rest)
    (p : Position) :
    ∃ p', skipExponent ⟨e :: (sign ++ (ds ++ rest)), p⟩ = .ok ((), ⟨rest, p'⟩) := by
  obtain ⟨down, p₁, h₁⟩ := exponentSign_append hsign hds rest (p.after e)
  obtain ⟨values, p₂, -, h₂⟩ := digits_append hds hrest p₁
  refine ⟨p₂, ?_⟩
  unfold skipExponent
  rw [bind_ok (advance_cons e _ p), bind_ok h₁]
  -- The reader insists on a digit behind the sign before it takes them all.
  obtain ⟨hne, hall⟩ := hds
  cases ds with
  | nil => exact absurd rfl hne
  | cons d ds =>
      have hd : d.isDigit = true := hall d List.mem_cons_self
      rw [List.cons_append, bind_ok (peek_cons d _ p₁)]
      show (if (!d.isDigit) = true then _ else digits >>= fun _ => pure () : Reader Unit) _ = _
      rw [hd]
      show (digits >>= fun _ => pure ()) _ = _
      rw [List.cons_append] at h₂
      rw [bind_ok h₂]
      rfl

/-- What may follow the fraction of a number. -/
def skipOptionalExponent : Reader Unit := do
  match ← peek with
  | some 'e' | some 'E' => skipExponent
  | _ => pure ()

/-- What may follow the whole part of a number. -/
def skipFraction : Reader Unit := do
  match ← peek with
  | some '.' => do
    advance
    let ds ← digits
    if ds.isEmpty then failNext .invalidNumber
    skipOptionalExponent
  | some 'e' | some 'E' => skipExponent
  | _ => pure ()

/-- A number is its whole part and what follows it. -/
theorem skipNumber_whole {whole rest : List Char} (hwhole : Whole whole) (hrest : NoDigit rest)
    (p : Position) :
    ∃ p', skipNumber ⟨whole ++ rest, p⟩ = skipFraction ⟨rest, p'⟩ := by
  cases hwhole with
  | zero =>
      -- Behind a zero in front the reader only makes sure that no digit follows.
      refine ⟨p.after '0', ?_⟩
      unfold skipNumber
      rw [List.cons_append, List.nil_append, bind_ok (peek_cons '0' rest p)]
      show (advance >>= _) _ = _
      rw [bind_ok (advance_cons '0' rest p)]
      cases rest with
      | nil => rfl
      | cons c rest =>
          rw [bind_ok (peek_cons c rest _)]
          show (if c.isDigit = true then _ else skipFraction : Reader Unit) _ = _
          rw [hrest c rfl]
          rfl
  | @digits c cs h hc =>
      obtain ⟨values, p', -, hp'⟩ := digits_append h hrest p
      refine ⟨p', ?_⟩
      unfold skipNumber
      rw [List.cons_append, bind_ok (peek_cons c _ p)]
      have hd : c.isDigit = true := h.2 c List.mem_cons_self
      rw [List.cons_append] at hp'
      generalize hnext : some c = next
      split
      · exact nomatch hnext
      · cases hnext
        exact absurd rfl hc
      · cases hnext
        rw [if_pos hd, bind_ok hp']
        rfl

/-- Nothing of a number follows. -/
theorem peek_follow {rest : List Char} (hrest : Follow rest) (p : Position) :
    skipOptionalExponent ⟨rest, p⟩ = .ok ((), ⟨rest, p⟩) ∧
      skipFraction ⟨rest, p⟩ = .ok ((), ⟨rest, p⟩) := by
  cases rest with
  | nil => exact ⟨rfl, rfl⟩
  | cons c rest =>
      obtain ⟨-, hpoint, he, hE⟩ := hrest c rfl
      unfold skipOptionalExponent skipFraction
      rw [bind_ok (peek_cons c rest p), bind_ok (peek_cons c rest p)]
      constructor
      · generalize hnext : some c = next
        split
        · cases hnext
          exact absurd rfl he
        · cases hnext
          exact absurd rfl hE
        · rfl
      · generalize hnext : some c = next
        split
        · cases hnext
          exact absurd rfl hpoint
        · cases hnext
          exact absurd rfl he
        · cases hnext
          exact absurd rfl hE
        · rfl

/-- An exponent, if there is one, is taken whole. -/
theorem skipExponent_optional {exponent rest : List Char} (h : Exponent exponent)
    (hrest : Follow rest) (p : Position) :
    (∃ p', skipOptionalExponent ⟨exponent ++ rest, p⟩ = .ok ((), ⟨rest, p'⟩)) ∧
      ∃ p', skipFraction ⟨exponent ++ rest, p⟩ = .ok ((), ⟨rest, p'⟩) := by
  cases h with
  | none => exact ⟨⟨p, (peek_follow hrest p).1⟩, ⟨p, (peek_follow hrest p).2⟩⟩
  | @some e sign ds he hsign hds =>
      have hnodigit : NoDigit rest := fun c hc => (hrest c hc).1
      obtain ⟨p', hp'⟩ := skipExponent_append (e := e) hsign hds hnodigit p
      rw [List.cons_append, List.append_assoc]
      rcases he with rfl | rfl <;> exact ⟨⟨p', hp'⟩, ⟨p', hp'⟩⟩

/-- An exponent begins with no digit. -/
theorem noDigit_exponent {exponent rest : List Char} (h : Exponent exponent)
    (hrest : Follow rest) : NoDigit (exponent ++ rest) := by
  cases h with
  | none => exact fun c hc => (hrest c hc).1
  | some he =>
      intro c hc
      cases hc
      rcases he with rfl | rfl <;> rfl

/-- A fraction and an exponent, if there are any, are taken whole. -/
theorem skipFraction_append {fraction exponent rest : List Char} (hfraction : Fraction fraction)
    (hexponent : Exponent exponent) (hrest : Follow rest) (p : Position) :
    ∃ p', skipFraction ⟨fraction ++ (exponent ++ rest), p⟩ = .ok ((), ⟨rest, p'⟩) := by
  cases hfraction with
  | none => exact (skipExponent_optional hexponent hrest p).2
  | @some ds hds =>
      obtain ⟨values, p₁, hvalues, h₁⟩ :=
        digits_append hds (noDigit_exponent hexponent hrest) (p.after '.')
      obtain ⟨p₂, h₂⟩ := (skipExponent_optional hexponent hrest p₁).1
      refine ⟨p₂, ?_⟩
      unfold skipFraction
      rw [List.cons_append, bind_ok (peek_cons '.' _ p)]
      show (advance >>= _) _ = _
      rw [bind_ok (advance_cons '.' _ p), bind_ok h₁]
      show (if values.isEmpty = true then _ else skipOptionalExponent : Reader Unit) _ = _
      rw [hvalues]
      exact h₂

/-- A number whose sign has been taken is taken whole. -/
theorem skipNumber_append {whole fraction exponent rest : List Char} (hwhole : Whole whole)
    (hfraction : Fraction fraction) (hexponent : Exponent exponent) (hrest : Follow rest)
    (p : Position) :
    ∃ p', skipNumber ⟨whole ++ (fraction ++ (exponent ++ rest)), p⟩ = .ok ((), ⟨rest, p'⟩) := by
  have hnodigit : NoDigit (fraction ++ (exponent ++ rest)) := by
    cases hfraction with
    | none =>
        show NoDigit (exponent ++ rest)
        exact noDigit_exponent hexponent hrest
    | some hds =>
        intro c hc
        cases hc
        rfl
  obtain ⟨p₁, h₁⟩ := skipNumber_whole hwhole hnodigit p
  obtain ⟨p₂, h₂⟩ := skipFraction_append hfraction hexponent hrest p₁
  exact ⟨p₂, h₁.trans h₂⟩

end Reader

/-- A whole number begins with a digit. -/
theorem Whole.head {whole : List Char} (h : Whole whole) :
    ∃ d ds, whole = d :: ds ∧ d.isDigit = true := by
  cases h with
  | zero => exact ⟨'0', [], rfl, rfl⟩
  | @digits c cs h _ => exact ⟨c, cs, rfl, h.2 c List.mem_cons_self⟩

/-! ## Values that hold no others -/

/-- Something that is no space and closes nothing begins here. -/
def Starts (cs : List Char) : Prop :=
  ∃ c ds, cs = c :: ds ∧ Cursor.isSpace c = false ∧ c ≠ ']' ∧ c ≠ '\x7d'

/-- A digit is no space and no bracket. -/
theorem digit_ne {d : Char} (hd : d.isDigit = true) {c : Char} (hc : c.isDigit = false) :
    d ≠ c := by
  rintro rfl
  rw [hd] at hc
  exact nomatch hc

/-- A digit is no space. -/
theorem digit_not_space {d : Char} (hd : d.isDigit = true) : Cursor.isSpace d = false := by
  unfold Cursor.isSpace
  simp [digit_ne hd (c := ' ') rfl, digit_ne hd (c := '\n') rfl,
    digit_ne hd (c := '\t') rfl, digit_ne hd (c := '\r') rfl]

namespace Reader

/-- The letters of a word are taken. -/
theorem word_append (letters rest : List Char) :
    ∀ p, ∃ p', word letters ⟨letters ++ rest, p⟩ = .ok ((), ⟨rest, p'⟩) := by
  induction letters with
  | nil => exact fun p => ⟨p, rfl⟩
  | cons l letters ih =>
      intro p
      obtain ⟨p', hp'⟩ := ih (p.after l)
      refine ⟨p', ?_⟩
      unfold word
      rw [List.cons_append, bind_ok (peek_cons l _ p)]
      show (if l = l then advance >>= fun _ => word letters else _ : Reader Unit) _ = _
      rw [if_pos rfl, bind_ok (advance_cons l _ p)]
      exact hp'

/-- A text that nobody asks for is taken whole. -/
theorem skipText_append {body : List Char} (h : LooseBody body) (rest : List Char)
    (p : Position) :
    ∃ p', skipText ⟨body ++ '"' :: rest, p⟩ = .ok ((), ⟨rest, p'⟩) := by
  obtain ⟨p', hp'⟩ := h.pastText rest p
  refine ⟨p', ?_⟩
  unfold skipText
  rw [hp']
  rfl

/-- A key that nobody asks for is taken with its colon. -/
theorem skipKey_append {key ws us : List Char} (hkey : LooseText key) (hus : Spaces us)
    (hws : Spaces ws) (cs : List Char) (p : Position) :
    ∃ p', skipKey ⟨us ++ (key ++ (ws ++ ':' :: cs)), p⟩ = .ok ((), ⟨cs, p'⟩) := by
  cases hkey with
  | @quoted body h =>
      rw [List.cons_append, List.append_assoc]
      obtain ⟨p₁, h₁⟩ := next_append hus (c := '"') rfl (body ++ '"' :: (ws ++ ':' :: cs)) p
      obtain ⟨p₂, h₂⟩ := skipText_append h (ws ++ ':' :: cs) (p₁.after '"')
      obtain ⟨p₃, h₃⟩ := colon_append hws cs p₂
      refine ⟨p₃, ?_⟩
      unfold skipKey
      show (next >>= _) ⟨us ++ '"' :: (body ++ '"' :: (ws ++ ':' :: cs)), p⟩ = _
      rw [bind_ok h₁]
      show (advance >>= fun _ => skipText >>= fun _ => colon) _ = _
      rw [bind_ok (advance_cons _ _ _), bind_ok h₂, h₃]

/-- A number is taken whole by the reader of values that hold no others. -/
theorem skipScalar_number {c : Char} {cs rest : List Char} (h : NumberSpelling (c :: cs))
    (hrest : Follow rest) (p : Position) :
    ∃ p', skipScalar c ⟨c :: (cs ++ rest), p⟩ = .ok ((), ⟨rest, p'⟩) := by
  generalize hcs : c :: cs = number at h
  cases h with
  | @parts sign whole fraction exponent hsign hwhole hfraction hexponent =>
      rcases hsign with rfl | rfl
      · obtain ⟨p', hp'⟩ := skipNumber_append hwhole hfraction hexponent hrest p
        obtain ⟨d, ds, rfl, hd⟩ := hwhole.head
        rw [List.nil_append, List.cons_append] at hcs
        obtain ⟨rfl, rfl⟩ := List.cons.inj hcs
        refine ⟨p', ?_⟩
        -- A digit begins none of the words and no text.
        have hscalar : skipScalar c = skipNumber := by
          unfold skipScalar
          split
          · exact absurd hd (by decide)
          · exact absurd hd (by decide)
          · exact absurd hd (by decide)
          · exact absurd hd (by decide)
          · exact absurd hd (by decide)
          · rw [if_pos hd]
        rw [hscalar, ← hp', List.append_assoc, List.append_assoc]
        rfl
      · obtain ⟨p', hp'⟩ := skipNumber_append hwhole hfraction hexponent hrest (p.after '-')
        rw [List.cons_append, List.nil_append] at hcs
        obtain ⟨rfl, rfl⟩ := List.cons.inj hcs
        refine ⟨p', ?_⟩
        show (advance >>= fun _ => skipNumber) _ = _
        rw [bind_ok (advance_cons _ _ _), ← hp', List.append_assoc, List.append_assoc]

end Reader

/-- A number begins with its sign or a digit. -/
theorem NumberSpelling.head {cs : List Char} (h : NumberSpelling cs) :
    ∃ c ds, cs = c :: ds ∧ (c = '-' ∨ c.isDigit = true) := by
  cases h with
  | parts hsign hwhole _ _ =>
      rcases hsign with rfl | rfl
      · obtain ⟨d, ds, rfl, hd⟩ := hwhole.head
        exact ⟨d, _, rfl, Or.inr hd⟩
      · exact ⟨'-', _, rfl, Or.inl rfl⟩

/-! ## Values that hold others -/

/-- Spaces may stand in front of what may follow a value. -/
theorem Follow.spaces {ws rest : List Char} (hws : Spaces ws) (hrest : Follow rest) :
    Follow (ws ++ rest) := by
  cases ws with
  | nil => exact hrest
  | cons w ws =>
      intro c hc
      cases hc
      rcases hws w List.mem_cons_self with rfl | rfl | rfl | rfl <;> decide

/-- A comma may follow a value. -/
theorem Follow.comma (rest : List Char) : Follow (',' :: rest) := by
  intro c hc
  cases hc
  decide

/-- A closing bracket may follow a value. -/
theorem Follow.closing (e : Enclosure) (rest : List Char) : Follow (e.closing :: rest) := by
  intro c hc
  cases hc
  cases e <;> decide

/-- A value or a key begins with a character that is no space and closes nothing. -/
theorem WellFormed.starts {e : Enclosure} {cs : List Char} (h : WellFormed (.one e) cs) :
    Starts cs := by
  cases h with
  | null => exact ⟨'n', _, rfl, rfl, by decide, by decide⟩
  | yes => exact ⟨'t', _, rfl, rfl, by decide, by decide⟩
  | no => exact ⟨'f', _, rfl, rfl, by decide, by decide⟩
  | number h =>
      obtain ⟨c, ds, rfl, rfl | hd⟩ := h.head
      · exact ⟨'-', ds, rfl, rfl, by decide, by decide⟩
      · exact ⟨c, ds, rfl, digit_not_space hd, digit_ne hd rfl, digit_ne hd rfl⟩
  | text h =>
      cases h with
      | quoted _ => exact ⟨'"', _, rfl, rfl, by decide, by decide⟩
  | empty e _ => cases e <;> exact ⟨_, _, rfl, rfl, by decide, by decide⟩
  | @enclosed e _ _ => cases e <;> exact ⟨_, _, rfl, rfl, by decide, by decide⟩
  | member hkey _ _ _ =>
      cases hkey with
      | quoted _ => exact ⟨'"', _, rfl, rfl, by decide, by decide⟩

/-- Items begin with spaces and then with an item. -/
theorem WellFormed.all_starts {e : Enclosure} {cs : List Char} (h : WellFormed (.all e) cs) :
    ∃ ws c ds, cs = ws ++ c :: ds ∧ Spaces ws ∧ Cursor.isSpace c = false ∧ c ≠ e.closing := by
  have starts : ∀ {ws one ds : List Char}, Spaces ws → Starts one →
      ∃ us c es, ws ++ (one ++ ds) = us ++ c :: es ∧ Spaces us ∧ Cursor.isSpace c = false ∧
        c ≠ e.closing := by
    rintro ws _ ds hws ⟨c, es, rfl, hspace, hlist, hobject⟩
    refine ⟨ws, c, es ++ ds, rfl, hws, hspace, ?_⟩
    cases e
    · exact hlist
    · exact hobject
  cases h with
  | last hws h _ => exact starts hws h.starts
  | more hws h _ _ => exact starts hws h.starts

namespace Reader

/-- Skips an item of what is open, and then what is left of everything around it. -/
def skipOne : Enclosure → Nat → List Enclosure → Reader Unit
  | .list, n, stack => skipWithin n stack
  | .object, n, stack => do skipKey; skipWithin n stack

/-- The spaces in front of an item may have been taken already. -/
theorem skipOne_next {c : Char} (hc : Cursor.isSpace c = false) {ds cs : List Char}
    {p p' : Position} (h : next ⟨ds, p⟩ = .ok (some c, ⟨c :: cs, p'⟩)) (e : Enclosure) (n : Nat)
    (stack : List Enclosure) :
    skipOne e (n + 1) stack ⟨c :: cs, p'⟩ = skipOne e (n + 1) stack ⟨ds, p⟩ := by
  have hnext := next_cons hc cs p'
  cases e with
  | list =>
      show skipWithin (n + 1) stack _ = skipWithin (n + 1) stack _
      unfold skipWithin
      rw [bind_ok h, bind_ok hnext]
  | object =>
      show ((next >>= _) >>= _) _ = ((next >>= _) >>= _) _
      rw [bind_assoc, bind_ok h, bind_ok hnext]

/-- A value that holds no others is skipped by the reader of such values. -/
theorem skipWithin_scalar {ws : List Char} (hws : Spaces ws) {c : Char}
    (hc : Cursor.isSpace c = false) (hlist : c ≠ '[') (hobject : c ≠ '\x7b') {cs rest : List Char}
    (h : ∀ p, ∃ p', skipScalar c ⟨c :: (cs ++ rest), p⟩ = .ok ((), ⟨rest, p'⟩)) (n : Nat)
    (stack : List Enclosure) (p : Position) :
    ∃ p', skipWithin (n + 1) stack ⟨ws ++ (c :: cs ++ rest), p⟩ = skipAfter n stack ⟨rest, p'⟩ := by
  obtain ⟨p₁, h₁⟩ := next_append hws hc (cs ++ rest) p
  obtain ⟨p₂, h₂⟩ := h p₁
  refine ⟨p₂, ?_⟩
  rw [List.cons_append]
  unfold skipWithin
  rw [bind_ok h₁]
  generalize hnext : some c = next
  split
  · exact nomatch hnext
  · cases hnext
    exact absurd rfl hlist
  · cases hnext
    exact absurd rfl hobject
  · cases hnext
    exact bind_ok h₂

/-- An opening bracket with an item behind it opens a list or an object. -/
theorem skipWithin_open (e : Enclosure) {us ws : List Char} (hus : Spaces us) (hws : Spaces ws)
    {c : Char} (hc : Cursor.isSpace c = false) (hclose : c ≠ e.closing) (n : Nat)
    (stack : List Enclosure) (cs : List Char) (p : Position) :
    ∃ p', skipWithin (n + 2) stack ⟨us ++ e.opening :: (ws ++ c :: cs), p⟩
      = skipOne e (n + 1) (e :: stack) ⟨ws ++ c :: cs, p'⟩ := by
  obtain ⟨p₁, h₁⟩ := next_append hus (c := e.opening) (by cases e <;> rfl) (ws ++ c :: cs) p
  obtain ⟨p₂, h₂⟩ := next_append hws hc cs (p₁.after e.opening)
  refine ⟨p₁.after e.opening, Eq.trans ?_ (skipOne_next hc h₂ e n (e :: stack))⟩
  unfold skipWithin
  rw [bind_ok h₁]
  cases e with
  | list =>
      show (advance >>= fun _ => next >>= _) _ = _
      rw [bind_ok (advance_cons _ _ _), bind_ok h₂]
      generalize hnext : some c = next
      split
      · exact nomatch hnext
      · cases hnext
        exact absurd rfl hclose
      · rfl
  | object =>
      show (advance >>= fun _ => next >>= _) _ = _
      rw [bind_ok (advance_cons _ _ _), bind_ok h₂]
      generalize hnext : some c = next
      split
      · cases hnext
        exact absurd rfl hclose
      · rfl

/-- An opening bracket with its closing bracket behind it is a value. -/
theorem skipWithin_empty (e : Enclosure) {us ws : List Char} (hus : Spaces us) (hws : Spaces ws)
    (n : Nat) (stack : List Enclosure) (cs : List Char) (p : Position) :
    ∃ p', skipWithin (n + 1) stack ⟨us ++ e.opening :: (ws ++ e.closing :: cs), p⟩
      = skipAfter n stack ⟨cs, p'⟩ := by
  obtain ⟨p₁, h₁⟩ :=
    next_append hus (c := e.opening) (by cases e <;> rfl) (ws ++ e.closing :: cs) p
  obtain ⟨p₂, h₂⟩ :=
    next_append hws (c := e.closing) (by cases e <;> rfl) cs (p₁.after e.opening)
  refine ⟨p₂.after e.closing, ?_⟩
  unfold skipWithin
  rw [bind_ok h₁]
  cases e
  all_goals
    show (advance >>= fun _ => next >>= _) _ = _
    rw [bind_ok (advance_cons _ _ _), bind_ok h₂]
    rfl

/-- A closing bracket ends what is open. -/
theorem skipAfter_close (e : Enclosure) {ws : List Char} (hws : Spaces ws) (n : Nat)
    (stack : List Enclosure) (cs : List Char) (p : Position) :
    ∃ p', skipAfter (n + 1) (e :: stack) ⟨ws ++ e.closing :: cs, p⟩
      = skipAfter n stack ⟨cs, p'⟩ := by
  obtain ⟨p', hp'⟩ := next_append hws (c := e.closing) (by cases e <;> rfl) cs p
  refine ⟨p'.after e.closing, ?_⟩
  cases e
  all_goals
    rw [skipAfter, bind_ok hp']
    rfl

/-- A comma goes on to the next item. -/
theorem skipAfter_comma (e : Enclosure) {ws : List Char} (hws : Spaces ws) (n : Nat)
    (stack : List Enclosure) (cs : List Char) (p : Position) :
    ∃ p', skipAfter (n + 1) (e :: stack) ⟨ws ++ ',' :: cs, p⟩
      = skipOne e n (e :: stack) ⟨cs, p'⟩ := by
  obtain ⟨p', hp'⟩ := next_append hws (c := ',') rfl cs p
  refine ⟨p'.after ',', ?_⟩
  cases e
  all_goals
    rw [skipAfter, bind_ok hp']
    rfl

/-- What it means to skip a part: the reader comes to stand right behind it, what was
    open is open again, and no more of the bound is used up than the part is long. -/
def Skips : Part → List Char → Prop
  | .one e, cs =>
      ∀ (n : Nat) (stack : List Enclosure) (ws rest : List Char) (p : Position),
        Spaces ws → Follow rest → cs.length ≤ n →
        ∃ m p', n ≤ m + cs.length ∧
          skipOne e n stack ⟨ws ++ (cs ++ rest), p⟩ = skipAfter m stack ⟨rest, p'⟩
  | .all e, cs =>
      ∀ (n : Nat) (stack : List Enclosure) (rest : List Char) (p : Position),
        cs.length < n →
        ∃ m p', n ≤ m + cs.length + 1 ∧
          skipOne e n (e :: stack) ⟨cs ++ e.closing :: rest, p⟩ = skipAfter m stack ⟨rest, p'⟩

/-- A value that holds no others is skipped in one step. -/
theorem skips_scalar {c : Char} {cs : List Char} (hc : Cursor.isSpace c = false)
    (hlist : c ≠ '[') (hobject : c ≠ '\x7b')
    (h : ∀ rest p, Follow rest →
      ∃ p', skipScalar c ⟨c :: (cs ++ rest), p⟩ = .ok ((), ⟨rest, p'⟩)) :
    Skips (.one .list) (c :: cs) := by
  intro n stack ws rest p hws hrest hn
  obtain ⟨m, rfl⟩ : ∃ m, n = m + 1 := ⟨n - 1, by simp at hn; omega⟩
  obtain ⟨p', hp'⟩ := skipWithin_scalar hws hc hlist hobject
    (fun p => h rest p hrest) m stack p
  exact ⟨m, p', by simp, hp'⟩

/-- A list or an object without items is skipped in one step. -/
theorem skips_empty (e : Enclosure) {ws : List Char} (hws : Spaces ws) :
    Skips (.one .list) (e.opening :: (ws ++ [e.closing])) := by
  intro n stack us rest p hus _ hn
  simp only [List.length_cons] at hn ⊢
  obtain ⟨m, rfl⟩ : ∃ m, n = m + 1 := ⟨n - 1, by omega⟩
  obtain ⟨p', hp'⟩ := skipWithin_empty e hus hws m stack rest p
  refine ⟨m, p', by omega, ?_⟩
  rw [List.cons_append, List.append_assoc]
  exact hp'

/-- A list or an object is opened and then skipped with its items. -/
theorem skips_enclosed {e : Enclosure} {cs : List Char} (h : WellFormed (.all e) cs)
    (ih : Skips (.all e) cs) : Skips (.one .list) (e.opening :: (cs ++ [e.closing])) := by
  intro n stack us rest p hus _ hn
  simp only [List.length_cons, List.length_append, List.length_nil] at hn ⊢
  -- The brackets pay for the step that opens and for the one that closes.
  obtain ⟨m, rfl⟩ : ∃ m, n = m + 2 := ⟨n - 2, by omega⟩
  obtain ⟨ws, c, ds, rfl, hws, hspace, hclose⟩ := h.all_starts
  obtain ⟨p₁, h₁⟩ := skipWithin_open e hus hws hspace hclose m stack (ds ++ e.closing :: rest) p
  obtain ⟨k, p₂, hk, h₂⟩ := ih (m + 1) stack rest p₁ (by omega)
  refine ⟨k, p₂, by omega, Eq.trans ?_ (h₁.trans (Eq.trans ?_ h₂))⟩
  · show skipWithin (m + 2) stack _ = _
    simp only [List.cons_append, List.append_assoc, List.nil_append]
  · rw [List.append_assoc, List.cons_append]

/-- A member of an object is skipped key first. -/
theorem skips_member {key ws vs cs : List Char} (hkey : LooseText key) (hws : Spaces ws)
    (hvs : Spaces vs) (ih : Skips (.one .list) cs) :
    Skips (.one .object) (key ++ (ws ++ ':' :: (vs ++ cs))) := by
  intro n stack us rest p hus hrest hn
  simp only [List.length_append, List.length_cons] at hn ⊢
  obtain ⟨p₁, h₁⟩ := skipKey_append hkey hus hws (vs ++ (cs ++ rest)) p
  obtain ⟨m, p₂, hm, h₂⟩ := ih n stack vs rest p₁ hvs hrest (by omega)
  refine ⟨m, p₂, by omega, ?_⟩
  show (skipKey >>= fun _ => skipWithin n stack) _ = _
  rw [List.append_assoc, List.append_assoc, List.cons_append, List.append_assoc, bind_ok h₁]
  exact h₂

/-- Behind the last item what is open is closed. -/
theorem skips_last {e : Enclosure} {ws cs vs : List Char} (hws : Spaces ws) (hvs : Spaces vs)
    (ih : Skips (.one e) cs) : Skips (.all e) (ws ++ (cs ++ vs)) := by
  intro n stack rest p hn
  simp only [List.length_append] at hn ⊢
  obtain ⟨m, p₁, hm, h₁⟩ := ih n (e :: stack) ws (vs ++ e.closing :: rest) p hws
    ((Follow.closing e rest).spaces hvs) (by omega)
  obtain ⟨k, rfl⟩ : ∃ k, m = k + 1 := ⟨m - 1, by omega⟩
  obtain ⟨p₂, h₂⟩ := skipAfter_close e hvs k stack rest p₁
  refine ⟨k, p₂, by omega, ?_⟩
  rw [List.append_assoc, List.append_assoc, h₁, h₂]

/-- Behind any other item the next is skipped. -/
theorem skips_more {e : Enclosure} {ws cs vs ds : List Char} (hws : Spaces ws) (hvs : Spaces vs)
    (ih : Skips (.one e) cs) (ihs : Skips (.all e) ds) :
    Skips (.all e) (ws ++ (cs ++ (vs ++ ',' :: ds))) := by
  intro n stack rest p hn
  simp only [List.length_append, List.length_cons] at hn ⊢
  -- The item, then the comma, then the items behind it, each on what the last has left
  -- of the bound.
  obtain ⟨m, p₁, hm, h₁⟩ := ih n (e :: stack) ws (vs ++ ',' :: (ds ++ e.closing :: rest)) p
    hws ((Follow.comma _).spaces hvs) (by omega)
  obtain ⟨k, rfl⟩ : ∃ k, m = k + 1 := ⟨m - 1, by omega⟩
  obtain ⟨p₂, h₂⟩ := skipAfter_comma e hvs k stack (ds ++ e.closing :: rest) p₁
  obtain ⟨j, p₃, hj, h₃⟩ := ihs k stack rest p₂ (by omega)
  refine ⟨j, p₃, by omega, ?_⟩
  rw [List.append_assoc, List.append_assoc, List.append_assoc, List.cons_append, h₁, h₂, h₃]

/-- A number is skipped in one step. -/
theorem skips_number {cs : List Char} (h : NumberSpelling cs) : Skips (.one .list) cs := by
  obtain ⟨c, ds, rfl, hc⟩ := h.head
  have hscalar := fun rest p (hrest : Follow rest) => skipScalar_number h hrest p
  rcases hc with rfl | hd
  · exact skips_scalar rfl (by decide) (by decide) hscalar
  · exact skips_scalar (digit_not_space hd) (digit_ne hd rfl) (digit_ne hd rfl) hscalar

/-- A text is skipped in one step. -/
theorem skips_text {cs : List Char} (h : LooseText cs) : Skips (.one .list) cs := by
  cases h with
  | @quoted body h =>
      refine skips_scalar rfl (by decide) (by decide) fun rest p _ => ?_
      rw [List.append_assoc]
      exact skipText_append h rest (p.after '"')

end Reader

open Reader in
/-- **Skipping a part** comes to stand right behind it. -/
theorem WellFormed.skips {part : Part} {cs : List Char} (h : WellFormed part cs) :
    Skips part cs := by
  -- On the part: an item runs the machine to what follows it, all items to the bracket
  -- behind them, and the length of what is left bounds the steps that are still needed.
  induction h with
  | null => exact skips_scalar rfl (by decide) (by decide) fun rest p _ =>
      word_append ['u', 'l', 'l'] rest (p.after 'n')
  | yes => exact skips_scalar rfl (by decide) (by decide) fun rest p _ =>
      word_append ['r', 'u', 'e'] rest (p.after 't')
  | no => exact skips_scalar rfl (by decide) (by decide) fun rest p _ =>
      word_append ['a', 'l', 's', 'e'] rest (p.after 'f')
  | number h => exact skips_number h
  | text h => exact skips_text h
  | empty e hws => exact skips_empty e hws
  | enclosed h ih => exact skips_enclosed h ih
  | member hkey hws hvs _ ih => exact skips_member hkey hws hvs ih
  | last hws _ hvs ih => exact skips_last hws hvs ih
  | more hws _ hvs _ ih ihs => exact skips_more hws hvs ih ihs

/-- A well-formed value is skipped whole, however deep it is nested. -/
theorem Reader.reads_skipValue {cs : List Char} (h : Value cs) : Reads skipValue cs () := by
  intro ws rest p hws hrest
  have hlen : cs.length ≤ (ws ++ (cs ++ rest)).length + 1 := by
    simp only [List.length_append]
    omega
  obtain ⟨m, p', -, hp'⟩ := h.skips _ [] ws rest p hws hrest hlen
  refine ⟨p', hp'.trans ?_⟩
  unfold skipAfter
  rfl

end WastePass.Json
