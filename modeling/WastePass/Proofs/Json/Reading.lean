import WastePass.Proofs.Json.Spelling

/-!
# Reading — readers take exactly what was written

    `Reads r cs a`: in front of anything that may follow a value, and behind any spaces,
    the reader `r` takes the characters `cs`, gives `a` and leaves the rest.  Where the
    cursor stands afterwards does not matter to what is read, so positions are only
    said to exist.
-/

namespace WastePass.Json

/-! ## Steps of a reader -/

/-- What may stand behind a value: nothing that could belong to a number. -/
def Follow (rest : List Char) : Prop :=
  ∀ c ∈ rest.head?, c.isDigit = false ∧ c ≠ '.' ∧ c ≠ 'e' ∧ c ≠ 'E'

/-- The reader takes these characters, behind any spaces, and gives this. -/
def Reads {α : Type} (r : Reader α) (cs : List Char) (a : α) : Prop :=
  ∀ (ws rest : List Char) (p : Position), Spaces ws → Follow rest →
    ∃ p', r ⟨ws ++ (cs ++ rest), p⟩ = .ok (a, ⟨rest, p'⟩)

/-- A reader that goes on after another goes on from where that one stopped. -/
theorem bind_ok {α β : Type} {r : Reader α} {f : α → Reader β} {c c' : Cursor} {a : α}
    (h : r c = .ok (a, c')) : (r >>= f) c = f a c' := by
  show (r c >>= fun x => f x.1 x.2) = _
  rw [h]
  rfl

/-- What has been read may be put somewhere. -/
theorem Reads.map {α β : Type} {r : Reader α} {cs : List Char} {a : α} (h : Reads r cs a)
    (f : α → β) : Reads (do return f (← r)) cs (f a) := by
  intro ws rest p hws hrest
  obtain ⟨p', hp'⟩ := h ws rest p hws hrest
  refine ⟨p', ?_⟩
  show (r >>= fun x => pure (f x)) _ = _
  rw [bind_ok hp']
  rfl

/-- No characters are spaces. -/
theorem Spaces.nil : Spaces [] := fun _ h => absurd h List.not_mem_nil

/-- Spaces in front of spaces. -/
theorem Spaces.cons {c : Char} {cs : List Char} (h : Spaces (c :: cs)) :
    Cursor.isSpace c = true ∧ Spaces cs := by
  refine ⟨?_, fun x hx => h x (List.mem_cons_of_mem c hx)⟩
  rcases h c List.mem_cons_self with rfl | rfl | rfl | rfl <;> rfl

/-- Spaces end where a character stands that is none. -/
theorem pastSpaces_append {ws : List Char} (hws : Spaces ws) {c : Char}
    (hc : Cursor.isSpace c = false) (cs : List Char) :
    ∀ p, ∃ p', Cursor.pastSpaces (ws ++ c :: cs) p = ⟨c :: cs, p'⟩ := by
  induction ws with
  | nil =>
      intro p
      refine ⟨p, ?_⟩
      show (if Cursor.isSpace c then _ else _) = _
      rw [hc]
      rfl
  | cons w ws ih =>
      intro p
      obtain ⟨hw, hws⟩ := hws.cons
      obtain ⟨p', hp'⟩ := ih hws (p.after w)
      refine ⟨p', ?_⟩
      show (if Cursor.isSpace w then _ else _) = _
      rw [if_pos hw]
      exact hp'

/-- Spaces may stand at the end. -/
theorem pastSpaces_spaces {ws : List Char} (hws : Spaces ws) :
    ∀ p, ∃ p', Cursor.pastSpaces ws p = ⟨[], p'⟩ := by
  induction ws with
  | nil => exact fun p => ⟨p, rfl⟩
  | cons w ws ih =>
      intro p
      obtain ⟨hw, hws⟩ := hws.cons
      obtain ⟨p', hp'⟩ := ih hws (p.after w)
      refine ⟨p', ?_⟩
      show (if Cursor.isSpace w then _ else _) = _
      rw [if_pos hw]
      exact hp'

namespace Reader

/-- The next character behind spaces. -/
theorem next_append {ws : List Char} (hws : Spaces ws) {c : Char}
    (hc : Cursor.isSpace c = false) (cs : List Char) (p : Position) :
    ∃ p', next ⟨ws ++ c :: cs, p⟩ = .ok (some c, ⟨c :: cs, p'⟩) := by
  obtain ⟨p', hp'⟩ := pastSpaces_append hws hc cs p
  refine ⟨p', ?_⟩
  unfold next
  rw [hp']
  rfl

/-- Behind the last spaces there is no character. -/
theorem next_end {ws : List Char} (hws : Spaces ws) (p : Position) :
    ∃ p', next ⟨ws, p⟩ = .ok (none, ⟨[], p'⟩) := by
  obtain ⟨p', hp'⟩ := pastSpaces_spaces hws p
  refine ⟨p', ?_⟩
  unfold next
  rw [hp']
  rfl

/-- A character that is no space is next where it stands. -/
theorem next_cons {c : Char} (hc : Cursor.isSpace c = false) (cs : List Char) (p : Position) :
    next ⟨c :: cs, p⟩ = .ok (some c, ⟨c :: cs, p⟩) := by
  unfold next Cursor.pastSpaces
  rw [hc]
  rfl

/-- Taking a character. -/
theorem advance_cons (c : Char) (cs : List Char) (p : Position) :
    advance ⟨c :: cs, p⟩ = .ok ((), ⟨cs, p.after c⟩) := rfl

/-- Looking at a character. -/
theorem peek_cons (c : Char) (cs : List Char) (p : Position) :
    peek ⟨c :: cs, p⟩ = .ok (some c, ⟨c :: cs, p⟩) := rfl

/-- Where a reader stands. -/
theorem get_ok (c : Cursor) : (get : Reader Cursor) c = .ok (c, c) := rfl

/-- The colon behind a key. -/
theorem colon_append {ws : List Char} (hws : Spaces ws) (cs : List Char) (p : Position) :
    ∃ p', colon ⟨ws ++ ':' :: cs, p⟩ = .ok ((), ⟨cs, p'⟩) := by
  obtain ⟨p₁, h₁⟩ := next_append hws (c := ':') rfl cs p
  refine ⟨p₁.after ':', ?_⟩
  unfold colon
  rw [bind_ok h₁]
  rfl

end Reader

/-! ## Texts -/

/-- The value of a hexadecimal digit. -/
theorem hexValue?_of_mem {c : Char} {v : Nat} (h : (c, v) ∈ hexDigits) :
    hexValue? c = some v := by
  have hall : ∀ d ∈ hexDigits, hexValue? d.1 = some d.2 := by decide
  exact hall (c, v) h

/-- The value of four hexadecimal digits. -/
theorem HexUnit.hexValue4? {ds : List Char} {n : Nat} (h : HexUnit ds n) :
    ∃ a b c d, ds = [a, b, c, d] ∧ Json.hexValue4? a b c d = some n := by
  cases h with
  | @digits a b c d i j k l ha hb hc hd =>
      refine ⟨a, b, c, d, rfl, ?_⟩
      simp [Json.hexValue4?, hexValue?_of_mem ha, hexValue?_of_mem hb, hexValue?_of_mem hc,
        hexValue?_of_mem hd]

/-- A character is no half of a pair. -/
theorem not_surrogate (c : Char) :
    Text.Utf16.isTrailing c.toNat = false ∧ Text.Utf16.isLeading c.toNat = false := by
  have hvalid : c.toNat < 0xD800 ∨ 0xDFFF < c.toNat ∧ c.toNat < 0x110000 := c.valid
  unfold Text.Utf16.isTrailing Text.Utf16.isLeading
  rw [Bool.and_eq_false_iff, Bool.and_eq_false_iff]
  simp only [decide_eq_false_iff_not]
  omega

/-- A character written as one unit. -/
theorem textFrom_unit {ds : List Char} {c : Char} (h : HexUnit ds c.toNat) (read cs : List Char)
    (p : Position) :
    textFrom read ('\\' :: 'u' :: (ds ++ cs)) p = textFrom (c :: read) cs (p.plus 6) := by
  obtain ⟨x, y, z, w, rfl, hvalue⟩ := h.hexValue4?
  obtain ⟨htrailing, hleading⟩ := not_surrogate c
  show textFrom read ('\\' :: 'u' :: x :: y :: z :: w :: cs) p = _
  rw [textFrom, hvalue]
  simp only [htrailing, hleading, Char.ofNat_toNat]
  rfl

/-- A character written as a pair of units. -/
theorem textFrom_pair {ds es : List Char} {m n : Nat} (hds : HexUnit ds m) (hes : HexUnit es n)
    (hm : 0xD800 ≤ m ∧ m ≤ 0xDBFF) (hn : 0xDC00 ≤ n ∧ n ≤ 0xDFFF) {c : Char}
    (hc : c.toNat = 0x10000 + 0x400 * (m - 0xD800) + (n - 0xDC00)) (read cs : List Char)
    (p : Position) :
    textFrom read ('\\' :: 'u' :: (ds ++ '\\' :: 'u' :: (es ++ cs))) p
      = textFrom (c :: read) cs (p.plus 12) := by
  obtain ⟨x, y, z, w, rfl, hfirst⟩ := hds.hexValue4?
  obtain ⟨x', y', z', w', rfl, hsecond⟩ := hes.hexValue4?
  -- The first unit leads and does not trail, the second trails.
  have hleading : Text.Utf16.isLeading m = true := by
    unfold Text.Utf16.isLeading
    rw [Bool.and_eq_true, decide_eq_true_eq, decide_eq_true_eq]
    exact hm
  have hnot : Text.Utf16.isTrailing m = false := by
    unfold Text.Utf16.isTrailing
    rw [Bool.and_eq_false_iff, decide_eq_false_iff_not]
    omega
  have htrailing : Text.Utf16.isTrailing n = true := by
    unfold Text.Utf16.isTrailing
    rw [Bool.and_eq_true, decide_eq_true_eq, decide_eq_true_eq]
    exact hn
  have hjoined : Text.Utf16.joined m n = c := by
    unfold Text.Utf16.joined
    rw [← hc, Char.ofNat_toNat]
  show textFrom read
    ('\\' :: 'u' :: x :: y :: z :: w :: '\\' :: 'u' :: x' :: y' :: z' :: w' :: cs) p = _
  rw [textFrom, hfirst]
  simp only [hnot, hleading, hsecond, htrailing, hjoined]
  rfl

/-- A character written by a short escape. -/
theorem textFrom_short {l c : Char} (h : (l, c) ∈ shortEscapes) (read cs : List Char)
    (p : Position) :
    textFrom read ('\\' :: l :: cs) p = textFrom (c :: read) cs (p.plus 2) := by
  simp only [shortEscapes, List.mem_cons, List.not_mem_nil, or_false, Prod.mk.injEq] at h
  rcases h with ⟨rfl, rfl⟩ | ⟨rfl, rfl⟩ | ⟨rfl, rfl⟩ | ⟨rfl, rfl⟩ | ⟨rfl, rfl⟩ |
    ⟨rfl, rfl⟩ | ⟨rfl, rfl⟩ | ⟨rfl, rfl⟩ <;> rfl

/-- A character written plainly. -/
theorem textFrom_plain {c : Char} (hquote : c ≠ '"') (hslash : c ≠ '\\')
    (hcontrol : 32 ≤ c.toNat) (read cs : List Char) (p : Position) :
    textFrom read (c :: cs) p = textFrom (c :: read) cs (p.after c) := by
  rw [textFrom.eq_def]
  -- Its branches are on whole patterns; a plain character is in the last of them.
  generalize hcs : c :: cs = text
  split
  · exact nomatch hcs
  · exact absurd (List.cons.inj hcs).1 hquote
  · exact absurd (List.cons.inj hcs).1 hslash
  · exact absurd (List.cons.inj hcs).1 hslash
  · exact absurd (List.cons.inj hcs).1 hslash
  · exact absurd (List.cons.inj hcs).1 hslash
  · obtain ⟨rfl, rfl⟩ := List.cons.inj hcs
    exact if_neg (Nat.not_lt.mpr hcontrol)

/-- A character written in any way. -/
theorem textFrom_char {c : Char} {cs : List Char} (h : CharSpelling c cs) (read ds : List Char)
    (p : Position) :
    ∃ p', textFrom read (cs ++ ds) p = textFrom (c :: read) ds p' := by
  cases h with
  | plain hquote hslash hcontrol =>
      exact ⟨_, textFrom_plain hquote hslash hcontrol read ds p⟩
  | short h => exact ⟨_, textFrom_short h read ds p⟩
  | unit h => exact ⟨_, textFrom_unit h read ds p⟩
  | pair hds hes hm hn hc =>
      refine ⟨_, Eq.trans ?_ (textFrom_pair hds hes hm hn hc read ds p)⟩
      rw [List.cons_append, List.cons_append, List.append_assoc]
      rfl

/-- The characters up to the closing quote. -/
theorem textFrom_body {s body : List Char} (h : TextBody s body) (rest : List Char) :
    ∀ (read : List Char) (p : Position), ∃ p',
      textFrom read (body ++ '"' :: rest) p
        = .ok (String.ofList (read.reverse ++ s), ⟨rest, p'⟩) := by
  -- For all that was read before: each character goes in front of it.
  induction h with
  | nil =>
      intro read p
      refine ⟨p.plus 1, ?_⟩
      rw [List.append_nil]
      rfl
  | @cons c s cs ds hc _ ih =>
      intro read p
      obtain ⟨p₁, h₁⟩ := textFrom_char hc read (ds ++ '"' :: rest) p
      obtain ⟨p₂, h₂⟩ := ih (c :: read) p₁
      refine ⟨p₂, ?_⟩
      rw [List.append_assoc, h₁, h₂, List.reverse_cons, List.append_assoc]
      rfl

namespace Reader

/-- A text whose opening quote has been taken. -/
theorem readText_append {s : String} {body : List Char} (h : TextBody s.toList body)
    (rest : List Char) (p : Position) :
    ∃ p', readText ⟨body ++ '"' :: rest, p⟩ = .ok (s, ⟨rest, p'⟩) := by
  obtain ⟨p', hp'⟩ := textFrom_body h rest [] p
  refine ⟨p', ?_⟩
  rw [List.reverse_nil, List.nil_append, String.ofList_toList] at hp'
  exact hp'

/-- A text where one is expected. -/
theorem reads_text {s : String} {cs : List Char} (h : TextSpelling s cs) : Reads text cs s := by
  intro ws rest p hws _
  cases h with
  | @quoted body h =>
      rw [List.cons_append, List.append_assoc]
      obtain ⟨p₁, h₁⟩ := next_append hws (c := '"') rfl (body ++ '"' :: rest) p
      obtain ⟨p₂, h₂⟩ := readText_append h rest (p₁.after '"')
      refine ⟨p₂, ?_⟩
      unfold text
      show (next >>= _) ⟨ws ++ '"' :: (body ++ '"' :: rest), p⟩ = _
      rw [bind_ok h₁]
      show (advance >>= fun _ => readText) _ = _
      rw [bind_ok (advance_cons _ _ _), h₂]

end Reader

end WastePass.Json
