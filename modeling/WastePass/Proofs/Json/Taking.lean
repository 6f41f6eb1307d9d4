import WastePass.Proofs.Json.Reading
import WastePass.Proofs.Utf8

/-!
# Taking — readers accept nothing that is not written as the notation says

    `Takes r item`: whatever the reader `r` gives, the characters it has taken are spaces
    and a spelling of just that.  This is the converse of `Reads`.  Where a reader stands
    when it has succeeded is told by inversion: what came before each of its steps, and
    which characters the step took.
-/

namespace WastePass.Json

/-- The reader takes spaces and then a spelling of what it gives, nothing else. -/
def Takes {α : Type} (r : Reader α) (item : α → List Char → Prop) : Prop :=
  ∀ ⦃c c' : Cursor⦄ ⦃a : α⦄, r c = .ok (a, c') →
    ∃ ws cs, Spaces ws ∧ item a cs ∧ c.rest = ws ++ (cs ++ c'.rest)

/-! ## Steps of a reader -/

/-- What is made of a result is made where there is one. -/
theorem map_eq_ok {ε α β : Type} {x : Except ε α} {f : α → β} {b : β} (h : x.map f = .ok b) :
    ∃ a, x = .ok a ∧ f a = b := by
  cases x with
  | error e => exact nomatch h
  | ok a => exact ⟨a, rfl, Except.ok.inj h⟩

/-- A reader that went on after another went on from where that one stopped. -/
theorem bind_eq_ok {α β : Type} {r : Reader α} {f : α → Reader β} {c c' : Cursor} {b : β}
    (h : (r >>= f) c = .ok (b, c')) : ∃ a c₁, r c = .ok (a, c₁) ∧ f a c₁ = .ok (b, c') := by
  have h' : (r c >>= fun x => f x.1 x.2) = .ok (b, c') := h
  cases hr : r c with
  | error e =>
      rw [hr] at h'
      exact nomatch h'
  | ok x =>
      rw [hr] at h'
      exact ⟨x.1, x.2, rfl, h'⟩

/-- A reader that takes nothing stays where it is. -/
theorem pure_eq_ok {α : Type} {a b : α} {c c' : Cursor}
    (h : (pure a : Reader α) c = .ok (b, c')) : a = b ∧ c = c' := by
  cases h
  exact ⟨rfl, rfl⟩

/-- What was taken may have been put somewhere. -/
theorem Takes.map {α β : Type} {r : Reader α} {item : α → List Char → Prop}
    {item' : β → List Char → Prop} (h : Takes r item) {f : α → β}
    (hf : ∀ a cs, item a cs → item' (f a) cs) : Takes (do return f (← r)) item' := by
  intro c c' b hb
  obtain ⟨a, c₁, hr, hpure⟩ := bind_eq_ok hb
  obtain ⟨rfl, rfl⟩ := pure_eq_ok hpure
  obtain ⟨ws, cs, hws, hcs, hrest⟩ := h hr
  exact ⟨ws, cs, hws, hf a cs hcs, hrest⟩

theorem Spaces.append {ws vs : List Char} (hws : Spaces ws) (hvs : Spaces vs) :
    Spaces (ws ++ vs) := by
  intro c hc
  rcases List.mem_append.mp hc with hc | hc
  · exact hws c hc
  · exact hvs c hc

/-- What is passed over are spaces. -/
theorem pastSpaces_rest (cs : List Char) :
    ∀ p, ∃ ws, Spaces ws ∧ cs = ws ++ (Cursor.pastSpaces cs p).rest := by
  induction cs with
  | nil => exact fun p => ⟨[], Spaces.nil, rfl⟩
  | cons c cs ih =>
      intro p
      unfold Cursor.pastSpaces
      split
      · next hspace =>
          obtain ⟨ws, hws, hrest⟩ := ih (p.after c)
          refine ⟨c :: ws, ?_, congrArg (c :: ·) hrest⟩
          intro d hd
          rcases List.mem_cons.mp hd with rfl | hd
          · simpa [Cursor.isSpace, or_assoc] using hspace
          · exact hws d hd
      · exact ⟨[], Spaces.nil, rfl⟩

namespace Reader

/-- Looking for the next character takes the spaces in front of it. -/
theorem next_taken {c c₁ : Cursor} {o : Option Char} (h : next c = .ok (o, c₁)) :
    ∃ ws, Spaces ws ∧ c.rest = ws ++ c₁.rest ∧ c₁.rest.head? = o := by
  obtain ⟨ws, hws, hrest⟩ := pastSpaces_rest c.rest c.position
  cases h
  exact ⟨ws, hws, hrest, rfl⟩

/-- The next character stands behind spaces. -/
theorem next_some {c c₁ : Cursor} {x : Char} (h : next c = .ok (some x, c₁)) :
    ∃ ws xs p, Spaces ws ∧ c.rest = ws ++ x :: xs ∧ c₁ = ⟨x :: xs, p⟩ := by
  obtain ⟨ws, hws, hrest, hhead⟩ := next_taken h
  obtain ⟨_ | ⟨y, ys⟩, p⟩ := c₁
  · exact nomatch hhead
  · cases hhead
    exact ⟨ws, ys, p, hws, hrest, rfl⟩

/-- Where there is no next character, only spaces are left. -/
theorem next_none {c c₁ : Cursor} (h : next c = .ok (none, c₁)) : Spaces c.rest := by
  obtain ⟨ws, hws, hrest, hhead⟩ := next_taken h
  rw [List.head?_eq_none_iff] at hhead
  rwa [hrest, hhead, List.append_nil]

/-- The character that is looked at stands there. -/
theorem peek_some {c c₁ : Cursor} {x : Char} (h : peek c = .ok (some x, c₁)) :
    ∃ xs p, c = ⟨x :: xs, p⟩ ∧ c₁ = ⟨x :: xs, p⟩ := by
  obtain ⟨_ | ⟨y, ys⟩, p⟩ := c
  · exact nomatch h
  · cases h
    exact ⟨ys, p, rfl, rfl⟩

/-- Taking a character and then going on. -/
theorem advance_bind {α : Type} (f : Unit → Reader α) (x : Char) (xs : List Char)
    (p : Position) : (advance >>= f) ⟨x :: xs, p⟩ = f () ⟨xs, p.after x⟩ := rfl

/-- Looking at what stands there takes nothing. -/
theorem peek_taken {c c₁ : Cursor} {o : Option Char} (h : peek c = .ok (o, c₁)) : c = c₁ := by
  cases h
  rfl

/-- Where there is an error nothing is given. -/
theorem failNext_ne_ok {α : Type} {fault : Fault} {c c' : Cursor} {a : α} :
    failNext fault c ≠ .ok (a, c') := nofun

/-- A reader that refuses gives nothing. -/
theorem mismatch_ne_ok {α : Type} {expected : String} {c c' : Cursor} {a : α} :
    mismatch expected c ≠ .ok (a, c') := by
  intro h
  obtain ⟨f, c₁, -, h⟩ := bind_eq_ok h
  exact nomatch h

/-- The colon stands behind spaces. -/
theorem colon_taken {c c' : Cursor} (h : colon c = .ok ((), c')) :
    ∃ ws, Spaces ws ∧ c.rest = ws ++ ':' :: c'.rest := by
  obtain ⟨o, c₁, hnext, h⟩ := bind_eq_ok h
  split at h
  · obtain ⟨ws, cs, p, hws, hrest, rfl⟩ := next_some hnext
    cases h
    exact ⟨ws, hws, hrest⟩
  · exact nomatch h
  · exact nomatch h

/-- What has been read of a whole text leaves only spaces behind it. -/
theorem run_eq_ok {α : Type} {r : Reader α} {text : String} {a : α} (h : run r text = .ok a) :
    ∃ c, r (Cursor.ofText text) = .ok (a, c) ∧ Spaces c.rest := by
  unfold run at h
  obtain ⟨⟨b, c'⟩, hwhole, rfl⟩ := map_eq_ok h
  obtain ⟨b, c, hread, hrun⟩ := bind_eq_ok hwhole
  obtain ⟨o, c₁, hnext, hrun⟩ := bind_eq_ok hrun
  split at hrun
  · obtain ⟨rfl, -⟩ := pure_eq_ok hrun
    exact ⟨c, hread, next_none hnext⟩
  · exact nomatch hrun

end Reader

/-! ## Texts -/

/-- A hexadecimal digit stands in the list of them with its value. -/
theorem mem_hexDigits {c : Char} {v : Nat} (h : hexValue? c = some v) : (c, v) ∈ hexDigits := by
  have hbound : c.toNat < 103 := by
    unfold hexValue? at h
    simp only at h
    split at h
    · omega
    · split at h
      · omega
      · split at h
        · omega
        · exact nomatch h
  -- All of them are ASCII, where they can be gone through.
  have hall : ∀ n < 103, ∀ v ∈ hexValue? (Char.ofNat n), (Char.ofNat n, v) ∈ hexDigits := by
    decide
  have hmem := hall c.toNat hbound
  rw [Char.ofNat_toNat] at hmem
  exact hmem v h

/-- Four hexadecimal digits with a value are a unit of sixteen bits. -/
theorem hexUnit_of_value {a b c d : Char} {n : Nat} (h : hexValue4? a b c d = some n) :
    HexUnit [a, b, c, d] n := by
  simp only [hexValue4?, Option.bind_eq_bind, Option.bind_eq_some_iff, Option.pure_def] at h
  obtain ⟨i, ha, j, hb, k, hc, l, hd, hn⟩ := h
  cases hn
  exact HexUnit.digits (mem_hexDigits ha) (mem_hexDigits hb) (mem_hexDigits hc)
    (mem_hexDigits hd)

theorem HexUnit.lt {ds : List Char} {n : Nat} (h : HexUnit ds n) : n < 0x10000 := by
  have hdigit : ∀ d ∈ hexDigits, d.2 < 16 := by decide
  cases h with
  | digits ha hb hc hd =>
      have hi := hdigit _ ha
      have hj := hdigit _ hb
      have hk := hdigit _ hc
      have hl := hdigit _ hd
      simp only at hi hj hk hl
      omega

/-- A letter behind a backslash stands in the list of them with its character. -/
theorem mem_shortEscapes {l c : Char} (h : escaped? l = some c) : (l, c) ∈ shortEscapes := by
  unfold escaped? at h
  split at h
  all_goals cases h
  all_goals decide

/-- A unit that is no half of a pair writes its character. -/
theorem CharSpelling.of_unit {ds : List Char} {n : Nat} (h : HexUnit ds n)
    (htrailing : ¬ Text.Utf16.isTrailing n = true) (hleading : ¬ Text.Utf16.isLeading n = true) :
    CharSpelling (Char.ofNat n) ('\\' :: 'u' :: ds) := by
  have hvalid : n.isValidChar := by
    have hlt := h.lt
    simp only [Text.Utf16.isTrailing, Text.Utf16.isLeading, Bool.and_eq_true,
      decide_eq_true_eq] at htrailing hleading
    unfold Nat.isValidChar
    omega
  exact CharSpelling.unit (by rwa [toNat_ofNat hvalid])

/-- A leading and a trailing unit write the character they make. -/
theorem CharSpelling.of_pair {ds es : List Char} {m n : Nat} (hds : HexUnit ds m)
    (hes : HexUnit es n) (hleading : Text.Utf16.isLeading m = true)
    (htrailing : Text.Utf16.isTrailing n = true) :
    CharSpelling (Text.Utf16.joined m n) ('\\' :: 'u' :: (ds ++ '\\' :: 'u' :: es)) := by
  simp only [Text.Utf16.isTrailing, Text.Utf16.isLeading, Bool.and_eq_true,
    decide_eq_true_eq] at htrailing hleading
  have hvalid : Nat.isValidChar (0x10000 + 1024 * (m - 0xD800) + (n - 0xDC00)) := by
    unfold Nat.isValidChar
    omega
  exact CharSpelling.pair hds hes hleading htrailing (toNat_ofNat hvalid)

/-- A character that begins no escape, neither an unfinished one nor any other, is no
    backslash. -/
theorem ne_slash {c : Char} {cs : List Char} (hlast : c = '\\' → cs = [] → False)
    (hslash : ∀ d ds, c = '\\' → cs = d :: ds → False) : c ≠ '\\' := by
  intro hc
  cases cs with
  | nil => exact hlast hc rfl
  | cons d ds => exact hslash d ds hc rfl

/-- What is read up to the closing quote is written there. -/
theorem textFrom_taken (read cs : List Char) (p : Position) :
    ∀ {s : String} {c : Cursor}, textFrom read cs p = .ok (s, c) →
      ∃ t body, TextBody t body ∧ cs = body ++ '"' :: c.rest ∧
        s = String.ofList (read.reverse ++ t) := by
  -- A character that has been read moves from the front of the text to what was read.
  have step : ∀ {read ds es : List Char} {d : Char} {s : String} {c : Cursor},
      CharSpelling d es →
      (∃ t body, TextBody t body ∧ ds = body ++ '"' :: c.rest ∧
        s = String.ofList ((d :: read).reverse ++ t)) →
      ∃ t body, TextBody t body ∧ es ++ ds = body ++ '"' :: c.rest ∧
        s = String.ofList (read.reverse ++ t) := by
    rintro read _ es d _ c hd ⟨t, body, hbody, rfl, rfl⟩
    refine ⟨d :: t, es ++ body, TextBody.cons hd hbody, ?_, ?_⟩
    · rw [List.append_assoc]
    · rw [List.reverse_cons, List.append_assoc, List.singleton_append]
  -- A branch ends the text, goes on behind one character, or is an error.
  fun_induction textFrom read cs p with
  | case2 read cs p =>
      intro s c h
      cases h
      exact ⟨[], [], TextBody.nil, rfl, by rw [List.append_nil]⟩
  | case7 read a b c d p m hm _ hleading e f g h ds n hn htrailing ih =>
      intro s c' hs
      exact step (CharSpelling.of_pair (hexUnit_of_value hm) (hexUnit_of_value hn) hleading
        htrailing) (ih hs)
  | case14 read a b c d cs p n hn htrailing hleading ih =>
      intro s c' hs
      exact step (CharSpelling.of_unit (hexUnit_of_value hn) htrailing hleading) (ih hs)
  | case16 read l cs p _ _ e he ih =>
      intro s c' hs
      exact step (CharSpelling.short (mem_shortEscapes he)) (ih hs)
  | case19 read c cs p hquote hlast _ _ hslash hcontrol ih =>
      intro s c' hs
      exact step (CharSpelling.plain hquote (ne_slash hlast hslash)
        (Nat.le_of_not_lt hcontrol)) (ih hs)
  | _ => exact fun h => nomatch h

namespace Reader

/-- A text whose opening quote has been taken is written up to its closing quote. -/
theorem readText_taken {c c' : Cursor} {s : String} (h : readText c = .ok (s, c')) :
    ∃ body, TextBody s.toList body ∧ c.rest = body ++ '"' :: c'.rest := by
  obtain ⟨t, body, hbody, hrest, rfl⟩ := textFrom_taken [] c.rest c.position h
  exact ⟨body, by rwa [List.reverse_nil, List.nil_append, String.toList_ofList], hrest⟩

/-- A text is written where one is read. -/
theorem takes_text : Takes text TextSpelling := by
  intro c c' s h
  obtain ⟨o, c₁, hnext, h⟩ := bind_eq_ok h
  split at h
  · obtain ⟨ws, cs, p, hws, hrest, rfl⟩ := next_some hnext
    obtain ⟨body, hbody, hcs⟩ := readText_taken h
    refine ⟨ws, _, hws, TextSpelling.quoted hbody, ?_⟩
    rw [hrest, List.cons_append, List.append_assoc, List.singleton_append, ← hcs]
    rfl
  · exact absurd h mismatch_ne_ok

end Reader

end WastePass.Json
