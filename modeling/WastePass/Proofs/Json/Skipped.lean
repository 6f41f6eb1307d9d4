import WastePass.Proofs.Json.Skipping
import WastePass.Proofs.Json.Taking

/-!
# Skipped — what has been left alone was a well-formed value

    The converse of skipping.  A value that holds no others is told from its first
    character.  Of one that holds others the machine has only read a front part while
    it runs: what follows has to end everything that is open around it.  `Closes` says
    what that is, enclosure by enclosure, and `skipped` carries it through every step.
-/

namespace WastePass.Json

/-! ## Texts -/

/-- What is passed over up to the closing quote stands there, as texts are written. -/
theorem pastText_taken (cs : List Char) (p : Position) :
    ∀ {c : Cursor}, pastText cs p = .ok c →
      ∃ body, LooseBody body ∧ cs = body ++ '"' :: c.rest := by
  fun_induction pastText cs p with
  | case2 cs p =>
      intro c h
      cases h
      exact ⟨[], LooseBody.nil, rfl⟩
  | case5 a b c d cs p n hn ih =>
      intro c' h
      obtain ⟨body, hbody, rfl⟩ := ih h
      exact ⟨_, LooseBody.unit (hexUnit_of_value hn) hbody, rfl⟩
  | case7 l cs p _ _ e he ih =>
      intro c' h
      obtain ⟨body, hbody, rfl⟩ := ih h
      exact ⟨_, LooseBody.short (mem_shortEscapes he) hbody, rfl⟩
  | case10 c cs p hquote hlast _ _ hslash hcontrol ih =>
      intro c' h
      obtain ⟨body, hbody, rfl⟩ := ih h
      exact ⟨_, LooseBody.plain hquote (ne_slash hlast hslash) (Nat.le_of_not_lt hcontrol) hbody,
        rfl⟩
  | _ => exact fun h => nomatch h

namespace Reader

/-- A skipped text whose opening quote has been taken ends at its closing quote. -/
theorem skipText_taken {c c' : Cursor} (h : skipText c = .ok ((), c')) :
    ∃ body, LooseBody body ∧ c.rest = body ++ '"' :: c'.rest := by
  unfold skipText at h
  obtain ⟨c₁, htext, heq⟩ := map_eq_ok h
  cases heq
  exact pastText_taken c.rest c.position htext

/-- A skipped key stands in front of its colon. -/
theorem skipKey_taken {c c' : Cursor} (h : skipKey c = .ok ((), c')) :
    ∃ ws key us, Spaces ws ∧ LooseText key ∧ Spaces us ∧
      c.rest = ws ++ (key ++ (us ++ ':' :: c'.rest)) := by
  obtain ⟨o, c₁, hnext, h⟩ := bind_eq_ok h
  split at h
  · obtain ⟨ws, xs, p, hws, hrest, rfl⟩ := next_some hnext
    rw [advance_bind] at h
    obtain ⟨_, c₂, htext, hcolon⟩ := bind_eq_ok h
    obtain ⟨body, hbody, hxs⟩ := skipText_taken htext
    obtain ⟨us, hus, hc₂⟩ := colon_taken hcolon
    refine ⟨ws, _, us, hws, LooseText.quoted hbody, hus, ?_⟩
    rw [hrest, List.cons_append, List.append_assoc, List.singleton_append, ← hc₂, ← hxs]
  · exact nomatch h
  · exact nomatch h

/-- The letters of a word stand where it has been taken. -/
theorem word_taken (letters : List Char) :
    ∀ {c c' : Cursor}, word letters c = .ok ((), c') → c.rest = letters ++ c'.rest := by
  induction letters with
  | nil =>
      intro c c' h
      cases h
      rfl
  | cons l letters ih =>
      intro c c' h
      obtain ⟨o, c₁, hpeek, hword⟩ := bind_eq_ok h
      split at hword
      · exact nomatch hword
      · obtain ⟨xs, p, rfl, rfl⟩ := peek_some hpeek
        split at hword
        · next heq =>
            rw [← heq]
            exact congrArg (_ :: ·) (ih hword)
        · exact nomatch hword

/-! ## Numbers -/

/-- Digits stand where they have been taken. -/
theorem digitsFrom_taken (cs : List Char) (p : Position) :
    ∃ ds, (∀ d ∈ ds, d.isDigit = true) ∧ (digitsFrom cs p).1.length = ds.length ∧
      cs = ds ++ (digitsFrom cs p).2.rest := by
  fun_induction digitsFrom cs p with
  | case1 p => exact ⟨[], fun d hd => absurd hd List.not_mem_nil, rfl, rfl⟩
  | case2 c cs p _ => exact ⟨[], fun d hd => absurd hd List.not_mem_nil, rfl, rfl⟩
  | case3 c cs p d hd values after hvalues ih =>
      rw [hvalues] at ih
      obtain ⟨ds, hds, hlen, hcs⟩ := ih
      have hdigit : c.isDigit = true := by
        unfold digitValue? at hd
        exact (Option.ite_none_right_eq_some.mp hd).1
      refine ⟨c :: ds, ?_, congrArg (· + 1) hlen, congrArg (c :: ·) hcs⟩
      rintro x (_ | ⟨_, hx⟩)
      · exact hdigit
      · exact hds x hx

/-- Digits have been taken where there was one at least. -/
theorem digits_taken {c c' : Cursor} {values : List Nat} (h : digits c = .ok (values, c'))
    (hne : values.isEmpty = false) : ∃ ds, Digits ds ∧ c.rest = ds ++ c'.rest := by
  obtain ⟨ds, hds, hlen, hrest⟩ := digitsFrom_taken c.rest c.position
  rw [show digitsFrom c.rest c.position = (values, c') from Except.ok.inj h] at hlen hrest
  refine ⟨ds, ⟨?_, hds⟩, hrest⟩
  rintro rfl
  have hnil : values = [] := List.length_eq_zero_iff.mp hlen
  rw [hnil] at hne
  exact nomatch hne

/-- There is one at least where one stands. -/
theorem digits_isEmpty {d : Char} {xs : List Char} {p : Position} {values : List Nat}
    {c' : Cursor} (hd : d.isDigit = true) (h : digits ⟨d :: xs, p⟩ = .ok (values, c')) :
    values.isEmpty = false := by
  unfold digits digitsFrom digitValue? at h
  rw [if_pos hd] at h
  cases h
  rfl

/-- A sign that has been taken is one that an exponent may have. -/
theorem exponentSign_taken {c c' : Cursor} {down : Bool}
    (h : exponentSign c = .ok (down, c')) :
    ∃ sign, (sign = [] ∨ sign = ['+'] ∨ sign = ['-']) ∧ c.rest = sign ++ c'.rest := by
  obtain ⟨o, c₁, hpeek, h⟩ := bind_eq_ok h
  split at h
  · obtain ⟨xs, p, rfl, rfl⟩ := peek_some hpeek
    cases h
    exact ⟨['+'], Or.inr (Or.inl rfl), rfl⟩
  · obtain ⟨xs, p, rfl, rfl⟩ := peek_some hpeek
    cases h
    exact ⟨['-'], Or.inr (Or.inr rfl), rfl⟩
  · obtain rfl := peek_taken hpeek
    cases h
    exact ⟨[], Or.inl rfl, rfl⟩

/-- An exponent stands where one has been skipped. -/
theorem skipExponent_taken {e : Char} {xs : List Char} {p : Position} {c' : Cursor}
    (he : e = 'e' ∨ e = 'E') (h : skipExponent ⟨e :: xs, p⟩ = .ok ((), c')) :
    ∃ exponent, Exponent exponent ∧ e :: xs = exponent ++ c'.rest := by
  unfold skipExponent at h
  rw [advance_bind] at h
  obtain ⟨down, c₁, hdown, hrun⟩ := bind_eq_ok h
  obtain ⟨sign, hsign, hxs⟩ := exponentSign_taken hdown
  obtain ⟨o, c₂, hpeek, hrun⟩ := bind_eq_ok hrun
  split at hrun
  · exact nomatch hrun
  · obtain ⟨ys, q, rfl, rfl⟩ := peek_some hpeek
    split at hrun
    · exact nomatch hrun
    · next hdigit =>
        obtain ⟨values, c₃, hvalues, hrun⟩ := bind_eq_ok hrun
        obtain ⟨-, rfl⟩ := pure_eq_ok hrun
        obtain ⟨ds, hds, hrest⟩ :=
          digits_taken hvalues (digits_isEmpty (by simpa using hdigit) hvalues)
        refine ⟨_, Exponent.some he hsign hds, ?_⟩
        rw [List.cons_append, List.append_assoc, ← hrest, ← hxs]

/-- An exponent, if there is one, stands where one may have been skipped. -/
theorem skipOptionalExponent_taken {c c' : Cursor}
    (h : skipOptionalExponent c = .ok ((), c')) :
    ∃ exponent, Exponent exponent ∧ c.rest = exponent ++ c'.rest := by
  obtain ⟨o, c₁, hpeek, h⟩ := bind_eq_ok h
  split at h
  · obtain ⟨xs, p, rfl, rfl⟩ := peek_some hpeek
    exact skipExponent_taken (Or.inl rfl) h
  · obtain ⟨xs, p, rfl, rfl⟩ := peek_some hpeek
    exact skipExponent_taken (Or.inr rfl) h
  · obtain rfl := peek_taken hpeek
    cases h
    exact ⟨[], Exponent.none, rfl⟩

/-- A fraction and an exponent stand behind the whole part of a number, if there are any. -/
theorem skipFraction_taken {c c' : Cursor} (h : skipFraction c = .ok ((), c')) :
    ∃ fraction exponent, Fraction fraction ∧ Exponent exponent ∧
      c.rest = fraction ++ (exponent ++ c'.rest) := by
  obtain ⟨o, c₁, hpeek, h⟩ := bind_eq_ok h
  split at h
  · obtain ⟨xs, p, rfl, rfl⟩ := peek_some hpeek
    rw [advance_bind] at h
    obtain ⟨values, c₂, hvalues, h⟩ := bind_eq_ok h
    split at h
    · exact nomatch h
    · next hne =>
        obtain ⟨ds, hds, hxs⟩ := digits_taken hvalues (by simpa using hne)
        obtain ⟨exponent, hexponent, hrest⟩ := skipOptionalExponent_taken h
        refine ⟨_, exponent, Fraction.some hds, hexponent, ?_⟩
        rw [List.cons_append, ← hrest, ← hxs]
  · obtain ⟨xs, p, rfl, rfl⟩ := peek_some hpeek
    obtain ⟨exponent, hexponent, hrest⟩ := skipExponent_taken (Or.inl rfl) h
    exact ⟨[], exponent, Fraction.none, hexponent, hrest⟩
  · obtain ⟨xs, p, rfl, rfl⟩ := peek_some hpeek
    obtain ⟨exponent, hexponent, hrest⟩ := skipExponent_taken (Or.inr rfl) h
    exact ⟨[], exponent, Fraction.none, hexponent, hrest⟩
  · obtain rfl := peek_taken hpeek
    cases h
    exact ⟨[], [], Fraction.none, Exponent.none, rfl⟩

/-- The whole part of a number stands in front of what follows it. -/
theorem skipNumber_whole_taken {c c' : Cursor} (h : skipNumber c = .ok ((), c')) :
    ∃ whole c₁, Whole whole ∧ c.rest = whole ++ c₁.rest ∧ skipFraction c₁ = .ok ((), c') := by
  unfold skipNumber at h
  obtain ⟨o, c₁, hpeek, hrun⟩ := bind_eq_ok h
  split at hrun
  · exact nomatch hrun
  · obtain ⟨xs, p, rfl, rfl⟩ := peek_some hpeek
    rw [advance_bind] at hrun
    obtain ⟨o, c₂, hpeek, hrun⟩ := bind_eq_ok hrun
    obtain rfl := peek_taken hpeek
    refine ⟨['0'], ⟨xs, p.after '0'⟩, Whole.zero, rfl, ?_⟩
    split at hrun
    · split at hrun
      · exact nomatch hrun
      · exact hrun
    · exact hrun
  · next d hzero =>
      obtain ⟨xs, p, rfl, rfl⟩ := peek_some hpeek
      split at hrun
      · next hdigit =>
          obtain ⟨values, c₂, hvalues, hrun⟩ := bind_eq_ok hrun
          obtain ⟨ds, hds, hrest⟩ := digits_taken hvalues (digits_isEmpty hdigit hvalues)
          refine ⟨ds, c₂, ?_, hrest, hrun⟩
          cases ds with
          | nil => exact absurd rfl hds.1
          | cons e ds =>
              obtain ⟨rfl, -⟩ := List.cons.inj hrest
              exact Whole.digits hds hzero
      · exact nomatch hrun

/-- A number stands where one has been skipped, its sign apart. -/
theorem skipNumber_taken {c c' : Cursor} (h : skipNumber c = .ok ((), c')) :
    ∃ whole fraction exponent, Whole whole ∧ Fraction fraction ∧ Exponent exponent ∧
      c.rest = whole ++ (fraction ++ (exponent ++ c'.rest)) := by
  obtain ⟨whole, c₁, hwhole, hc, hfraction⟩ := skipNumber_whole_taken h
  obtain ⟨fraction, exponent, hfraction, hexponent, hc₁⟩ := skipFraction_taken hfraction
  exact ⟨whole, fraction, exponent, hwhole, hfraction, hexponent, by rw [hc, hc₁]⟩

/-! ## Values that hold no others -/

/-- A number with its sign stands where it has been skipped. -/
theorem number_taken (sign : List Char) {c c' : Cursor} (hsign : sign = [] ∨ sign = ['-'])
    (h : skipNumber c = .ok ((), c')) :
    ∃ cs, Value cs ∧ sign ++ c.rest = cs ++ c'.rest := by
  obtain ⟨whole, fraction, exponent, hwhole, hfraction, hexponent, hrest⟩ := skipNumber_taken h
  refine ⟨_, WellFormed.number (NumberSpelling.parts hsign hwhole hfraction hexponent), ?_⟩
  rw [hrest]
  simp only [List.append_assoc]

/-- A value that holds no others stands where it has been skipped. -/
theorem skipScalar_taken {x : Char} {xs : List Char} {p : Position} {c' : Cursor}
    (h : skipScalar x ⟨x :: xs, p⟩ = .ok ((), c')) :
    ∃ cs, Value cs ∧ x :: xs = cs ++ c'.rest := by
  unfold skipScalar at h
  split at h
  · exact ⟨_, WellFormed.null, congrArg ('n' :: ·) (word_taken ['u', 'l', 'l'] h)⟩
  · exact ⟨_, WellFormed.yes, congrArg ('t' :: ·) (word_taken ['r', 'u', 'e'] h)⟩
  · exact ⟨_, WellFormed.no, congrArg ('f' :: ·) (word_taken ['a', 'l', 's', 'e'] h)⟩
  · exact number_taken ['-'] (Or.inr rfl) (c := ⟨xs, p.after '-'⟩) h
  · obtain ⟨body, hbody, hrest⟩ := skipText_taken (c := ⟨xs, p.after '"'⟩) h
    refine ⟨_, WellFormed.text (LooseText.quoted hbody), ?_⟩
    rw [show xs = _ from hrest, List.cons_append, List.append_assoc, List.singleton_append]
  · split at h
    · exact number_taken [] (Or.inl rfl) h
    · exact nomatch h

end Reader

/-! ## What is left of lists and objects -/

/-- What is left of a list or an object behind one of its items. -/
inductive Left (e : Enclosure) : List Char → Prop
  | close {ws : List Char} (hws : Spaces ws) : Left e (ws ++ [e.closing])
  | more {ws cs : List Char} (hws : Spaces ws) (h : WellFormed (.all e) cs) :
      Left e (ws ++ ',' :: (cs ++ [e.closing]))

/-- An item and what is left behind it are items and a bracket. -/
theorem Left.items {e : Enclosure} {ws cs ds : List Char} (hds : Left e ds) (hws : Spaces ws)
    (hcs : WellFormed (.one e) cs) :
    ∃ es, WellFormed (.all e) es ∧ ws ++ (cs ++ ds) = es ++ [e.closing] := by
  cases hds with
  | close hvs =>
      refine ⟨_, WellFormed.last hws hcs hvs, ?_⟩
      simp only [List.append_assoc]
  | more hvs h =>
      refine ⟨_, WellFormed.more hws hcs hvs h, ?_⟩
      simp only [List.append_assoc, List.cons_append]

/-- What is left of everything that is open, the innermost first. -/
inductive Closes : List Enclosure → List Char → Prop
  | nil : Closes [] []
  | cons {e : Enclosure} {stack : List Enclosure} {cs ds : List Char} (hcs : Left e cs)
      (hds : Closes stack ds) : Closes (e :: stack) (cs ++ ds)

namespace Reader

/-! ## The machine -/

/-- Between these places stand an item of what is open and what is left of all that is. -/
def ItemTaken (e : Enclosure) (stack : List Enclosure) (c c' : Cursor) : Prop :=
  ∃ ws cs ds, Spaces ws ∧ WellFormed (.one e) cs ∧ Closes stack ds ∧
    c.rest = ws ++ (cs ++ (ds ++ c'.rest))

/-- Between these places stands what is left of all that is open. -/
def RestTaken (stack : List Enclosure) (c c' : Cursor) : Prop :=
  ∃ ds, Closes stack ds ∧ c.rest = ds ++ c'.rest

/-- Spaces may stand in front of an item. -/
theorem ItemTaken.spaces {e : Enclosure} {stack : List Enclosure} {c c₁ c' : Cursor}
    {ws : List Char} (h : ItemTaken e stack c₁ c') (hws : Spaces ws)
    (hrest : c.rest = ws ++ c₁.rest) : ItemTaken e stack c c' := by
  obtain ⟨vs, cs, ds, hvs, hcs, hds, hc₁⟩ := h
  exact ⟨ws ++ vs, cs, ds, hws.append hvs, hcs, hds, by rw [hrest, hc₁, List.append_assoc]⟩

/-- A member of an object is a key and a value. -/
theorem ItemTaken.member {stack : List Enclosure} {c c₁ c' : Cursor}
    (hkey : skipKey c = .ok ((), c₁)) (h : ItemTaken .list stack c₁ c') :
    ItemTaken .object stack c c' := by
  obtain ⟨ws, key, us, hws, hkey, hus, hrest⟩ := skipKey_taken hkey
  obtain ⟨vs, cs, ds, hvs, hcs, hds, hc₁⟩ := h
  refine ⟨ws, _, ds, hws, WellFormed.member hkey hus hvs hcs, hds, ?_⟩
  rw [hrest, hc₁]
  simp only [List.append_assoc, List.cons_append]

/-- An item behind an opening bracket and what is left around it are a value and what is left
    around that. -/
theorem ItemTaken.enclose {e : Enclosure} {stack : List Enclosure} {c c₁ c' : Cursor}
    {ws : List Char} (h : ItemTaken e (e :: stack) c₁ c') (hws : Spaces ws)
    (hrest : c.rest = ws ++ e.opening :: c₁.rest) : ItemTaken .list stack c c' := by
  obtain ⟨vs, cs, _, hvs, hcs, hopen, hc₁⟩ := h
  cases hopen with
  | cons hleft hclose =>
      obtain ⟨es, hes, heq⟩ := hleft.items hvs hcs
      refine ⟨ws, _, _, hws, WellFormed.enclosed hes, hclose, ?_⟩
      rw [hrest, hc₁, ← heq]
      simp only [List.append_assoc, List.cons_append]

/-- An item behind a comma and what is left around it are what is left. -/
theorem ItemTaken.more {e : Enclosure} {stack : List Enclosure} {c c₁ c' : Cursor}
    {ws : List Char} (h : ItemTaken e (e :: stack) c₁ c') (hws : Spaces ws)
    (hrest : c.rest = ws ++ ',' :: c₁.rest) : RestTaken (e :: stack) c c' := by
  obtain ⟨vs, cs, _, hvs, hcs, hopen, hc₁⟩ := h
  cases hopen with
  | cons hleft hclose =>
      obtain ⟨es, hes, heq⟩ := hleft.items hvs hcs
      refine ⟨_, Closes.cons (Left.more hws hes) hclose, ?_⟩
      rw [hrest, hc₁, ← heq]
      simp only [List.append_assoc, List.cons_append]

/-- A closing bracket ends the innermost of what is open. -/
theorem RestTaken.close {e : Enclosure} {stack : List Enclosure} {c c₁ c' : Cursor}
    {ws : List Char} (h : RestTaken stack c₁ c') (hws : Spaces ws)
    (hrest : c.rest = ws ++ e.closing :: c₁.rest) : RestTaken (e :: stack) c c' := by
  obtain ⟨ds, hds, hc₁⟩ := h
  refine ⟨_, Closes.cons (Left.close hws) hds, ?_⟩
  rw [hrest, hc₁]
  simp only [List.append_assoc, List.cons_append, List.nil_append]

/-- A value in front of what is left. -/
theorem RestTaken.value {stack : List Enclosure} {c c₁ c' : Cursor} {ws cs : List Char}
    (h : RestTaken stack c₁ c') (hws : Spaces ws) (hcs : Value cs)
    (hrest : c.rest = ws ++ (cs ++ c₁.rest)) : ItemTaken .list stack c c' := by
  obtain ⟨ds, hds, hc₁⟩ := h
  exact ⟨ws, cs, ds, hws, hcs, hds, by rw [hrest, hc₁]⟩

/-- Two brackets with what is left behind them are a value and what is left. -/
theorem RestTaken.empty {e : Enclosure} {stack : List Enclosure} {c c₁ c' : Cursor}
    {ws vs : List Char} (h : RestTaken stack c₁ c') (hws : Spaces ws) (hvs : Spaces vs)
    (hrest : c.rest = ws ++ e.opening :: (vs ++ e.closing :: c₁.rest)) :
    ItemTaken .list stack c c' := by
  refine h.value hws (WellFormed.empty e hvs) ?_
  rw [hrest]
  simp only [List.append_assoc, List.cons_append, List.nil_append]

/-- One step of skipping a value. -/
theorem skipWithin_taken {n : Nat} {stack : List Enclosure} {c c' : Cursor}
    (within : ∀ {stack c}, skipWithin n stack c = .ok ((), c') → ItemTaken .list stack c c')
    (after : ∀ {stack c}, skipAfter n stack c = .ok ((), c') → RestTaken stack c c')
    (h : skipWithin (n + 1) stack c = .ok ((), c')) : ItemTaken .list stack c c' := by
  unfold skipWithin at h
  obtain ⟨o, c₁, hnext, hrun⟩ := bind_eq_ok h
  split at hrun
  · exact absurd hrun failNext_ne_ok
  · -- A list: it is over at once, or an item comes first.
    obtain ⟨ws, xs, p, hws, hrest, rfl⟩ := next_some hnext
    rw [advance_bind] at hrun
    obtain ⟨o, c₂, hnext, hrun⟩ := bind_eq_ok hrun
    split at hrun
    · exact absurd hrun failNext_ne_ok
    · obtain ⟨vs, ys, q, hvs, hxs, rfl⟩ := next_some hnext
      refine RestTaken.empty (e := .list) (after hrun) hws hvs ?_
      rw [hrest, show xs = _ from hxs]
      rfl
    · obtain ⟨vs, hvs, hxs, -⟩ := next_taken hnext
      exact ((within hrun).spaces hvs hxs).enclose hws hrest
  · -- An object in the same way, where an item begins with its key.
    obtain ⟨ws, xs, p, hws, hrest, rfl⟩ := next_some hnext
    rw [advance_bind] at hrun
    obtain ⟨o, c₂, hnext, hrun⟩ := bind_eq_ok hrun
    split at hrun
    · obtain ⟨vs, ys, q, hvs, hxs, rfl⟩ := next_some hnext
      refine RestTaken.empty (e := .object) (after hrun) hws hvs ?_
      rw [hrest, show xs = _ from hxs]
      rfl
    · obtain ⟨vs, hvs, hxs, -⟩ := next_taken hnext
      obtain ⟨_, c₃, hkey, hvalue⟩ := bind_eq_ok hrun
      exact ((ItemTaken.member hkey (within hvalue)).spaces hvs hxs).enclose hws hrest
  · -- Any other value is over when it has been taken.
    obtain ⟨ws, xs, p, hws, hrest, rfl⟩ := next_some hnext
    obtain ⟨_, c₂, hscalar, hrun⟩ := bind_eq_ok hrun
    obtain ⟨cs, hcs, hxs⟩ := skipScalar_taken hscalar
    exact RestTaken.value (after hrun) hws hcs (by rw [hrest, hxs])

/-- One step of skipping what is left. -/
theorem skipAfter_taken {n : Nat} {stack : List Enclosure} {c c' : Cursor}
    (within : ∀ {stack c}, skipWithin n stack c = .ok ((), c') → ItemTaken .list stack c c')
    (after : ∀ {stack c}, skipAfter n stack c = .ok ((), c') → RestTaken stack c c')
    (h : skipAfter (n + 1) stack c = .ok ((), c')) : RestTaken stack c c' := by
  rcases stack with _ | ⟨_ | _, stack⟩
  · rw [skipAfter] at h
    obtain ⟨-, rfl⟩ := pure_eq_ok h
    exact ⟨[], Closes.nil, rfl⟩
  · rw [skipAfter] at h
    obtain ⟨o, c₁, hnext, hrun⟩ := bind_eq_ok h
    split at hrun
    · exact absurd hrun failNext_ne_ok
    · obtain ⟨ws, xs, p, hws, hrest, rfl⟩ := next_some hnext
      exact (within hrun).more hws hrest
    · obtain ⟨ws, xs, p, hws, hrest, rfl⟩ := next_some hnext
      exact (after hrun).close hws hrest
    · exact absurd hrun failNext_ne_ok
  · rw [skipAfter] at h
    obtain ⟨o, c₁, hnext, hrun⟩ := bind_eq_ok h
    split at hrun
    · exact absurd hrun failNext_ne_ok
    · obtain ⟨ws, xs, p, hws, hrest, rfl⟩ := next_some hnext
      rw [advance_bind] at hrun
      obtain ⟨_, c₂, hkey, hvalue⟩ := bind_eq_ok hrun
      exact (ItemTaken.member hkey (within hvalue)).more hws hrest
    · obtain ⟨ws, xs, p, hws, hrest, rfl⟩ := next_some hnext
      exact (after hrun).close hws hrest
    · exact absurd hrun failNext_ne_ok

/-- **The machine takes nothing but well-formed values** and the rest of what is open around
    them. -/
theorem skipped (n : Nat) (c' : Cursor) :
    (∀ {stack c}, skipWithin n stack c = .ok ((), c') → ItemTaken .list stack c c') ∧
    (∀ {stack c}, skipAfter n stack c = .ok ((), c') → RestTaken stack c c') := by
  -- On the bound, for both functions at once: each calls both, and only with a smaller one.
  induction n with
  | zero =>
      refine ⟨fun h => (nomatch h), fun {stack c} h => ?_⟩
      cases stack with
      | nil =>
          cases h
          exact ⟨[], Closes.nil, rfl⟩
      | cons e stack =>
          cases e
          · exact nomatch h
          · exact nomatch h
  | succ n ih => exact ⟨skipWithin_taken ih.1 ih.2, skipAfter_taken ih.1 ih.2⟩

/-- A skipped value is well-formed. -/
theorem takes_skipValue : Takes skipValue fun _ => Value := by
  intro c c' _ h
  obtain ⟨ws, cs, _, hws, hcs, hclose, hrest⟩ := (skipped (c.rest.length + 1) c').1 h
  cases hclose
  exact ⟨ws, cs, hws, hcs, hrest⟩

end Reader

end WastePass.Json
