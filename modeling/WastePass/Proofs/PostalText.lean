import Mathlib.Data.List.Basic
import WastePass.Tables.Draft

/-!
# Postal texts — what four digits and two letters say

    A number is what its digits say in base ten, and the text of a number is the only
    text of four digits that says it.  Of two such texts the one that comes first in
    the order of texts says the lesser number, so a range may be tested on either.
    Letters are read in either case and shown as capitals.
-/

namespace WastePass

/-- The number that a text of digits says in base ten. -/
def numeral (text : String) : Nat :=
  text.toList.foldl (fun n c => 10 * n + (c.toNat - 48)) 0

/-- A text of exactly four ASCII digits. -/
def FourDigits (text : String) : Prop :=
  text.toList.length = 4 ∧ ∀ c ∈ text.toList, '0' ≤ c ∧ c ≤ '9'

/-- A text of exactly two ASCII letters. -/
def TwoLetters (text : String) : Prop :=
  text.toList.length = 2 ∧
    ∀ c ∈ text.toList, ('A' ≤ c ∧ c ≤ 'Z') ∨ ('a' ≤ c ∧ c ≤ 'z')

instance (text : String) : Decidable (FourDigits text) :=
  @instDecidableAnd _ _ (instDecidableEqNat _ _) (List.decidableBAll _ _)

instance (text : String) : Decidable (TwoLetters text) :=
  @instDecidableAnd _ _ (instDecidableEqNat _ _) (List.decidableBAll _ _)

/-- A text with capitals for its ASCII letters. -/
def capitals (text : String) : String :=
  String.ofList (text.toList.map Char.toUpper)

/-- Characters are ordered as their code points are. -/
theorem char_le_iff_toNat (a b : Char) : a ≤ b ↔ a.toNat ≤ b.toNat := by
  rw [Char.le_def, UInt32.le_iff_toNat_le]
  rfl

/-! ## Digits -/

namespace PostalNumber

/-- Every digit is the digit of its value. -/
theorem digit?_digitChar (d : Fin 10) : digit? (digitChar d) = some d := by
  revert d
  decide

/-- A character that has a value is the digit of that value. -/
theorem eq_digitChar_of_digit? {c : Char} {d : Fin 10} (h : digit? c = some d) :
    c = digitChar d := by
  unfold digit? at h
  split at h
  · next hc =>
    have hd : d = ⟨c.toNat - 48, by omega⟩ := (Option.some.inj h).symm
    subst hd
    show c = Char.ofNat (48 + (c.toNat - 48))
    rw [show 48 + (c.toNat - 48) = c.toNat by omega, Char.ofNat_toNat]
  · cases h

/-- The characters with a value are the ASCII digits. -/
theorem digit?_isSome_iff (c : Char) : (∃ d, digit? c = some d) ↔ '0' ≤ c ∧ c ≤ '9' := by
  rw [char_le_iff_toNat, char_le_iff_toNat]
  show _ ↔ 48 ≤ c.toNat ∧ c.toNat ≤ 57
  unfold digit?
  constructor
  · rintro ⟨d, hd⟩
    split at hd
    · next hc => exact hc
    · exact nomatch hd
  · intro hc
    exact ⟨_, dif_pos hc⟩

/-- The code point of a digit. -/
theorem digitChar_toNat (d : Fin 10) : (digitChar d).toNat = 48 + d.val := by
  revert d
  decide

/-- Four digits give the number they were taken from. -/
theorem ofDigits_digits {n : PostalNumber} {a b c d : Fin 10} (ha : a.val = n.val / 1000)
    (hb : b.val = n.val / 100 % 10) (hc : c.val = n.val / 10 % 10) (hd : d.val = n.val % 10) :
    ofDigits a b c d = n := by
  apply Fin.ext
  show 1000 * a.val + 100 * b.val + 10 * c.val + d.val = n.val
  omega

/-- Reading the digits of a number gives the number. -/
theorem ofChars?_chars (n : PostalNumber) : ofChars? n.chars = some n := by
  unfold chars ofChars?
  simp only [digit?_digitChar, Option.bind_eq_bind, Option.bind_some, Option.pure_def]
  exact congrArg some (ofDigits_digits rfl rfl rfl rfl)

/-- The digits of a number that four digits write are those four. -/
theorem chars_ofDigits (a b c d : Fin 10) :
    (ofDigits a b c d).chars = [digitChar a, digitChar b, digitChar c, digitChar d] := by
  have ha : (⟨(ofDigits a b c d).val / 1000, by omega⟩ : Fin 10) = a := by
    apply Fin.ext
    show (1000 * a.val + 100 * b.val + 10 * c.val + d.val) / 1000 = a.val
    omega
  have hb : (⟨(ofDigits a b c d).val / 100 % 10, by omega⟩ : Fin 10) = b := by
    apply Fin.ext
    show (1000 * a.val + 100 * b.val + 10 * c.val + d.val) / 100 % 10 = b.val
    omega
  have hc : (⟨(ofDigits a b c d).val / 10 % 10, by omega⟩ : Fin 10) = c := by
    apply Fin.ext
    show (1000 * a.val + 100 * b.val + 10 * c.val + d.val) / 10 % 10 = c.val
    omega
  have hd : (⟨(ofDigits a b c d).val % 10, by omega⟩ : Fin 10) = d := by
    apply Fin.ext
    show (1000 * a.val + 100 * b.val + 10 * c.val + d.val) % 10 = d.val
    omega
  unfold chars
  rw [ha, hb, hc, hd]

/-- Only the digits of a number are read as that number. -/
theorem eq_chars_of_ofChars? {cs : List Char} {n : PostalNumber}
    (h : ofChars? cs = some n) : cs = n.chars := by
  unfold ofChars? at h
  split at h
  · next a b c d =>
    simp only [Option.bind_eq_bind, Option.bind_eq_some_iff, Option.pure_def,
      Option.some.injEq] at h
    obtain ⟨i, hi, j, hj, k, hk, l, hl, rfl⟩ := h
    rw [chars_ofDigits, eq_digitChar_of_digit? hi, eq_digitChar_of_digit? hj,
      eq_digitChar_of_digit? hk, eq_digitChar_of_digit? hl]
  · exact nomatch h

/-- The characters of the text of a number. -/
@[simp] theorem toList_text (n : PostalNumber) : n.text.toList = n.chars :=
  String.toList_ofList

/-- Reading and showing a number undo each other. -/
theorem ofChars?_toList_iff (text : String) (n : PostalNumber) :
    ofChars? text.toList = some n ↔ n.text = text := by
  constructor
  · intro h
    rw [PostalNumber.text, ← eq_chars_of_ofChars? h, String.ofList_toList]
  · rintro rfl
    rw [toList_text, ofChars?_chars]

/-- The text of a number has four digits. -/
theorem fourDigits_text (n : PostalNumber) : FourDigits n.text := by
  refine ⟨by rw [toList_text]; rfl, ?_⟩
  intro c hc
  rw [toList_text] at hc
  rw [← digit?_isSome_iff]
  simp only [chars, List.mem_cons, List.not_mem_nil, or_false] at hc
  rcases hc with rfl | rfl | rfl | rfl <;> exact ⟨_, digit?_digitChar _⟩

/-- Every text of four digits is the text of a number. -/
theorem exists_text_of_fourDigits {text : String} (h : FourDigits text) :
    ∃ n : PostalNumber, n.text = text := by
  obtain ⟨hlen, hdigits⟩ := h
  obtain ⟨a, b, c, d, habcd⟩ : ∃ a b c d, text.toList = [a, b, c, d] :=
    List.length_eq_four.mp hlen
  rw [habcd] at hdigits
  -- Each of the four characters has a value, and the values make the number.
  have hread : ∀ x ∈ [a, b, c, d], ∃ i, digit? x = some i := fun x hx =>
    (digit?_isSome_iff x).mpr (hdigits x hx)
  obtain ⟨i, hi⟩ := hread a (by simp)
  obtain ⟨j, hj⟩ := hread b (by simp)
  obtain ⟨k, hk⟩ := hread c (by simp)
  obtain ⟨l, hl⟩ := hread d (by simp)
  refine ⟨ofDigits i j k l, (ofChars?_toList_iff _ _).mp ?_⟩
  rw [habcd]
  simp [ofChars?, hi, hj, hk, hl]

/-- A number is read from four digits, and only from those. -/
theorem ofChars?_isSome_iff (text : String) :
    (∃ n, ofChars? text.toList = some n) ↔ FourDigits text := by
  simp only [ofChars?_toList_iff]
  constructor
  · rintro ⟨n, rfl⟩
    exact fourDigits_text n
  · exact exists_text_of_fourDigits

/-- The text of a number says that number. -/
theorem numeral_text (n : PostalNumber) : numeral n.text = n.val := by
  unfold numeral
  rw [toList_text]
  simp only [chars, List.foldl_cons, List.foldl_nil, digitChar_toNat]
  omega

/-- Different numbers have different texts. -/
theorem text_injective {m n : PostalNumber} (h : m.text = n.text) : m = n := by
  apply Fin.ext
  rw [← numeral_text m, ← numeral_text n, h]

/-- Digits are ordered as their values are. -/
theorem digitChar_lt_iff (a b : Fin 10) : digitChar a < digitChar b ↔ a < b := by
  rw [← Char.not_le, char_le_iff_toNat, digitChar_toNat, digitChar_toNat]
  show ¬ _ ↔ a.val < b.val
  omega

/-- Different values have different digits. -/
theorem digitChar_inj (a b : Fin 10) : digitChar a = digitChar b ↔ a = b := by
  revert a b
  decide

/-- Of the texts of two numbers, the lesser number's comes first. -/
theorem text_lt_text_iff (m n : PostalNumber) : m.text < n.text ↔ m < n := by
  show m.text.toList < n.text.toList ↔ m.val < n.val
  rw [toList_text, toList_text]
  simp only [chars, List.cons_lt_cons_iff, digitChar_lt_iff, digitChar_inj, Fin.mk.injEq,
    Fin.mk_lt_mk, List.not_lt_nil, and_false, or_false]
  -- The digits are quotients and remainders; these relate the quotients to each other.
  have hm : m.val / 100 / 10 = m.val / 1000 := by omega
  have hm' : m.val / 10 / 10 = m.val / 100 := by omega
  have hn : n.val / 100 / 10 = n.val / 1000 := by omega
  have hn' : n.val / 10 / 10 = n.val / 100 := by omega
  omega

/-- So the texts are ordered as the numbers are that they say. -/
theorem text_le_text_iff (m n : PostalNumber) :
    m.text ≤ n.text ↔ numeral m.text ≤ numeral n.text := by
  rw [← String.not_lt, text_lt_text_iff, Fin.not_lt, numeral_text, numeral_text]
  exact Iff.rfl

end PostalNumber

namespace Range

/-- A range holds the numbers whose texts lie between the texts of its bounds. -/
theorem covers_iff_text (r : Range) (n : PostalNumber) :
    r.covers n = true ↔ r.start.text ≤ n.text ∧ n.text ≤ r.stop.text := by
  rw [← String.not_lt, ← String.not_lt, PostalNumber.text_lt_text_iff,
    PostalNumber.text_lt_text_iff, Fin.not_lt, Fin.not_lt]
  simp [covers]

end Range

/-! ## Letters -/

/-- What holds of the ASCII characters, one by one, and of all others holds of all. -/
theorem forall_char_of_ascii {P : Char → Prop} (hascii : ∀ k : Fin 128, P (Char.ofNat k))
    (hother : ∀ c : Char, 128 ≤ c.toNat → P c) (c : Char) : P c := by
  by_cases hc : c.toNat < 128
  · have h := hascii ⟨c.toNat, hc⟩
    rwa [Char.ofNat_toNat] at h
  · exact hother c (by omega)

/-- Characters beyond ASCII have no other case. -/
theorem toUpper_of_not_ascii {c : Char} (hc : 128 ≤ c.toNat) : c.toUpper = c := by
  unfold Char.toUpper
  rw [dif_neg]
  rintro ⟨-, h⟩
  have h' : c.toNat ≤ 122 := UInt32.le_iff_toNat_le.mp h
  omega

/-- Characters beyond ASCII have no other case. -/
theorem toLower_of_not_ascii {c : Char} (hc : 128 ≤ c.toNat) : c.toLower = c := by
  unfold Char.toLower
  rw [dif_neg]
  rintro ⟨-, h⟩
  have h' : c.toNat ≤ 90 := UInt32.le_iff_toNat_le.mp h
  omega

/-- The small letter of a character tells its capital. -/
theorem toUpper_toLower (c : Char) : c.toLower.toUpper = c.toUpper := by
  revert c
  apply forall_char_of_ascii
  · decide
  · intro c hc
    rw [toLower_of_not_ascii hc]

/-- The capital of a character tells its small letter. -/
theorem toLower_toUpper (c : Char) : c.toUpper.toLower = c.toLower := by
  revert c
  apply forall_char_of_ascii
  · decide
  · intro c hc
    rw [toUpper_of_not_ascii hc]

/-- Two texts differ at most in case when they have the same capitals. -/
theorem sameUpToCase_iff (a b : List Char) :
    District.sameUpToCase a b = true ↔ a.map Char.toUpper = b.map Char.toUpper := by
  have hupper : ∀ cs : List Char,
      (cs.map Char.toLower).map Char.toUpper = cs.map Char.toUpper := by
    intro cs
    rw [List.map_map]
    exact List.map_congr_left fun c _ => toUpper_toLower c
  have hlower : ∀ cs : List Char,
      (cs.map Char.toUpper).map Char.toLower = cs.map Char.toLower := by
    intro cs
    rw [List.map_map]
    exact List.map_congr_left fun c _ => toLower_toUpper c
  rw [District.sameUpToCase, beq_iff_eq]
  constructor
  · intro h
    rw [← hupper a, ← hupper b, h]
  · intro h
    rw [← hlower a, ← hlower b, h]

namespace Letters

/-- Every capital stands at its place. -/
theorem place?_capital (i : Fin 26) : place? (capital i) = some i := by
  revert i
  decide

/-- A character with a place in the alphabet has the capital of that place. -/
theorem toUpper_of_place? {c : Char} {i : Fin 26} (h : place? c = some i) :
    c.toUpper = capital i := by
  -- As an equation it can be decided for each ASCII character.
  have hall : ∀ c : Char, (place? c).map capital = (place? c).map fun _ => c.toUpper := by
    apply forall_char_of_ascii
    · decide
    · intro c hc
      rw [show place? c = none by
        rw [place?, dif_neg (by omega), dif_neg (by omega)]]
      rfl
  have hc := hall c
  rw [h] at hc
  exact (Option.some.inj hc).symm

/-- The characters with a place in the alphabet are the ASCII letters. -/
theorem place?_isSome_iff (c : Char) :
    (∃ i, place? c = some i) ↔ ('A' ≤ c ∧ c ≤ 'Z') ∨ ('a' ≤ c ∧ c ≤ 'z') := by
  simp only [char_le_iff_toNat]
  show _ ↔ (65 ≤ c.toNat ∧ c.toNat ≤ 90) ∨ (97 ≤ c.toNat ∧ c.toNat ≤ 122)
  unfold place?
  constructor
  · rintro ⟨i, hi⟩
    split at hi
    · next hc => exact Or.inl hc
    · split at hi
      · next hc => exact Or.inr hc
      · exact nomatch hi
  · intro hc
    by_cases hcap : 65 ≤ c.toNat ∧ c.toNat ≤ 90
    · exact ⟨_, dif_pos hcap⟩
    · rw [dif_neg hcap]
      exact ⟨_, dif_pos (hc.resolve_left hcap)⟩

/-- Letters are read from two ASCII letters, and only from those. -/
theorem ofChars?_isSome_iff (text : String) :
    (∃ l, ofChars? text.toList = some l) ↔ TwoLetters text := by
  constructor
  · rintro ⟨l, hl⟩
    unfold ofChars? at hl
    split at hl
    · next a b hab =>
      simp only [Option.bind_eq_bind, Option.bind_eq_some_iff] at hl
      obtain ⟨i, hi, j, hj, -⟩ := hl
      refine ⟨by rw [hab]; rfl, ?_⟩
      intro c hc
      rw [hab] at hc
      simp only [List.mem_cons, List.not_mem_nil, or_false] at hc
      rcases hc with rfl | rfl
      · exact (place?_isSome_iff _).mp ⟨i, hi⟩
      · exact (place?_isSome_iff _).mp ⟨j, hj⟩
    · exact nomatch hl
  · rintro ⟨hlen, hletters⟩
    obtain ⟨a, b, hab⟩ := List.length_eq_two.mp hlen
    rw [hab] at hletters
    obtain ⟨i, hi⟩ := (place?_isSome_iff a).mpr (hletters a (by simp))
    obtain ⟨j, hj⟩ := (place?_isSome_iff b).mpr (hletters b (by simp))
    refine ⟨⟨i, j⟩, ?_⟩
    rw [hab]
    simp [ofChars?, hi, hj]

/-- Letters are shown as the capitals of what they were read from. -/
theorem text_of_ofChars? {text : String} {l : Letters} (h : ofChars? text.toList = some l) :
    l.text = capitals text := by
  unfold ofChars? at h
  split at h
  · next a b hab =>
    simp only [Option.bind_eq_bind, Option.bind_eq_some_iff, Option.pure_def,
      Option.some.injEq] at h
    obtain ⟨i, hi, j, hj, rfl⟩ := h
    rw [capitals, hab]
    show String.ofList [capital i, capital j] = String.ofList [a.toUpper, b.toUpper]
    rw [toUpper_of_place? hi, toUpper_of_place? hj]
  · exact nomatch h

/-- Reading the capitals of letters gives the letters. -/
theorem ofChars?_text (l : Letters) : ofChars? l.text.toList = some l := by
  show ofChars? (String.ofList l.chars).toList = some l
  rw [String.toList_ofList]
  simp [chars, ofChars?, place?_capital]

/-- Different letters have different texts. -/
theorem text_injective {a b : Letters} (h : a.text = b.text) : a = b := by
  have hread := ofChars?_text a
  rw [h, ofChars?_text b] at hread
  exact (Option.some.inj hread).symm

/-- The text of letters consists of capitals. -/
theorem capitals_text (l : Letters) : capitals l.text = l.text :=
  (text_of_ofChars? (ofChars?_text l)).symm

end Letters

end WastePass
