import WastePass.Proofs.Blanks
import WastePass.Proofs.Requests

/-!
# Postal codes — what is read as one, and when two texts are read alike

    Without its white space a text is a code when it is four digits and two letters.
    `faults` lists what else is wrong with it, in the order in which it is looked at, and
    `parse` names the head of that list.  White space and the case of letters are all that
    is not kept: the `key` of a text is the text without them, texts with one key are read
    alike, and from a key that is a code the code can be told.
-/

namespace WastePass

/-- An ASCII digit. -/
def AsciiDigit (c : Char) : Prop :=
  '0' ≤ c ∧ c ≤ '9'

/-- An ASCII letter. -/
def AsciiLetter (c : Char) : Prop :=
  ('A' ≤ c ∧ c ≤ 'Z') ∨ ('a' ≤ c ∧ c ≤ 'z')

instance : DecidablePred AsciiDigit := fun _ => instDecidableAnd

instance : DecidablePred AsciiLetter := fun _ => instDecidableOr

theorem AsciiDigit.lt {c : Char} (h : AsciiDigit c) : c.toNat < 128 := by
  have hnine : c.toNat ≤ 57 := (char_le_iff_toNat _ _).mp h.2
  omega

theorem AsciiLetter.lt {c : Char} (h : AsciiLetter c) : c.toNat < 128 := by
  rcases h with ⟨-, hlast⟩ | ⟨-, hlast⟩
  · have hcapital : c.toNat ≤ 90 := (char_le_iff_toNat _ _).mp hlast
    omega
  · have hsmall : c.toNat ≤ 122 := (char_le_iff_toNat _ _).mp hlast
    omega

/-- A letter is one in either case. -/
theorem asciiLetter_toUpper (c : Char) : AsciiLetter c.toUpper ↔ AsciiLetter c := by
  revert c
  apply forall_char_of_ascii
  · decide
  · intro c hc
    rw [toUpper_of_not_ascii hc]

/-- No digit has another case. -/
theorem asciiDigit_toUpper (c : Char) : AsciiDigit c.toUpper ↔ AsciiDigit c := by
  revert c
  apply forall_char_of_ascii
  · decide
  · intro c hc
    rw [toUpper_of_not_ascii hc]

namespace PostalCode

/-- What is wrong with the characters of a code, in the order in which it is looked at. -/
def faults (cs : List Char) : List ValidationError :=
  (if cs = [] then [.postalCodeRequired] else []) ++
    ((if cs.length = 6 then [] else [.postalCodeLength]) ++
      ((if (cs.take 4).all (AsciiDigit ·) then [] else [.postalCodeNumber]) ++
        if (cs.drop 4).all (AsciiLetter ·) then [] else [.postalCodeLetters]))

/-- A text without white space and with capitals for its ASCII letters. -/
def key (text : String) : String :=
  capitals (String.ofList (Text.compact text))

theorem toList_key (text : String) :
    (key text).toList = (Text.compact text).map Char.toUpper := by
  rw [key, capitals, String.toList_ofList, String.toList_ofList]

/-! ## Faults -/

theorem head?_faults (cs : List Char) :
    (faults cs).head? =
      if cs = [] then some .postalCodeRequired
      else if cs.length = 6 then
        if (cs.take 4).all (AsciiDigit ·) then
          if (cs.drop 4).all (AsciiLetter ·) then none else some .postalCodeLetters
        else some .postalCodeNumber
      else some .postalCodeLength := by
  unfold faults
  by_cases hempty : cs = []
  · rw [if_pos hempty, if_pos hempty]
    rfl
  by_cases hlength : cs.length = 6
  · rw [if_neg hempty, if_neg hempty, if_pos hlength, if_pos hlength]
    cases (cs.take 4).all (AsciiDigit ·) <;> cases (cs.drop 4).all (AsciiLetter ·) <;> rfl
  · rw [if_neg hempty, if_neg hempty, if_neg hlength, if_neg hlength]
    rfl

theorem faults_eq_nil_iff (cs : List Char) :
    faults cs = [] ↔ cs.length = 6 ∧ (∀ c ∈ cs.take 4, AsciiDigit c) ∧
      ∀ c ∈ cs.drop 4, AsciiLetter c := by
  rw [← List.head?_eq_none_iff, head?_faults]
  grind

/-- Of six characters only the digits and the letters can be wrong. -/
theorem faults_six (a b c d x y : Char) :
    faults [a, b, c, d, x, y] =
      (if FourDigits (String.ofList [a, b, c, d]) then [] else [ValidationError.postalCodeNumber])
        ++ if TwoLetters (String.ofList [x, y]) then [] else [.postalCodeLetters] := by
  have hdigits : ([a, b, c, d, x, y].take 4).all (AsciiDigit ·) = true
      ↔ FourDigits (String.ofList [a, b, c, d]) := by
    simp only [List.all_eq_true, decide_eq_true_eq]
    rw [FourDigits, String.toList_ofList]
    exact (and_iff_right rfl).symm
  have hletters : ([a, b, c, d, x, y].drop 4).all (AsciiLetter ·) = true
      ↔ TwoLetters (String.ofList [x, y]) := by
    simp only [List.all_eq_true, decide_eq_true_eq]
    rw [TwoLetters, String.toList_ofList]
    exact (and_iff_right rfl).symm
  rw [faults, if_neg (List.cons_ne_nil _ _), if_pos (by rfl), List.nil_append, List.nil_append,
    if_congr hdigits rfl rfl, if_congr hletters rfl rfl]

/-- Faults do not see the case of letters. -/
theorem faults_map_toUpper (cs : List Char) : faults (cs.map Char.toUpper) = faults cs := by
  unfold faults
  simp only [List.map_eq_nil_iff, List.length_map, ← List.map_take, ← List.map_drop,
    List.all_map, Function.comp_def, asciiDigit_toUpper, asciiLetter_toUpper]

/-! ## Reading -/

theorem map_toUpper_chars (n : PostalNumber) : n.chars.map Char.toUpper = n.chars := by
  have hdigit : ∀ d : Fin 10, (PostalNumber.digitChar d).toUpper = PostalNumber.digitChar d := by
    decide
  simp only [PostalNumber.chars, List.map_cons, List.map_nil, hdigit]

theorem map_toUpper_of_letters {x y : Char} {l : Letters} (h : Letters.ofChars? [x, y] = some l) :
    [x, y].map Char.toUpper = l.chars := by
  have htext : l.text = capitals (String.ofList [x, y]) :=
    Letters.text_of_ofChars? (by rw [String.toList_ofList, h])
  rw [← Letters.toList_text, htext, capitals, String.toList_ofList, String.toList_ofList]

/-- Six characters are the four of a number and the two letters. -/
theorem exists_of_length_six {cs : List Char} (h : cs.length = 6) :
    ∃ a b c d x y, cs = [a, b, c, d, x, y] := by
  have hnumber : (cs.take 4).length = 4 := by simp [h]
  have hletters : (cs.drop 4).length = 2 := by simp [h]
  obtain ⟨a, b, c, d, htake⟩ := List.length_eq_four.mp hnumber
  obtain ⟨x, y, hdrop⟩ := List.length_eq_two.mp hletters
  refine ⟨a, b, c, d, x, y, ?_⟩
  rw [← List.take_append_drop 4 cs, htake, hdrop]
  rfl

/-- A text is refused for its first fault, or it has none and gives the code it writes. -/
theorem parse_cases (raw : String) :
    (∃ e, parse raw = .error e ∧ (faults (Text.compact raw)).head? = some e) ∨
      ∃ code, parse raw = .ok code ∧ faults (Text.compact raw) = [] ∧
        (key raw).toList = code.number.chars ++ code.letters.chars := by
  rw [parse, Text.withoutBlanks_eq, toList_key]
  generalize Text.compact raw = cs
  split
  · exact Or.inl ⟨_, rfl, rfl⟩
  · next a b c d x y =>
    have hnumber := PostalNumber.ofChars?_isSome_iff (String.ofList [a, b, c, d])
    have hletters := Letters.ofChars?_isSome_iff (String.ofList [x, y])
    rw [String.toList_ofList] at hnumber hletters
    rw [faults_six]
    cases hn : PostalNumber.ofChars? [a, b, c, d] with
    | none =>
        have hnot : ¬ FourDigits (String.ofList [a, b, c, d]) := by simpa [hn] using hnumber
        exact Or.inl ⟨_, rfl, by rw [if_neg hnot]; rfl⟩
    | some n =>
        rw [if_pos (hnumber.mp ⟨n, hn⟩), List.nil_append]
        cases hl : Letters.ofChars? [x, y] with
        | none =>
            have hnot : ¬ TwoLetters (String.ofList [x, y]) := by simpa [hl] using hletters
            exact Or.inl ⟨_, rfl, by rw [if_neg hnot]; rfl⟩
        | some l =>
            refine Or.inr ⟨⟨n, l⟩, rfl, if_pos (hletters.mp ⟨l, hl⟩), ?_⟩
            show [a, b, c, d].map Char.toUpper ++ [x, y].map Char.toUpper = _
            rw [PostalNumber.eq_chars_of_ofChars? hn, map_toUpper_chars,
              map_toUpper_of_letters hl]
  · next hempty hsix =>
    have hlength : cs.length ≠ 6 := by
      intro h
      obtain ⟨a, b, c, d, x, y, hcs⟩ := exists_of_length_six h
      exact hsix a b c d x y hcs
    refine Or.inl ⟨_, rfl, ?_⟩
    rw [faults, if_neg hempty, if_neg hlength]
    rfl

theorem parse_eq_error_iff (raw : String) (e : ValidationError) :
    parse raw = .error e ↔ (faults (Text.compact raw)).head? = some e := by
  rcases parse_cases raw with ⟨e', hparse, hhead⟩ | ⟨code, hparse, hnil, -⟩
  · rw [hparse, hhead, Except.error.injEq, Option.some.injEq]
  · rw [hparse, hnil]
    exact ⟨fun h => (nomatch h), fun h => (nomatch h)⟩

theorem exists_parse_iff (raw : String) :
    (∃ code, parse raw = .ok code) ↔ faults (Text.compact raw) = [] := by
  rcases parse_cases raw with ⟨e, hparse, hhead⟩ | ⟨code, hparse, hnil, -⟩
  · rw [hparse]
    constructor
    · rintro ⟨code, h⟩
      exact nomatch h
    · intro h
      rw [h] at hhead
      exact nomatch hhead
  · exact ⟨fun _ => hnil, fun _ => ⟨code, hparse⟩⟩

/-! ## The grammar -/

/-- What is read from a text, told by its characters without white space: four digits and two
    letters are a code, and of anything else the first fault is named. -/
structure FollowsGrammar (raw : String) : Prop where
  accepted : (∃ code, parse raw = .ok code) ↔
    (Text.compact raw).length = 6 ∧ (∀ c ∈ (Text.compact raw).take 4, AsciiDigit c) ∧
      ∀ c ∈ (Text.compact raw).drop 4, AsciiLetter c
  required : parse raw = .error .postalCodeRequired ↔ Text.compact raw = []
  length : parse raw = .error .postalCodeLength ↔
    Text.compact raw ≠ [] ∧ (Text.compact raw).length ≠ 6
  number : parse raw = .error .postalCodeNumber ↔
    (Text.compact raw).length = 6 ∧ ∃ c ∈ (Text.compact raw).take 4, ¬ AsciiDigit c
  letters : parse raw = .error .postalCodeLetters ↔
    (Text.compact raw).length = 6 ∧ (∀ c ∈ (Text.compact raw).take 4, AsciiDigit c) ∧
      ∃ c ∈ (Text.compact raw).drop 4, ¬ AsciiLetter c
  first : ∀ e, parse raw = .error e ↔ (faults (Text.compact raw)).head? = some e
  ascii : (∃ code, parse raw = .ok code) → ∀ c ∈ Text.compact raw, c.toNat < 128

/-- **A text is read as its grammar says, and refused for the first fault.** -/
theorem parse_names_first_fault (raw : String) : FollowsGrammar raw := by
  have haccepted := (exists_parse_iff raw).trans (faults_eq_nil_iff (Text.compact raw))
  refine
    { accepted := haccepted, required := ?_, length := ?_, number := ?_, letters := ?_,
      first := parse_eq_error_iff raw, ascii := ?_ }
  · rw [parse_eq_error_iff, head?_faults]
    grind
  · rw [parse_eq_error_iff, head?_faults]
    grind
  · rw [parse_eq_error_iff, head?_faults]
    grind
  · rw [parse_eq_error_iff, head?_faults]
    grind
  · intro haccept c hc
    obtain ⟨-, hdigits, hletters⟩ := haccepted.mp haccept
    rw [← List.take_append_drop 4 (Text.compact raw)] at hc
    rcases List.mem_append.mp hc with hc | hc
    · exact (hdigits c hc).lt
    · exact (hletters c hc).lt

/-- Digits of another script are none, and they are looked at before the letters. -/
example : parse "١٢٣٤ a1" = .error .postalCodeNumber := by
  decide

/-! ## The key -/

theorem chars_injective {code other : PostalCode}
    (h : code.number.chars ++ code.letters.chars = other.number.chars ++ other.letters.chars) :
    code = other := by
  obtain ⟨hnumber, hletters⟩ := List.append_inj h rfl
  have hn : code.number = other.number :=
    PostalNumber.text_injective (congrArg String.ofList hnumber)
  have hl : code.letters = other.letters :=
    Letters.text_injective (congrArg String.ofList hletters)
  calc code = ⟨code.number, code.letters⟩ := rfl
    _ = ⟨other.number, other.letters⟩ := by rw [hn, hl]
    _ = other := rfl

/-- A text gives a code exactly when its key is the number and the letters of that code. -/
theorem parse_eq_ok_iff (raw : String) (code : PostalCode) :
    parse raw = .ok code ↔ (key raw).toList = code.number.chars ++ code.letters.chars := by
  rcases parse_cases raw with ⟨e, hparse, hhead⟩ | ⟨found, hparse, -, hfound⟩
  · rw [hparse]
    refine ⟨fun h => (nomatch h), fun h => ?_⟩
    -- The characters of a code have no fault, and they have those of its key.
    have hnil : faults (Text.compact code.text) = [] :=
      (exists_parse_iff code.text).mp ⟨code, parse_text code⟩
    rw [← Text.withoutBlanks_eq, withoutBlanks_text, ← h, toList_key, faults_map_toUpper] at hnil
    rw [hnil] at hhead
    exact nomatch hhead
  · rw [hparse, Except.ok.injEq, hfound]
    exact ⟨fun h => by rw [h], chars_injective⟩

/-- Texts with one key are read alike. -/
theorem parse_eq_of_key {t u : String} (h : key t = key u) : parse t = parse u := by
  cases hparse : parse t with
  | ok code => exact ((parse_eq_ok_iff u code).mpr (h ▸ (parse_eq_ok_iff t code).mp hparse)).symm
  | error e =>
      have hhead := (parse_eq_error_iff t e).mp hparse
      rw [← faults_map_toUpper, ← toList_key, h, toList_key, faults_map_toUpper] at hhead
      exact ((parse_eq_error_iff u e).mpr hhead).symm

/-- What is kept of two texts when they are read.  Those with one key give the same, be it a
    code or an error, and a code is given by the text that it is shown as. -/
structure NormalForm (t u : String) : Prop where
  alike : key t = key u → parse t = parse u
  key_eq : ∀ code, parse t = .ok code → parse u = .ok code → key t = key u
  kept : ∀ code, parse t = .ok code →
    code.number.text ++ code.letters.text = key t ∧ FourDigits code.number.text
  shown : ∀ code, parse t = .ok code → parse code.text = .ok code
  shown_inj : ∀ code other, parse t = .ok code → parse u = .ok other →
    code.text = other.text → code = other
  fromText : (FromText.fromText t : Except ValidationError PostalCode) = parse t

/-- **The key of a text is its normal form**, for any two texts. -/
theorem key_is_normal_form (t u : String) : NormalForm t u := by
  refine
    { alike := parse_eq_of_key, key_eq := ?_, kept := ?_, shown := ?_, shown_inj := ?_,
      fromText := rfl }
  · intro code ht hu
    rw [← String.toList_inj, (parse_eq_ok_iff t code).mp ht, (parse_eq_ok_iff u code).mp hu]
  · intro code ht
    refine ⟨?_, PostalNumber.fourDigits_text code.number⟩
    rw [← String.toList_inj, String.toList_append, PostalNumber.toList_text,
      Letters.toList_text, (parse_eq_ok_iff t code).mp ht]
  · intro code _
    exact parse_text code
  · intro code other _ _ htext
    exact text_injective htext

end PostalCode

end WastePass
