import Mathlib.Data.List.Basic
import WastePass.Text.Charset

/-!
# UTF-8 — bytes without a gap are the bytes of exactly one text

    The first byte of a longer character opens it and the others complete it.  `Completes`
    says which bytes do, within the bounds that an open character sets, and these are the
    bytes that the character is written in (`completes_of_encode`, `encode_of_completes`).
    So the strict reading accepts the bytes of texts and no others, and wherever it gives
    a text the lenient one gives the same.
-/

namespace WastePass

/-- A number that is a character's is that of its character. -/
theorem toNat_ofNat {n : Nat} (h : n.isValidChar) : (Char.ofNat n).toNat = n := by
  unfold Char.ofNat
  rw [dif_pos h]
  exact UInt32.toNat_ofNatLT ..

namespace Text.Utf8

/-! ## Open characters -/

/-- The bytes complete a character of which some bytes have been read. -/
inductive Completes : Partial → Bytes → Char → Prop where
  | last {bits low high : Nat} {b : UInt8} : low ≤ b.toNat ∧ b.toNat ≤ high →
      Completes ⟨0, bits, low, high⟩ [b] (Char.ofNat (64 * bits + (b.toNat - 0x80)))
  | next {more bits low high : Nat} {b : UInt8} {bs : Bytes} {c : Char} :
      low ≤ b.toNat ∧ b.toNat ≤ high →
      Completes (follow more (64 * bits + (b.toNat - 0x80))) bs c →
      Completes ⟨more + 1, bits, low, high⟩ (b :: bs) c

/-- The last byte of a character, by its value. -/
theorem Completes.of_last {bits low high n : Nat} {c : Char} (hn : n < 256)
    (hbounds : low ≤ n ∧ n ≤ high) (hc : c.toNat = 64 * bits + (n - 0x80)) :
    Completes ⟨0, bits, low, high⟩ [UInt8.ofNat n] c := by
  have hb : (UInt8.ofNat n).toNat = n := UInt8.toNat_ofNat_of_lt' hn
  have hlast : Completes ⟨0, bits, low, high⟩ [UInt8.ofNat n] _ :=
    Completes.last (by rw [hb]; exact hbounds)
  rw [hb, ← hc, Char.ofNat_toNat] at hlast
  exact hlast

/-- A byte that is not the last, by its value. -/
theorem Completes.of_next {more bits low high n : Nat} {bs : Bytes} {c : Char} (hn : n < 256)
    (hbounds : low ≤ n ∧ n ≤ high)
    (h : Completes (follow more (64 * bits + (n - 0x80))) bs c) :
    Completes ⟨more + 1, bits, low, high⟩ (UInt8.ofNat n :: bs) c := by
  have hb : (UInt8.ofNat n).toNat = n := UInt8.toNat_ofNat_of_lt' hn
  refine Completes.next ?_ ?_
  · rw [hb]
    exact hbounds
  · rw [hb]
    exact h

/-- What is still missing is one byte. -/
theorem Completes.exists_last {bits low high : Nat} {tail : Bytes} {c : Char}
    (h : Completes ⟨0, bits, low, high⟩ tail c) :
    ∃ b : UInt8, tail = [b] ∧ (low ≤ b.toNat ∧ b.toNat ≤ high) ∧
      c = Char.ofNat (64 * bits + (b.toNat - 0x80)) := by
  cases h with
  | last hbounds => exact ⟨_, rfl, hbounds, rfl⟩

/-- What is still missing is a byte and more. -/
theorem Completes.exists_next {more bits low high : Nat} {tail : Bytes} {c : Char}
    (h : Completes ⟨more + 1, bits, low, high⟩ tail c) :
    ∃ (b : UInt8) (bs : Bytes), tail = b :: bs ∧ (low ≤ b.toNat ∧ b.toNat ≤ high) ∧
      Completes (follow more (64 * bits + (b.toNat - 0x80))) bs c := by
  cases h with
  | next hbounds hrest => exact ⟨_, _, rfl, hbounds, hrest⟩

/-- The first byte that is missing lies within the bounds. -/
theorem Completes.exists_cons {p : Partial} {tail : Bytes} {c : Char} (h : Completes p tail c) :
    ∃ b bs, tail = b :: bs ∧ (p.low ≤ b.toNat ∧ b.toNat ≤ p.high) := by
  cases h with
  | last hbounds => exact ⟨_, _, rfl, hbounds⟩
  | next hbounds _ => exact ⟨_, _, rfl, hbounds⟩

/-- An open character is read where the next bytes complete it. -/
theorem decodeFrom_some_iff (bytes : Bytes) :
    ∀ (p : Partial) (c : Char) (units : List (Option Char)),
      decodeFrom (some p) bytes = some c :: units ↔
        ∃ tail rest, bytes = tail ++ rest ∧ Completes p tail c ∧ decode rest = units := by
  induction bytes with
  | nil =>
      intro p c units
      constructor
      · intro h
        exact nomatch h
      · rintro ⟨tail, rest, happend, hcompletes, -⟩
        rw [(List.append_eq_nil_iff.mp happend.symm).1] at hcompletes
        exact nomatch hcompletes
  | cons b bs ih =>
      rintro ⟨more, bits, low, high⟩ c units
      show (extend _ b.toNat).1 ++ decodeFrom (extend _ b.toNat).2 bs = some c :: units ↔ _
      unfold extend
      by_cases hbounds : low ≤ b.toNat ∧ b.toNat ≤ high
      · rw [if_pos hbounds]
        cases more with
        | zero =>
            constructor
            · intro h
              obtain ⟨hc, hunits⟩ := List.cons.inj h
              rw [← Option.some.inj hc]
              exact ⟨[b], bs, rfl, .last hbounds, hunits⟩
            · rintro ⟨tail, rest, happend, hcompletes, hunits⟩
              obtain ⟨x, rfl, -, hc⟩ := hcompletes.exists_last
              obtain ⟨rfl, rfl⟩ := List.cons.inj happend
              rw [hc, ← hunits]
              rfl
        | succ n =>
            refine (ih _ c units).trans ?_
            constructor
            · rintro ⟨tail, rest, happend, hcompletes, hunits⟩
              exact ⟨b :: tail, rest, congrArg (b :: ·) happend, .next hbounds hcompletes, hunits⟩
            · rintro ⟨tail, rest, happend, hcompletes, hunits⟩
              obtain ⟨x, xs, rfl, -, hlater⟩ := hcompletes.exists_next
              rw [List.cons_append, List.cons.injEq] at happend
              obtain ⟨rfl, happend⟩ := happend
              exact ⟨xs, rest, happend, hlater, hunits⟩
      · -- A byte out of bounds leaves a gap where the character was to stand.
        rw [if_neg hbounds]
        constructor
        · intro h
          exact nomatch (List.cons.inj h).1
        · rintro ⟨tail, rest, happend, hcompletes, -⟩
          obtain ⟨x, xs, rfl, hx⟩ := hcompletes.exists_cons
          obtain ⟨rfl, -⟩ := List.cons.inj happend
          exact absurd hx hbounds

/-! ## First bytes -/

theorem lead?_two {b : Nat} (h : 0xC2 ≤ b ∧ b ≤ 0xDF) :
    lead? b = some (follow 0 (b - 0xC0)) :=
  if_pos h

/-- The second of three bytes keeps out what two bytes write, and the surrogates. -/
theorem lead?_three {b : Nat} (h : 0xE0 ≤ b ∧ b ≤ 0xEF) :
    ∃ low high, lead? b = some ⟨1, b - 0xE0, low, high⟩ ∧
      ∀ x, low ≤ x ∧ x ≤ high ↔ (0x80 ≤ x ∧ x ≤ 0xBF) ∧
        32 ≤ 64 * (b - 0xE0) + (x - 0x80) ∧
        ¬ (0x360 ≤ 64 * (b - 0xE0) + (x - 0x80) ∧ 64 * (b - 0xE0) + (x - 0x80) ≤ 0x37F) := by
  unfold lead?
  rw [if_neg (by omega)]
  by_cases hE0 : b = 0xE0
  · subst hE0
    exact ⟨_, _, if_pos rfl, by omega⟩
  rw [if_neg hE0]
  by_cases hED : b = 0xED
  · subst hED
    exact ⟨_, _, if_pos rfl, by omega⟩
  rw [if_neg hED]
  exact ⟨_, _, if_pos (by omega), by omega⟩

/-- The second of four bytes keeps out what three bytes write, and what is no code point. -/
theorem lead?_four {b : Nat} (h : 0xF0 ≤ b ∧ b ≤ 0xF4) :
    ∃ low high, lead? b = some ⟨2, b - 0xF0, low, high⟩ ∧
      ∀ x, low ≤ x ∧ x ≤ high ↔ (0x80 ≤ x ∧ x ≤ 0xBF) ∧
        16 ≤ 64 * (b - 0xF0) + (x - 0x80) ∧ 64 * (b - 0xF0) + (x - 0x80) ≤ 0x10F := by
  unfold lead?
  rw [if_neg (by omega), if_neg (by omega), if_neg (by omega), if_neg (by omega)]
  by_cases hF0 : b = 0xF0
  · subst hF0
    exact ⟨_, _, if_pos rfl, by omega⟩
  rw [if_neg hF0]
  by_cases hF4 : b = 0xF4
  · subst hF4
    exact ⟨_, _, rfl, by omega⟩
  · exact ⟨_, _, if_pos (by omega), by omega⟩

theorem bounds_of_lead? {b : Nat} {p : Partial} (h : lead? b = some p) :
    0xC2 ≤ b ∧ b ≤ 0xF4 := by
  by_contra hb
  have hnone : lead? b = none := by
    unfold lead?
    repeat rw [if_neg (by omega)]
  exact nomatch hnone.symm.trans h

/-! ## The bytes of a character -/

theorem utf8EncodeChar_one {c : Char} (h : c.toNat ≤ 0x7F) :
    String.utf8EncodeChar c = [UInt8.ofNat c.toNat] :=
  if_pos h

theorem utf8EncodeChar_two {c : Char} (hlow : 0x7F < c.toNat) (h : c.toNat ≤ 0x7FF) :
    String.utf8EncodeChar c
      = [UInt8.ofNat (c.toNat / 64 % 0x20 + 0xC0), UInt8.ofNat (c.toNat % 64 + 0x80)] :=
  (if_neg (Nat.not_le.mpr hlow)).trans (if_pos h)

theorem utf8EncodeChar_three {c : Char} (hlow : 0x7FF < c.toNat) (h : c.toNat ≤ 0xFFFF) :
    String.utf8EncodeChar c
      = [UInt8.ofNat (c.toNat / 4096 % 0x10 + 0xE0), UInt8.ofNat (c.toNat / 64 % 64 + 0x80),
         UInt8.ofNat (c.toNat % 64 + 0x80)] := by
  have hone : ¬ c.val.toNat ≤ 0x7F := Nat.not_le.mpr (Nat.lt_trans (by decide) hlow)
  exact (if_neg hone).trans ((if_neg (Nat.not_le.mpr hlow)).trans (if_pos h))

theorem utf8EncodeChar_four {c : Char} (hlow : 0xFFFF < c.toNat) :
    String.utf8EncodeChar c
      = [UInt8.ofNat (c.toNat / 262144 % 8 + 0xF0), UInt8.ofNat (c.toNat / 4096 % 64 + 0x80),
         UInt8.ofNat (c.toNat / 64 % 64 + 0x80), UInt8.ofNat (c.toNat % 64 + 0x80)] := by
  have hone : ¬ c.val.toNat ≤ 0x7F := Nat.not_le.mpr (Nat.lt_trans (by decide) hlow)
  have htwo : ¬ c.val.toNat ≤ 0x7FF := Nat.not_le.mpr (Nat.lt_trans (by decide) hlow)
  exact (if_neg hone).trans ((if_neg htwo).trans (if_neg (Nat.not_le.mpr hlow)))

/-- A byte says what its value says. -/
theorem lead?_ofNat {n : Nat} {p : Partial} (hn : n < 256) (h : lead? n = some p) :
    lead? (UInt8.ofNat n).toNat = some p := by
  rw [UInt8.toNat_ofNat_of_lt' hn]
  exact h

/-- The first byte of a longer character opens it and the others complete it. -/
theorem completes_of_encode {c : Char} (hc : 0x7F < c.toNat) :
    ∃ b tail p, String.utf8EncodeChar c = b :: tail ∧ lead? b.toNat = some p ∧
      Completes p tail c := by
  have hvalid : c.toNat < 0xD800 ∨ 0xDFFF < c.toNat ∧ c.toNat < 0x110000 := c.valid
  by_cases htwo : c.toNat ≤ 0x7FF
  · exact ⟨_, _, _, utf8EncodeChar_two hc htwo, lead?_ofNat (by omega) (lead?_two (by omega)),
      .of_last (by omega) (by omega) (by omega)⟩
  by_cases hthree : c.toNat ≤ 0xFFFF
  · obtain ⟨low, high, hlead, hbounds⟩ :=
      lead?_three (b := c.toNat / 4096 % 0x10 + 0xE0) (by omega)
    exact ⟨_, _, _, utf8EncodeChar_three (by omega) hthree, lead?_ofNat (by omega) hlead,
      .of_next (by omega) ((hbounds _).mpr (by omega))
        (.of_last (by omega) (by omega) (by omega))⟩
  · obtain ⟨low, high, hlead, hbounds⟩ :=
      lead?_four (b := c.toNat / 262144 % 8 + 0xF0) (by omega)
    exact ⟨_, _, _, utf8EncodeChar_four (by omega), lead?_ofNat (by omega) hlead,
      .of_next (by omega) ((hbounds _).mpr (by omega))
        (.of_next (by omega) (by omega) (.of_last (by omega) (by omega) (by omega)))⟩

/-- A byte is the byte of its value. -/
theorem byte_eq {n : Nat} {b : UInt8} (h : n = b.toNat) : UInt8.ofNat n = b := by
  rw [h, UInt8.ofNat_toNat]

/-- A character that is opened and completed is written in these bytes. -/
theorem encode_of_completes {c : Char} {b : UInt8} {tail : Bytes} {p : Partial}
    (hlead : lead? b.toNat = some p) (h : Completes p tail c) :
    String.utf8EncodeChar c = b :: tail := by
  have hb := bounds_of_lead? hlead
  by_cases htwo : b.toNat ≤ 0xDF
  · rw [lead?_two ⟨hb.1, htwo⟩] at hlead
    obtain rfl := Option.some.inj hlead
    obtain ⟨x, rfl, hx, hc⟩ := h.exists_last
    have hn : c.toNat = 64 * (b.toNat - 0xC0) + (x.toNat - 0x80) := by
      rw [hc]
      exact toNat_ofNat (by unfold Nat.isValidChar; omega)
    rw [utf8EncodeChar_two (by omega) (by omega), byte_eq (b := b) (by omega),
      byte_eq (b := x) (by omega)]
  by_cases hthree : b.toNat ≤ 0xEF
  · obtain ⟨low, high, hp, hbounds⟩ := lead?_three (b := b.toNat) (by omega)
    rw [hp] at hlead
    obtain rfl := Option.some.inj hlead
    obtain ⟨x, bs, rfl, hx, h⟩ := h.exists_next
    obtain ⟨y, rfl, hy, hc⟩ := h.exists_last
    have hx := (hbounds x.toNat).mp hx
    have hn : c.toNat = 64 * (64 * (b.toNat - 0xE0) + (x.toNat - 0x80)) + (y.toNat - 0x80) := by
      rw [hc]
      exact toNat_ofNat (by unfold Nat.isValidChar; omega)
    rw [utf8EncodeChar_three (by omega) (by omega), byte_eq (b := b) (by omega),
      byte_eq (b := x) (by omega), byte_eq (b := y) (by omega)]
  · obtain ⟨low, high, hp, hbounds⟩ := lead?_four (b := b.toNat) (by omega)
    rw [hp] at hlead
    obtain rfl := Option.some.inj hlead
    obtain ⟨x, bs, rfl, hx, h⟩ := h.exists_next
    obtain ⟨y, bs, rfl, hy, h⟩ := h.exists_next
    obtain ⟨z, rfl, hz, hc⟩ := h.exists_last
    have hx := (hbounds x.toNat).mp hx
    have hn : c.toNat = 64 * (64 * (64 * (b.toNat - 0xF0) + (x.toNat - 0x80))
        + (y.toNat - 0x80)) + (z.toNat - 0x80) := by
      rw [hc]
      exact toNat_ofNat (by unfold Nat.isValidChar; omega)
    rw [utf8EncodeChar_four (by omega), byte_eq (b := b) (by omega),
      byte_eq (b := x) (by omega), byte_eq (b := y) (by omega), byte_eq (b := z) (by omega)]

/-! ## Texts -/

/-- A character is read where its bytes come first. -/
theorem decode_encode_append (c : Char) (rest : Bytes) :
    decode (String.utf8EncodeChar c ++ rest) = some c :: decode rest := by
  by_cases hc : c.toNat ≤ 0x7F
  · rw [utf8EncodeChar_one hc]
    show (enter (UInt8.ofNat c.toNat).toNat).1 ++ decodeFrom (enter _).2 rest = _
    rw [UInt8.toNat_ofNat_of_lt' (show _ < 256 by omega), enter, if_pos (by omega),
      Char.ofNat_toNat]
    rfl
  · obtain ⟨b, tail, p, hencode, hlead, hcompletes⟩ := completes_of_encode (Nat.not_le.mp hc)
    have hb := bounds_of_lead? hlead
    rw [hencode]
    show (enter b.toNat).1 ++ decodeFrom (enter b.toNat).2 (tail ++ rest) = _
    rw [enter, if_neg (by omega), hlead]
    exact (decodeFrom_some_iff _ p c _).mpr ⟨tail, rest, rfl, hcompletes, rfl⟩

/-- Where a character is read first its bytes come first. -/
theorem exists_of_decode {bytes : Bytes} {c : Char} {units : List (Option Char)}
    (h : decode bytes = some c :: units) :
    ∃ rest, bytes = String.utf8EncodeChar c ++ rest ∧ decode rest = units := by
  cases bytes with
  | nil => exact nomatch h
  | cons b bs =>
      replace h : (enter b.toNat).1 ++ decodeFrom (enter b.toNat).2 bs = some c :: units := h
      rw [enter] at h
      by_cases hb : b.toNat < 0x80
      · rw [if_pos hb] at h
        obtain ⟨hc, hunits⟩ := List.cons.inj h
        have hn : c.toNat = b.toNat := by
          rw [← Option.some.inj hc]
          exact toNat_ofNat (by unfold Nat.isValidChar; omega)
        refine ⟨bs, ?_, hunits⟩
        rw [utf8EncodeChar_one (by omega), byte_eq hn]
        rfl
      · rw [if_neg hb] at h
        cases hlead : lead? b.toNat with
        | none =>
            rw [hlead] at h
            exact nomatch (List.cons.inj h).1
        | some p =>
            rw [hlead] at h
            obtain ⟨tail, rest, rfl, hcompletes, hunits⟩ := (decodeFrom_some_iff bs p c units).mp h
            refine ⟨rest, ?_, hunits⟩
            rw [encode_of_completes hlead hcompletes]
            rfl

/-- What is left open is read as something. -/
theorem decodeFrom_some_ne_nil (bytes : Bytes) : ∀ p, decodeFrom (some p) bytes ≠ [] := by
  induction bytes with
  | nil => exact fun p h => nomatch h
  | cons b bs ih =>
      rintro ⟨more, bits, low, high⟩
      show (extend _ b.toNat).1 ++ decodeFrom (extend _ b.toNat).2 bs ≠ []
      unfold extend
      by_cases hbounds : low ≤ b.toNat ∧ b.toNat ≤ high
      · rw [if_pos hbounds]
        cases more with
        | zero => exact List.cons_ne_nil _ _
        | succ n => exact ih _
      · rw [if_neg hbounds]
        exact List.cons_ne_nil _ _

theorem decode_cons_ne_nil (b : UInt8) (bs : Bytes) : decode (b :: bs) ≠ [] := by
  show (enter b.toNat).1 ++ decodeFrom (enter b.toNat).2 bs ≠ []
  unfold enter
  split
  · exact List.cons_ne_nil _ _
  · split
    · exact List.cons_ne_nil _ _
    · exact decodeFrom_some_ne_nil bs _

/-- Bytes are read as characters without a gap when they are the bytes of these. -/
theorem decode_eq_map_some_iff (cs : List Char) :
    ∀ bytes, decode bytes = cs.map some ↔ bytes = cs.flatMap String.utf8EncodeChar := by
  induction cs with
  | nil =>
      intro bytes
      constructor
      · intro h
        cases bytes with
        | nil => rfl
        | cons b bs => exact absurd h (decode_cons_ne_nil b bs)
      · rintro rfl
        rfl
  | cons c cs ih =>
      intro bytes
      constructor
      · intro h
        obtain ⟨rest, rfl, hrest⟩ := exists_of_decode h
        rw [(ih rest).mp hrest, List.flatMap_cons]
      · rintro rfl
        rw [List.flatMap_cons, decode_encode_append, (ih _).mpr rfl]
        rfl

/-- The bytes of a text are read as its characters. -/
theorem decode_encode (text : String) : decode (encode text) = text.toList.map some :=
  (decode_eq_map_some_iff _ _).mpr rfl

/-- No gap is left out. -/
theorem mapM_id_eq_some_iff {α : Type} (units : List (Option α)) :
    ∀ as, units.mapM id = some as ↔ units = as.map some := by
  induction units with
  | nil =>
      intro as
      rw [List.mapM_nil]
      cases as <;> simp
  | cons u us ih =>
      intro as
      rw [List.mapM_cons]
      cases u with
      | none => cases as <;> simp
      | some a =>
          show (us.mapM id).bind (fun rest => some (a :: rest)) = some as ↔ _
          rw [Option.bind_eq_some_iff]
          constructor
          · rintro ⟨rest, hrest, has⟩
            rw [← Option.some.inj has, (ih rest).mp hrest]
            rfl
          · intro h
            cases as with
            | nil => exact nomatch h
            | cons b bs =>
                obtain ⟨hb, hbs⟩ := List.cons.inj h
                exact ⟨bs, (ih bs).mpr hbs, by rw [Option.some.inj hb]⟩

/-- **Strict reading accepts exactly the bytes of texts**, each as that text. -/
theorem strict?_eq_some_iff (bytes : Bytes) (text : String) :
    strict? bytes = some text ↔ bytes = encode text := by
  rw [strict?, Option.map_eq_some_iff]
  constructor
  · rintro ⟨cs, hcs, rfl⟩
    rw [encode, String.toList_ofList]
    exact (decode_eq_map_some_iff cs bytes).mp ((mapM_id_eq_some_iff _ cs).mp hcs)
  · intro h
    refine ⟨text.toList, ?_, String.ofList_toList⟩
    exact (mapM_id_eq_some_iff _ _).mpr ((decode_eq_map_some_iff _ bytes).mpr h)

/-- **Strict reading refuses the bytes of no text**, and nothing else. -/
theorem strict?_eq_none_iff (bytes : Bytes) :
    strict? bytes = none ↔ ∀ text, bytes ≠ encode text := by
  rw [Option.eq_none_iff_forall_ne_some]
  exact forall_congr' fun text => not_congr (strict?_eq_some_iff bytes text)

/-- Lenient reading gives a text back from its bytes. -/
theorem lenient_encode (text : String) : lenient (encode text) = text := by
  rw [lenient, decode_encode, List.map_map]
  simp [Function.comp_def]

end Utf8

/-! ## Marks -/

namespace Charset

/-- The character that is written as the mark of the encoding. -/
def mark : Char := '\uFEFF'

/-- The text begins with a mark. -/
def Marked (text : String) : Prop := text.toList.head? = some mark

instance (text : String) : Decidable (Marked text) :=
  inferInstanceAs (Decidable (text.toList.head? = some mark))

/-- Behind a mark stand the bytes of a text. -/
theorem marked?_mark (bytes : Bytes) :
    marked? (String.utf8EncodeChar mark ++ bytes) = some (.utf8, bytes) :=
  rfl

/-- The bytes of a text without a mark have none. -/
theorem marked?_encode {text : String} (h : ¬ Marked text) :
    marked? (Utf8.encode text) = none := by
  have hfirst : (Utf8.decode (Utf8.encode text)).head? = text.toList.head?.map some := by
    rw [Utf8.decode_encode, List.head?_map]
  unfold marked?
  split
  · next bytes hbytes =>
    -- The three bytes of the mark are read as the mark.
    have hmark : (Utf8.decode (0xEF :: 0xBB :: 0xBF :: bytes)).head? = some (some mark) := rfl
    rw [hbytes, hmark] at hfirst
    obtain ⟨c, hc, hmark⟩ := Option.map_eq_some_iff.mp hfirst.symm
    rw [Option.some.inj hmark] at hc
    exact absurd hc h
  · next bytes hbytes =>
    -- The other two marks begin with a gap.
    have hgap : (Utf8.decode (0xFF :: 0xFE :: bytes)).head? = some none := rfl
    rw [hbytes, hgap] at hfirst
    obtain ⟨c, -, hc⟩ := Option.map_eq_some_iff.mp hfirst.symm
    exact nomatch hc
  · next bytes hbytes =>
    have hgap : (Utf8.decode (0xFE :: 0xFF :: bytes)).head? = some none := rfl
    rw [hbytes, hgap] at hfirst
    obtain ⟨c, -, hc⟩ := Option.map_eq_some_iff.mp hfirst.symm
    exact nomatch hc
  · rfl

/-- A text without a mark is decoded as it was encoded, unless another charset is named. -/
theorem decode_encode {text : String} (h : ¬ Marked text) {named : Option Charset}
    (hnamed : ∀ charset ∈ named, charset = .utf8) :
    decode named (Utf8.encode text) = text := by
  have hcharset : named.getD .utf8 = .utf8 := by
    cases named with
    | none => rfl
    | some charset => exact hnamed charset rfl
  rw [decode, marked?_encode h]
  show (named.getD .utf8).read (Utf8.encode text) = text
  rw [hcharset]
  exact Utf8.lenient_encode text

/-- A mark is no part of the text, whatever charset is named. -/
theorem decode_mark (named : Option Charset) (text : String) :
    decode named (String.utf8EncodeChar mark ++ Utf8.encode text) = text := by
  rw [decode, marked?_mark]
  exact Utf8.lenient_encode text

end Charset

end Text

end WastePass
