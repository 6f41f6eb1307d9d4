import WastePass.Display.Wrapping
import WastePass.Text.Lines

/-!
# Plain text — a column for every character

    A plain character is one of ASCII that can be printed.  Characters of a plain text do not
    join, and each takes one column, so in a row of a list they stand one behind the other in
    the style of the row (`Cell.place_plain`).
-/

namespace WastePass

namespace Text

/-- A character of ASCII that can be printed. -/
def Plain (c : Char) : Prop := 32 ≤ c.toNat ∧ c.toNat < 127

instance : DecidablePred Plain := fun c =>
  @instDecidableAnd (32 ≤ c.toNat) (c.toNat < 127) (Nat.decLe _ _) (Nat.decLt _ _)

-- Over the characters of the text; there is also an instance over all characters.
instance (cs : List Char) : Decidable (∀ c ∈ cs, Plain c) :=
  List.decidableBAll Plain cs

/-- No span covers a code point below all of them. -/
theorem CodeRanges.mem_eq_false {ranges : CodeRanges} {least : Nat}
    (h : ∀ r ∈ ranges, least ≤ r.1) {c : Char} (hc : c.toNat < least) : ranges.mem c = false := by
  rw [Bool.eq_false_iff]
  intro hmem
  obtain ⟨r, hr, hfirst, -⟩ := (mem_iff ranges c).mp hmem
  have := h r hr
  omega

namespace Plain

variable {c : Char}

/-- A plain character is not one with another code point. -/
theorem ne_of_not (h : Plain c) {d : Char} (hd : ¬ Plain d) : c ≠ d := by
  rintro rfl
  exact hd h

theorem kind_eq (h : Plain c) : Cluster.kind c = .other := by
  unfold Cluster.kind
  rw [if_neg (h.ne_of_not (by decide)), if_neg (h.ne_of_not (by decide)),
    if_neg (h.ne_of_not (by decide)), if_pos h.2, if_neg (Nat.not_lt.mpr h.1)]

/-- A plain character takes one column. -/
theorem width_eq (h : Plain c) : Cluster.width [c] = 1 := by
  have hwide : Property.wide.mem c = false :=
    CodeRanges.mem_eq_false (show ∀ r ∈ Property.wide, 127 ≤ r.1 by decide +kernel) h.2
  have hpicture : Cluster.isPicture c = false := by
    rw [Cluster.isPicture, hwide, Bool.and_false]
  have htone : Cluster.isTone c = false := by
    have := h.2
    rw [Cluster.isTone, Bool.and_eq_false_iff, decide_eq_false_iff_not]
    omega
  have hjoined : (decide (c = '\u200d') && decide (Cluster.Behind.nothing = .picture)) = false := by
    rw [Bool.and_comm]
    rfl
  have hcolumn : charWidth c = 1 := if_pos h.2
  have hplaced : Cluster.placed c .nothing = (1, .nothing) := by
    unfold Cluster.placed
    simp only [h.ne_of_not (show ¬ Plain '\n' by decide), h.ne_of_not (show ¬ Plain '\r' by decide),
      h.ne_of_not (show ¬ Plain Cluster.pictureSelector by decide), htone, hpicture, hcolumn,
      hjoined, if_false, Bool.false_eq_true]
  unfold Cluster.width Cluster.measure Cluster.measure
  simp only [hplaced, Nat.zero_add]

end Plain

/-- What a cluster that ends in a plain character remembers of it. -/
structure EndsPlain (m : Cluster.Memory) : Prop where
  last : m.last = .other
  joinedPicture : m.joinedPicture = false
  linked : m.linked = false

theorem endsPlain_first {c : Char} (h : Plain c) : EndsPlain (.first c) :=
  ⟨h.kind_eq, rfl, rfl⟩

/-- Nothing plain belongs to a cluster that ends in a plain character. -/
theorem EndsPlain.not_goesOn {m : Cluster.Memory} (hm : EndsPlain m) {c : Char} (h : Plain c) :
    m.goesOn c = false := by
  unfold Cluster.Memory.goesOn
  simp only [hm.last, h.kind_eq, hm.joinedPicture, hm.linked, Bool.false_and, Bool.or_self]

/-- The clusters of a plain text are its characters. -/
theorem clusters_plain {cs : List Char} (h : ∀ c ∈ cs, Plain c) :
    clusters cs = cs.map fun c => [c] := by
  -- Behind the first character: the cluster at hand ends in a plain one.
  have hfrom : ∀ (cs : List Char) (m : Cluster.Memory) (c : Char), EndsPlain m →
      (∀ c ∈ cs, Plain c) → clustersFrom m [c] cs = [c] :: cs.map fun c => [c] := by
    intro cs
    induction cs with
    | nil => exact fun m c _ _ => rfl
    | cons d cs ih =>
        intro m c hm hcs
        obtain ⟨hd, hrest⟩ := List.forall_mem_cons.mp hcs
        rw [clustersFrom, hm.not_goesOn hd, if_neg Bool.false_ne_true,
          ih _ d (endsPlain_first hd) hrest]
        rfl
  cases cs with
  | nil => rfl
  | cons c cs =>
      obtain ⟨hc, hcs⟩ := List.forall_mem_cons.mp h
      exact hfrom cs _ c (endsPlain_first hc) hcs

end Text

namespace Display

open Text (Plain)

/-- The glyphs of a plain text, one for each character. -/
theorem Glyph.ofText_plain (style : Style) {cs : List Char} (h : ∀ c ∈ cs, Plain c) :
    Glyph.ofText style cs = cs.map fun c => ⟨[c], style⟩ := by
  rw [ofText, Text.clusters_plain h, List.map_map]
  rfl

/-- A style that says nothing leaves a style as it is. -/
@[simp] theorem Style.empty_onto (style : Style) : Style.onto {} style = style := rfl

namespace Cell

/-- Plain characters behind others take the next columns, as far as there are any. -/
theorem placeFrom_plain {limit : Nat} {base : Style} {cs : List Char} (h : ∀ c ∈ cs, Plain c) :
    ∀ (cells : List Cell) (taken : Nat), taken ≤ limit → (cells = [] ↔ taken = 0) →
      placeFrom limit base cells taken (cs.map fun c => ⟨[c], {}⟩)
        = cells ++ (cs.take (limit - taken)).map fun c => ⟨String.ofList [c], base⟩ := by
  -- Any number of columns may be taken, but none only in front of the first cell.
  induction cs with
  | nil =>
      intro cells taken _ _
      rw [List.take_nil, List.map_nil, List.map_nil, List.append_nil]
      rfl
  | cons c cs ih =>
      intro cells taken hle hempty
      obtain ⟨hc, hcs⟩ := List.forall_mem_cons.mp h
      have hwidth : Glyph.width ⟨[c], {}⟩ = 1 := hc.width_eq
      have hcell : ofGlyph base ⟨[c], {}⟩ = ⟨String.ofList [c], base⟩ := rfl
      rw [List.map_cons, placeFrom, hwidth]
      by_cases hfull : limit < taken + 1
      · have hroom : limit - taken = 0 := by omega
        rw [if_pos hfull, hroom, List.take_zero, List.map_nil, List.append_nil]
      · have hroom : limit - taken = limit - (taken + 1) + 1 := by omega
        have hcovered : covered ⟨[c], {}⟩ = [] := by
          rw [covered, hwidth]
          rfl
        have hnext : (if cells.isEmpty then ofGlyph base ⟨[c], {}⟩ :: covered ⟨[c], {}⟩
            else if taken = 0 then joinFirst ⟨[c], {}⟩ cells ++ covered ⟨[c], {}⟩
            else if (1 : Nat) = 0 then joinLast ⟨[c], {}⟩ cells
            else cells ++ ofGlyph base ⟨[c], {}⟩ :: covered ⟨[c], {}⟩)
            = cells ++ [⟨String.ofList [c], base⟩] := by
          rw [hcovered, hcell]
          by_cases hcells : cells = []
          · rw [hcells]
            rfl
          · rw [if_neg (by rwa [List.isEmpty_iff]), if_neg (fun h0 => hcells (hempty.mpr h0)),
              if_neg Nat.one_ne_zero]
        rw [if_neg hfull]
        dsimp only
        rw [hnext, ih hcs _ _ (by omega) (by simp), hroom, List.take_succ_cons, List.map_cons,
          List.append_assoc]
        rfl

/-- A plain text takes a column for each character, as far as there are columns. -/
theorem place_plain (limit : Nat) (base : Style) {cs : List Char} (h : ∀ c ∈ cs, Plain c) :
    place limit base (Glyph.ofText {} cs)
      = (cs.take limit).map fun c => ⟨String.ofList [c], base⟩ := by
  rw [Glyph.ofText_plain {} h]
  unfold place
  by_cases hnone : (decide (limit = 0)
      || decide (Glyph.totalWidth (cs.map fun c => ⟨[c], {}⟩) = 0)) = true
  · rw [if_pos hnone]
    rw [Bool.or_eq_true, decide_eq_true_eq, decide_eq_true_eq] at hnone
    rcases hnone with hlimit | hwidth
    · rw [hlimit, List.take_zero, List.map_nil]
    · cases cs with
      | nil => rw [List.take_nil, List.map_nil]
      | cons c cs =>
          have hc : Glyph.width ⟨[c], {}⟩ = 1 := (h c List.mem_cons_self).width_eq
          rw [List.map_cons, Glyph.totalWidth, List.foldr_cons, hc] at hwidth
          omega
  · rw [if_neg hnone, placeFrom_plain h [] 0 (Nat.zero_le limit) (iff_of_true rfl rfl)]
    rfl

end Cell

end Display

end WastePass
