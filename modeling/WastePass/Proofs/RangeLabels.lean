import WastePass.Overview
import WastePass.Proofs.Consistency

/-!
# Range labels — the ranges of a row can be told from what is shown of them

    The ranges of a district are shown one behind the other.  A bound is four digits long,
    and a range is a bound, or a bound, a dash and a bound, so its text ends where neither a
    digit nor a dash can follow.  Between two ranges stands a comma.  So a label is taken apart
    in one way only, and it is no range at all when there are none.
-/

namespace WastePass

namespace Range

/-- The text of a range ends after four characters or after nine. -/
theorem toList_text (r : Range) :
    r.text.toList = r.start.chars ++ if r.start = r.stop then [] else '-' :: r.stop.chars := by
  unfold text
  split
  · rw [PostalNumber.toList_text, List.append_nil]
  · rw [String.toList_append, String.toList_append, PostalNumber.toList_text,
      PostalNumber.toList_text, List.append_assoc]
    rfl

/-- A range can be told from its text in front of anything that does not begin with a dash. -/
theorem text_append_inj {r s : Range} {xs ys : List Char} (hxs : xs.head? ≠ some '-')
    (hys : ys.head? ≠ some '-') (h : r.text.toList ++ xs = s.text.toList ++ ys) :
    r = s ∧ xs = ys := by
  rw [toList_text, toList_text, List.append_assoc, List.append_assoc] at h
  obtain ⟨hchars, hrest⟩ := List.append_inj h rfl
  have hstart : r.start = s.start := PostalNumber.text_injective (congrArg String.ofList hchars)
  obtain ⟨first, last, hle⟩ := r
  obtain ⟨first', last', hle'⟩ := s
  obtain rfl : first = first' := hstart
  dsimp only at hrest
  by_cases hr : first = last <;> by_cases hs : first = last'
  · subst hr hs
    rw [if_pos rfl] at hrest
    exact ⟨rfl, hrest⟩
  · -- One number only, and behind it the dash of the other range.
    rw [if_pos hr, if_neg hs] at hrest
    exact absurd (congrArg List.head? hrest) hxs
  · rw [if_neg hr, if_pos hs] at hrest
    exact absurd (congrArg List.head? hrest).symm hys
  · rw [if_neg hr, if_neg hs] at hrest
    obtain ⟨hstop, hbehind⟩ := List.append_inj (List.cons.inj hrest).2 rfl
    obtain rfl : last = last' := PostalNumber.text_injective (congrArg String.ofList hstop)
    exact ⟨rfl, hbehind⟩

end Range

/-- What stands behind the first range of a label. -/
def furtherRanges (ranges : List Range) : List Char :=
  ranges.flatMap fun r => ',' :: ' ' :: r.text.toList

theorem head?_furtherRanges (ranges : List Range) :
    (furtherRanges ranges).head? ≠ some '-' := by
  cases ranges with
  | nil => exact nofun
  | cons r ranges =>
      intro h
      exact absurd (Option.some.inj h) (by decide)

/-- The ranges behind the first are told from their text. -/
theorem furtherRanges_injective : Function.Injective furtherRanges := by
  intro ranges
  induction ranges with
  | nil =>
      intro others h
      cases others with
      | nil => rfl
      | cons s others => exact nomatch h
  | cons r ranges ih =>
      intro others h
      cases others with
      | nil => exact nomatch h
      | cons s others =>
          have hbehind : r.text.toList ++ furtherRanges ranges
              = s.text.toList ++ furtherRanges others :=
            (List.cons.inj (List.cons.inj h).2).2
          obtain ⟨rfl, hrest⟩ := Range.text_append_inj (head?_furtherRanges ranges)
            (head?_furtherRanges others) hbehind
          rw [ih hrest]

theorem toList_rangesLabel_cons (r : Range) (ranges : List Range) :
    (rangesLabel (r :: ranges)).toList = r.text.toList ++ furtherRanges ranges := by
  show (", ".intercalate ((r :: ranges).map Range.text)).toList = _
  induction ranges generalizing r with
  | nil =>
      rw [List.map_singleton, String.intercalate_singleton]
      exact (List.append_nil _).symm
  | cons s ranges ih =>
      rw [List.map_cons, List.map_cons, String.intercalate_cons_cons, String.toList_append,
        String.toList_append, ← List.map_cons, ih, List.append_assoc]
      rfl

/-- A range is longer than the sign for no ranges. -/
theorem rangesLabel_cons_ne (r : Range) (ranges : List Range) :
    rangesLabel (r :: ranges) ≠ rangesLabel [] := by
  intro h
  have hlength := congrArg (List.length ∘ String.toList) h
  rw [Function.comp, Function.comp, toList_rangesLabel_cons, Range.toList_text,
    List.length_append, List.length_append] at hlength
  have hfour : r.start.chars.length = 4 := rfl
  have hone : (rangesLabel []).toList.length = 1 := by decide
  omega

theorem rangesLabel_injective : Function.Injective rangesLabel := by
  intro ranges others h
  cases ranges with
  | nil =>
      cases others with
      | nil => rfl
      | cons s others => exact absurd h.symm (rangesLabel_cons_ne s others)
  | cons r ranges =>
      cases others with
      | nil => exact absurd h (rangesLabel_cons_ne r ranges)
      | cons s others =>
          have hlists := congrArg String.toList h
          rw [toList_rangesLabel_cons, toList_rangesLabel_cons] at hlists
          obtain ⟨rfl, hrest⟩ := Range.text_append_inj (head?_furtherRanges ranges)
            (head?_furtherRanges others) hlists
          rw [furtherRanges_injective hrest]

/-- Ranges that were read from bounds show these bounds. -/
theorem map_bounds_of_mapM {bounds : List (String × String)} {ranges : List Range}
    (h : (bounds.mapM fun (start, stop) => Range.ofBounds start stop) = .ok ranges) :
    ranges.map Range.bounds = bounds := by
  have hreports := Reports.mapM ofBounds_reports bounds
  have hmapM : (bounds.mapM fun b => Range.ofBounds b.1 b.2) = .ok ranges := h
  rw [hmapM] at hreports
  exact map_eq_of_forall₂ hreports.of_ok

/-- **A label identifies its ranges.**  Lists of ranges, read from any bounds, are shown alike
    just when they are the same ranges in the same order, and then they were read from the
    same bounds. -/
theorem label_identifies_ranges {bounds others : List (String × String)}
    {ranges ranges' : List Range}
    (h : (bounds.mapM fun (start, stop) => Range.ofBounds start stop) = .ok ranges)
    (h' : (others.mapM fun (start, stop) => Range.ofBounds start stop) = .ok ranges') :
    (rangesLabel ranges = rangesLabel ranges' ↔ ranges = ranges') ∧
      (rangesLabel ranges = rangesLabel ranges' ↔ bounds = others) := by
  have hsame : rangesLabel ranges = rangesLabel ranges' ↔ ranges = ranges' :=
    rangesLabel_injective.eq_iff
  refine ⟨hsame, hsame.trans ?_⟩
  rw [← map_bounds_of_mapM h, ← map_bounds_of_mapM h']
  exact (List.map_injective_iff.mpr Range.bounds_injective).eq_iff.symm

/-- Two numbers side by side are not shown as the range from one to the other. -/
theorem label_identifies_ranges_of_adjacent :
    ∃ ranges ranges', ([("1019", "1019"), ("1020", "1020")].mapM
        fun (start, stop) => Range.ofBounds start stop) = .ok ranges ∧
      ([("1019", "1020")].mapM fun (start, stop) => Range.ofBounds start stop) = .ok ranges' ∧
      rangesLabel ranges ≠ rangesLabel ranges' := by
  have h : ([("1019", "1019"), ("1020", "1020")].mapM
        fun (start, stop) => Range.ofBounds start stop)
      = .ok [⟨1019, 1019, by decide⟩, ⟨1020, 1020, by decide⟩] := by
    rfl
  have h' : ([("1019", "1020")].mapM fun (start, stop) => Range.ofBounds start stop)
      = .ok [⟨1019, 1020, by decide⟩] := by
    rfl
  refine ⟨_, _, h, h', fun hlabel => ?_⟩
  exact absurd ((label_identifies_ranges h h').2.mp hlabel) (by decide)

end WastePass
