import WastePass.Display.Wrapping

/-!
# Wrapped lines — what stands in them, and what stands first

    A line is wrapped glyph by glyph.  Each glyph is put at the end of a word or of a gap, and
    from there into a line, or it is left out, so nothing stands in the lines but what stood in
    the text (`wrap_forall`).  A glyph that begins the text and is no blank is never left
    behind: it begins the first line, however few columns there are (`wrap_cons`).
-/

namespace WastePass.Display

/-- What is left of the blanks behind a line are some of them. -/
theorem Wrapping.dropFitting_subset (room : Nat) (gs : List Glyph) :
    dropFitting room gs ⊆ gs := by
  induction gs generalizing room with
  | nil => exact List.nil_subset _
  | cons g gs ih =>
      unfold dropFitting
      split
      · exact List.Subset.trans (ih _) (List.subset_cons_self g gs)
      · exact List.Subset.refl _

/-- The glyphs of a line that are not cut off are some of them. -/
theorem cutFrom_subset (limit taken : Nat) (gs : List Glyph) : cutFrom limit taken gs ⊆ gs := by
  induction gs generalizing taken with
  | nil => exact List.nil_subset _
  | cons g gs ih =>
      unfold cutFrom
      split
      · exact List.Subset.trans (ih _) (List.subset_cons_self g gs)
      · split
        · exact List.nil_subset _
        · exact List.cons_subset_cons g (ih _)

namespace Wrapping

variable {limit : Nat} {s : Wrapping}

/-- What becomes of a glyph once the word before it is where it belongs. -/
def behind (limit : Nat) (s : Wrapping) (g : Glyph) : Wrapping :=
  if s.mustEnd limit g then
    if g.isGap && (s.ended limit).gap.isEmpty then s.ended limit else (s.ended limit).push g
  else s.push g

theorem take_eq (limit : Nat) (s : Wrapping) (g : Glyph) :
    s.take limit g = if limit < g.width then s
      else behind limit (if s.mustSettle limit g then s.settled else s) g :=
  rfl

/-- The line at hand with all that stands behind it. -/
def whole (s : Wrapping) : List Glyph :=
  (if s.line.isEmpty then [] else s.line ++ s.gap) ++ s.word

/-- The lines of a text are those that are done, the line at hand and empty ones. -/
theorem mem_finish {line : List Glyph} (h : line ∈ s.finish) :
    line = [] ∨ line ∈ s.done ∨ line = s.whole := by
  have hparts : ∀ a b c : List (List Glyph),
      line ∈ (if (a ++ b ++ c).isEmpty then [[]] else a ++ b ++ c) →
        line = [] ∨ line ∈ a ∨ line ∈ b ∨ line ∈ c := by
    intro a b c h
    split at h
    · exact .inl (List.mem_singleton.mp h)
    · simpa only [List.mem_append, or_assoc] using Or.inr h
  rcases hparts _ _ _ h with h | h | h | h
  · exact .inl h
  · exact .inr (.inl (List.mem_reverse.mp h))
  · split at h
    · exact .inl (List.mem_singleton.mp h)
    · exact nomatch h
  · have hwhole : line ∈ if s.whole.isEmpty then [] else [s.whole] := h
    split at hwhole
    · exact nomatch hwhole
    · exact .inr (.inr (List.mem_singleton.mp hwhole))

/-! ## What stands in the lines -/

/-- All glyphs that have been put somewhere are of a kind. -/
structure Holds (P : Glyph → Prop) (s : Wrapping) : Prop where
  done : ∀ line ∈ s.done, ∀ g ∈ line, P g
  line : ∀ g ∈ s.line, P g
  gap : ∀ g ∈ s.gap, P g
  word : ∀ g ∈ s.word, P g

variable {P : Glyph → Prop}

theorem Holds.whole (h : s.Holds P) : ∀ g ∈ s.whole, P g := by
  have hfront : ∀ g ∈ if s.line.isEmpty then [] else s.line ++ s.gap, P g := by
    split
    · exact List.forall_mem_nil P
    · exact List.forall_mem_append.mpr ⟨h.line, h.gap⟩
  exact List.forall_mem_append.mpr ⟨hfront, h.word⟩

theorem Holds.settled (h : s.Holds P) : s.settled.Holds P where
  done := h.done
  line := h.whole
  gap := List.forall_mem_nil P
  word := List.forall_mem_nil P

theorem Holds.ended (h : s.Holds P) : (s.ended limit).Holds P where
  done := List.forall_mem_cons.mpr ⟨h.line, h.done⟩
  line := List.forall_mem_nil P
  gap g hg := h.gap g (dropFitting_subset _ _ hg)
  word := h.word

theorem Holds.push (h : s.Holds P) {g : Glyph} (hg : P g) : (s.push g).Holds P := by
  unfold Wrapping.push
  split
  · exact ⟨h.done, h.line, List.forall_mem_append.mpr ⟨h.gap, by simpa using hg⟩, h.word⟩
  · exact ⟨h.done, h.line, h.gap, List.forall_mem_append.mpr ⟨h.word, by simpa using hg⟩⟩

theorem Holds.take (h : s.Holds P) {g : Glyph} (hg : P g) : (s.take limit g).Holds P := by
  have hbehind : ∀ s : Wrapping, s.Holds P → (behind limit s g).Holds P := by
    intro s hs
    unfold behind
    split
    · split
      · exact hs.ended
      · exact hs.ended.push hg
    · exact hs.push hg
  rw [take_eq]
  split
  · exact h
  · refine hbehind _ ?_
    split
    · exact h.settled
    · exact h

theorem Holds.finish (h : s.Holds P) : ∀ line ∈ s.finish, ∀ g ∈ line, P g := by
  intro line hline
  rcases mem_finish hline with rfl | hdone | rfl
  · exact List.forall_mem_nil P
  · exact h.done line hdone
  · exact h.whole

/-! ## What stands first -/

/-- The glyph begins the first line, which is done or at hand. -/
inductive Begun (g : Glyph) (s : Wrapping) : Prop
  | done (line : List Glyph) (h : s.done.getLast? = some (g :: line))
  | line (rest : List Glyph) (hdone : s.done = []) (hline : s.line = g :: rest)

/-- The glyph begins the first line, or the word that will begin it. -/
inductive Leads (g : Glyph) (s : Wrapping) : Prop
  | begun (h : s.Begun g)
  | word (rest : List Glyph) (hdone : s.done = []) (hline : s.line = []) (hgap : s.gap = [])
      (hword : s.word = g :: rest) (hafter : s.afterWord = true)

variable {g : Glyph}

theorem Begun.push (h : s.Begun g) (x : Glyph) : (s.push x).Begun g := by
  unfold Wrapping.push
  cases h with
  | done line h => split <;> exact .done line h
  | line rest hdone hline => split <;> exact .line rest hdone hline

theorem Begun.ended (h : s.Begun g) : (s.ended limit).Begun g := by
  cases h with
  | done line h =>
      refine .done line ?_
      show (s.line :: s.done).getLast? = _
      rw [List.getLast?_cons, h]
      rfl
  | line rest hdone hline =>
      refine .done rest ?_
      show (s.line :: s.done).getLast? = _
      rw [hdone, hline]
      rfl

theorem Leads.settled (h : s.Leads g) : s.settled.Begun g := by
  cases h with
  | begun h =>
      cases h with
      | done line h => exact .done line h
      | line rest hdone hline =>
          refine .line (rest ++ s.gap ++ s.word) hdone ?_
          rw [Wrapping.settled, hline]
          rfl
  | word rest hdone hline _ hword _ =>
      refine .line rest hdone ?_
      rw [Wrapping.settled, hline, hword]
      rfl

/-- A word that is not put into the line before the next glyph has room for it there, and
    the glyph belongs to it. -/
theorem not_mustEnd (hlimit : 0 < limit) {x : Glyph}
    (hsettle : ¬ s.mustSettle limit x = true) (hline : s.line = []) (hgap : s.gap = [])
    (hafter : s.afterWord = true) : s.mustEnd limit x = false ∧ x.isGap = false := by
  rw [mustSettle, hline, hgap, hafter] at hsettle
  simp only [Bool.true_and, List.isEmpty_nil, Bool.or_eq_true, decide_eq_true_eq, not_or,
    Bool.not_eq_true] at hsettle
  have hcolumns : s.columns = Glyph.totalWidth s.word := by
    rw [columns, hline, hgap]
    exact Nat.zero_add _
  refine ⟨?_, hsettle.1⟩
  rw [mustEnd, hcolumns, hline, Bool.or_eq_false_iff, decide_eq_false_iff_not,
    Glyph.totalWidth, List.foldr_nil, ← Bool.not_eq_true, Bool.and_eq_true, decide_eq_true_eq,
    decide_eq_true_eq]
  omega

/-- Once the glyph begins a line, neither the end of the line nor another glyph changes that. -/
theorem Begun.behind (h : s.Begun g) (x : Glyph) : (behind limit s x).Begun g := by
  unfold Wrapping.behind
  split
  · split
    · exact h.ended
    · exact h.ended.push x
  · exact h.push x

theorem Leads.take (hlimit : 0 < limit) (h : s.Leads g) (x : Glyph) :
    (s.take limit x).Leads g := by
  rw [take_eq]
  by_cases hwide : limit < x.width
  · rw [if_pos hwide]
    exact h
  · rw [if_neg hwide]
    by_cases hsettle : s.mustSettle limit x = true
    · rw [if_pos hsettle]
      exact .begun (h.settled.behind x)
    · rw [if_neg hsettle]
      cases h with
      | begun h => exact .begun (h.behind x)
      | word rest hdone hline hgap hword hafter =>
          obtain ⟨hend, hx⟩ := not_mustEnd hlimit hsettle hline hgap hafter
          rw [Wrapping.behind, hend, if_neg Bool.false_ne_true, Wrapping.push, hx,
            if_neg Bool.false_ne_true]
          refine .word (rest ++ [x]) hdone hline hgap ?_ rfl
          show s.word ++ [x] = _
          rw [hword]
          rfl

/-- The first glyph of a text begins its first word. -/
theorem leads_take (hgap : g.isGap = false) (hpos : 0 < g.width) (hfits : g.width ≤ limit) :
    Leads g (Wrapping.take limit {} g) := by
  have hwide : ¬ limit < g.width := Nat.not_lt.mpr hfits
  have hlimit : ¬ limit ≤ 0 := by omega
  have hsettle : mustSettle limit {} g = false := by
    simp [mustSettle, Glyph.totalWidth, hwide]
  have hend : mustEnd limit {} g = false := by
    simp [mustEnd, columns, Glyph.totalWidth,
      Nat.pos_iff_ne_zero.mp (Nat.lt_of_lt_of_le hpos hfits)]
  rw [take_eq, if_neg hwide, hsettle, if_neg Bool.false_ne_true, Wrapping.behind, hend,
    if_neg Bool.false_ne_true, Wrapping.push, hgap, if_neg Bool.false_ne_true]
  exact .word [] rfl rfl rfl rfl rfl

/-- The first of all lines begins with the glyph. -/
theorem Leads.finish (h : s.Leads g) : ∃ line more, s.finish = (g :: line) :: more := by
  unfold Wrapping.finish
  dsimp only
  cases h with
  | begun h =>
      cases h with
      | done line h =>
          obtain ⟨others, hdone⟩ := List.getLast?_eq_some_iff.mp h
          rw [hdone, List.reverse_append]
          exact ⟨line, _, rfl⟩
      | line rest hdone hline =>
          rw [hdone, hline]
          exact ⟨_, _, rfl⟩
  | word rest hdone hline _ hword _ =>
      rw [hdone, hline, hword]
      exact ⟨_, _, rfl⟩

end Wrapping

/-- In the lines of a text stand glyphs of the text. -/
theorem wrap_forall {P : Glyph → Prop} (limit : Nat) {gs : List Glyph} (h : ∀ g ∈ gs, P g) :
    ∀ line ∈ wrap limit gs, ∀ g ∈ line, P g := by
  have hempty : Wrapping.Holds P {} :=
    ⟨nofun, nofun, nofun, nofun⟩
  have hall : Wrapping.Holds P (gs.foldl (Wrapping.take limit) {}) :=
    List.foldlRecOn gs _ hempty fun _ hs g hg => hs.take (h g hg)
  exact hall.finish

/-- A glyph at the beginning of a text that is no blank begins the first line. -/
theorem wrap_cons {limit : Nat} {g : Glyph} (hgap : g.isGap = false) (hpos : 0 < g.width)
    (hfits : g.width ≤ limit) (gs : List Glyph) :
    ∃ line more, wrap limit (g :: gs) = (g :: line) :: more := by
  have hlimit : 0 < limit := Nat.lt_of_lt_of_le hpos hfits
  have hall : Wrapping.Leads g (gs.foldl (Wrapping.take limit) (Wrapping.take limit {} g)) :=
    List.foldlRecOn gs _ (Wrapping.leads_take hgap hpos hfits) fun _ hs x _ => hs.take hlimit x
  exact hall.finish

end WastePass.Display
