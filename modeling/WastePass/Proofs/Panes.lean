import WastePass.Proofs.PlainText
import WastePass.Proofs.Screens
import WastePass.Proofs.WrappedLines

/-!
# Panes — which styles they show, and where they stand

    Styles come from few places: a box has one, a glyph can lay its own onto it, and what a
    wide glyph covers in a row of a list has none.  So what holds of these holds of all cells
    of a box (`Pane.Shows`).  Where there is room for everything, each cell of the terminal is
    one of the header, of the screen's own part, of the status line or of the margin
    (`draw_cell`).
-/

namespace WastePass.Display

open WastePass.Text (lines Plain)

/-! ## Styles of cells -/

theorem Glyph.style_ofText {style : Style} {cs : List Char} {g : Glyph}
    (h : g ∈ Glyph.ofText style cs) : g.style = style := by
  obtain ⟨cluster, -, rfl⟩ := List.mem_map.mp h
  rfl

namespace Cell

/-- A cell of running text has the style of the ground, or that of a glyph laid onto it. -/
theorem style_flow {base : Style} {gs : List Glyph} {c : Cell} (h : c ∈ flow base gs) :
    c.style = base ∨ ∃ g ∈ gs, c.style = g.style.onto base := by
  obtain ⟨g, hg, hc⟩ := List.mem_flatMap.mp h
  cases hwidth : g.width with
  | zero =>
      rw [hwidth] at hc
      exact nomatch hc
  | succ n =>
      rw [hwidth] at hc
      rcases List.mem_cons.mp hc with rfl | hcovered
      · exact .inr ⟨g, hg, rfl⟩
      · rw [List.eq_of_mem_replicate hcovered]
        exact .inl rfl

/-- The cells of a row of a list have the style of the row, or none; the first has that of the
    row. -/
structure Listed (base : Style) (cells : List Cell) : Prop where
  first : ∀ c ∈ cells.head?, c.style = base
  all : ∀ c ∈ cells, c.style = base ∨ c.style = {}

variable {base : Style} {g : Glyph} {cells : List Cell}

theorem listed_nil (base : Style) : Listed base [] :=
  ⟨nofun, nofun⟩

theorem Listed.append {others : List Cell} (h : Listed base cells) (hothers : Listed base others) :
    Listed base (cells ++ others) := by
  refine ⟨?_, List.forall_mem_append.mpr ⟨h.all, hothers.all⟩⟩
  cases cells with
  | nil => exact hothers.first
  | cons c cells => exact h.first

/-- The columns that a wide glyph covers stand behind another cell. -/
theorem Listed.covering (h : Listed base cells) (hne : cells ≠ []) (g : Glyph) :
    Listed base (cells ++ covered g) := by
  refine ⟨?_, List.forall_mem_append.mpr ⟨h.all, fun c hc => ?_⟩⟩
  · cases cells with
    | nil => exact absurd rfl hne
    | cons c cells => exact h.first
  · rw [List.eq_of_mem_replicate hc]
    exact .inr rfl

theorem listed_singleton {c : Cell} (h : c.style = base) : Listed base [c] :=
  ⟨fun _ hd => Option.some.inj hd ▸ h, List.forall_mem_singleton.mpr (.inl h)⟩

theorem listed_own (hg : g.style = {}) : Listed base (ofGlyph base g :: covered g) := by
  refine (listed_singleton ?_).covering (List.cons_ne_nil _ []) g
  rw [ofGlyph, hg, Style.empty_onto]

/-- Only the styles of the cells decide. -/
theorem Listed.of_styles {others : List Cell} (h : Listed base cells)
    (hstyles : others.map Cell.style = cells.map Cell.style) : Listed base others := by
  refine ⟨fun c hc => ?_, fun c hc => ?_⟩
  · have hmem : c.style ∈ (cells.map Cell.style).head? := by
      rw [← hstyles, List.head?_map]
      exact Option.mem_map_of_mem _ hc
    rw [List.head?_map] at hmem
    obtain ⟨d, hd, hsame⟩ := Option.map_eq_some_iff.mp hmem
    rw [← hsame]
    exact h.first d hd
  · have hmem : c.style ∈ cells.map Cell.style := hstyles ▸ List.mem_map_of_mem hc
    obtain ⟨d, hd, hsame⟩ := List.mem_map.mp hmem
    rw [← hsame]
    exact h.all d hd

/-- A glyph that joins a cell leaves all styles as they are. -/
theorem styles_joinFirst (hg : g.style = {}) (cells : List Cell) :
    (joinFirst g cells).map Cell.style = cells.map Cell.style := by
  cases cells with
  | nil => rfl
  | cons c cells =>
      rw [joinFirst, List.map_cons, List.map_cons, join, hg, Style.empty_onto]

theorem styles_joinLast (hg : g.style = {}) (cells : List Cell) :
    (joinLast g cells).map Cell.style = cells.map Cell.style := by
  rw [joinLast, List.map_reverse, styles_joinFirst hg, List.map_reverse, List.reverse_reverse]

theorem listed_placeFrom {limit : Nat} {gs : List Glyph} (hgs : ∀ g ∈ gs, g.style = {}) :
    ∀ (cells : List Cell) (taken : Nat), Listed base cells →
      Listed base (placeFrom limit base cells taken gs) := by
  -- For any cells in front: each way to add a glyph to them keeps their styles.
  induction gs with
  | nil => exact fun cells taken h => h
  | cons g gs ih =>
      intro cells taken h
      obtain ⟨hg, hrest⟩ := List.forall_mem_cons.mp hgs
      unfold placeFrom
      split
      · exact h
      · refine ih hrest _ _ ?_
        split
        · exact listed_own hg
        · next hcells =>
          split
          · refine (h.of_styles (styles_joinFirst hg cells)).covering ?_ g
            intro hnone
            have hstyles := styles_joinFirst hg cells
            rw [hnone] at hstyles
            rw [List.map_eq_nil_iff.mp hstyles.symm] at hcells
            exact hcells rfl
          · split
            · exact h.of_styles (styles_joinLast hg cells)
            · exact h.append (listed_own hg)

/-- A text in a row of a list has the style of the row, apart from columns that wide glyphs
    cover. -/
theorem listed_place (limit : Nat) (base : Style) (cs : List Char) :
    Listed base (place limit base (Glyph.ofText {} cs)) := by
  unfold place
  split
  · exact listed_nil base
  · exact listed_placeFrom (fun g hg => Glyph.style_ofText hg) [] 0 (listed_nil base)

/-- A row that is filled up with the ground. -/
theorem Listed.filled (h : Listed base cells) (n : Nat) :
    Listed base (cells ++ List.replicate n (ground base)) := by
  have hground : ∀ c ∈ List.replicate n (ground base), c.style = base := by
    intro c hc
    rw [List.eq_of_mem_replicate hc]
    rfl
  refine h.append ⟨fun c hc => hground c (List.mem_of_mem_head? hc), fun c hc => ?_⟩
  exact .inl (hground c hc)

theorem Listed.take (h : Listed base cells) (n : Nat) : Listed base (cells.take n) := by
  refine ⟨?_, fun c hc => h.all c (List.mem_of_mem_take hc)⟩
  cases n with
  | zero => exact nofun
  | succ n =>
      cases cells with
      | nil => exact nofun
      | cons c cells => exact h.first

theorem Listed.forall {P : Style → Prop} (h : Listed base cells) (hbase : P base)
    (hempty : P {}) : ∀ c ∈ cells, P c.style := by
  intro c hc
  rcases h.all c hc with hstyle | hstyle
  · rwa [hstyle]
  · rwa [hstyle]

end Cell

/-! ## Styles of panes -/

namespace Pane

variable {P : Style → Prop}

/-- All cells have styles of a kind. -/
def Shows (P : Style → Prop) (p : Pane) : Prop :=
  ∀ r c, P (p.cell r c).style

theorem Shows.above {upper lower : Pane} (h : upper.Shows P) (hlower : lower.Shows P) :
    (upper.above lower).Shows P := by
  intro r c
  unfold Pane.above
  dsimp only
  split
  · exact h r c
  · exact hlower _ c

theorem Shows.beside {left right : Pane} (h : left.Shows P) (hright : right.Shows P) :
    (left.beside right).Shows P := by
  intro r c
  unfold Pane.beside
  dsimp only
  split
  · exact h r c
  · exact hright r _

theorem shows_ofRows {base : Style} (hbase : P base) {rows : List (List Cell)}
    (hrows : ∀ row ∈ rows, ∀ cell ∈ row, P cell.style) (width height : Nat) :
    (ofRows width height base rows).Shows P := by
  intro r c
  unfold ofRows
  dsimp only
  cases hcell : ((rows[r]?).getD [])[c]? with
  | none => exact hbase
  | some cell =>
      cases hrow : rows[r]? with
      | none =>
          rw [hrow] at hcell
          exact nomatch hcell
      | some row =>
          rw [hrow] at hcell
          exact hrows row (List.mem_of_getElem? hrow) cell (List.mem_of_getElem? hcell)

variable {style : Style} {width height : Nat} {title : String}

/-- A frame has one style, but for its title. -/
theorem framed_border (hstyle : P style)
    (htitle : ∀ cell ∈ Cell.place (width - 2) style (Glyph.ofText {} title.toList), P cell.style)
    {r c : Nat} (h : r = 0 ∨ r + 1 = height ∨ c = 0 ∨ c + 1 = width) (inside : Pane) :
    P ((framed width height style title inside).cell r c).style := by
  unfold framed
  dsimp only
  by_cases htop : r = 0
  · rw [if_pos htop, topCell]
    split
    · split
      · next cell hcell => exact htitle cell (List.mem_of_getElem? hcell)
      · exact hstyle
    · exact hstyle
  · rw [if_neg htop]
    by_cases hbottom : r + 1 = height
    · rw [if_pos hbottom]
      exact hstyle
    · rw [if_neg hbottom, if_pos (by omega)]
      exact hstyle

/-- Inside a frame is what is framed. -/
theorem framed_cell {r c : Nat} (h : ¬ (r = 0 ∨ r + 1 = height ∨ c = 0 ∨ c + 1 = width))
    (inside : Pane) :
    (framed width height style title inside).cell r c = inside.cell (r - 1) (c - 1) := by
  unfold framed
  dsimp only
  rw [if_neg (by omega), if_neg (by omega), if_neg (by omega)]

theorem shows_framed (hstyle : P style)
    (htitle : ∀ cell ∈ Cell.place (width - 2) style (Glyph.ofText {} title.toList), P cell.style)
    {inside : Pane} (hinside : inside.Shows P) :
    (framed width height style title inside).Shows P := by
  intro r c
  by_cases h : r = 0 ∨ r + 1 = height ∨ c = 0 ∨ c + 1 = width
  · exact framed_border hstyle htitle h inside
  · rw [framed_cell h]
    exact hinside _ _

end Pane

/-- A title has the style of its frame, apart from columns that wide glyphs cover. -/
theorem shows_title {P : Style → Prop} {style : Style} (hstyle : P style) (hempty : P {})
    (width : Nat) (title : String) :
    ∀ cell ∈ Cell.place width style (Glyph.ofText {} title.toList), P cell.style :=
  (Cell.listed_place width style title.toList).forall hstyle hempty

/-- A plain title has the style of its frame. -/
theorem shows_plainTitle {P : Style → Prop} {style : Style} (hstyle : P style) {title : String}
    (hplain : ∀ c ∈ title.toList, Plain c) (width : Nat) :
    ∀ cell ∈ Cell.place width style (Glyph.ofText {} title.toList), P cell.style := by
  intro cell hcell
  rw [Cell.place_plain width style hplain] at hcell
  obtain ⟨c, -, rfl⟩ := List.mem_map.mp hcell
  exact hstyle

section

variable {P : Style → Prop}

theorem textBox_shows {style : Style} (hstyle : P style) (hempty : P {}) (width height : Nat)
    (title text : String) : (textBox width height style title text).Shows P := by
  refine Pane.shows_framed hstyle (shows_title hstyle hempty _ title)
    (Pane.shows_ofRows hstyle ?_ _ _)
  intro row hrow cell hcell
  obtain ⟨line, -, rfl⟩ := List.mem_map.mp hrow
  rcases Cell.style_flow hcell with hbase | ⟨g, hg, hglyph⟩
  · rwa [hbase]
  · rw [hglyph, Glyph.style_ofText (cutFrom_subset _ _ _ hg), Style.empty_onto]
    exact hstyle

theorem inputBox_shows (hactive : P .active) (hempty : P {}) (width height : Nat)
    (title value : String) (focused : Bool) :
    (inputBox width height title value focused).Shows P := by
  unfold inputBox
  split
  · exact textBox_shows hactive hempty _ _ _ _
  · exact textBox_shows hempty hempty _ _ _ _

/-- Where all glyphs are of a kind on the ground of a box, so are its cells, but for its
    title. -/
theorem wrappedBox_shows {style : Style} (hstyle : P style) {width : Nat} {title : String}
    (htitle : ∀ cell ∈ Cell.place (width - 2) style (Glyph.ofText {} title.toList), P cell.style)
    {content : List (List Glyph)} (hcontent : ∀ line ∈ content, ∀ g ∈ line, P (g.style.onto style))
    (height : Nat) : (wrappedBox width height style title content).Shows P := by
  refine Pane.shows_framed hstyle htitle (Pane.shows_ofRows hstyle ?_ _ _)
  intro row hrow cell hcell
  obtain ⟨line, hline, rfl⟩ := List.mem_map.mp hrow
  obtain ⟨text, htext, hwrapped⟩ := List.mem_flatMap.mp hline
  rcases Cell.style_flow hcell with hbase | ⟨g, hg, hglyph⟩
  · rwa [hbase]
  · rw [hglyph]
    exact wrap_forall _ (hcontent text htext) line hwrapped g hg

theorem itemsThatFit_subset (height : Nat) (items : List Item) :
    itemsThatFit height items ⊆ items := by
  induction items generalizing height with
  | nil => exact List.nil_subset _
  | cons item items ih =>
      unfold itemsThatFit
      split
      · exact List.cons_subset_cons item (ih _)
      · exact List.nil_subset _

theorem listed_itemRow (width : Nat) (style : Style) (line : List Char) :
    Cell.Listed style (itemRow width style line) :=
  (Cell.listed_place width style line).filled _

theorem listBox_shows (hempty : P {}) {items : List Item} (hitems : ∀ item ∈ items, P item.style)
    (width height : Nat) (title : String) : (listBox width height title items).Shows P := by
  refine Pane.shows_framed hempty (shows_title hempty hempty _ title)
    (Pane.shows_ofRows hempty ?_ _ _)
  intro row hrow
  obtain ⟨item, hitem, hline⟩ := List.mem_flatMap.mp hrow
  obtain ⟨line, -, rfl⟩ := List.mem_map.mp hline
  exact (listed_itemRow _ _ line).forall (hitems item (itemsThatFit_subset _ _ hitem)) hempty

/-- The glyphs of a text without its line ends. -/
theorem style_oneLine {style : Style} {text : String} {g : Glyph} (h : g ∈ oneLine style text) :
    g.style = style := by
  obtain ⟨line, -, hg⟩ := List.mem_flatMap.mp h
  exact Glyph.style_ofText hg

/-- The status line has one style. -/
theorem statusPane_shows (width height : Nat) (screen : Screen) (error : Option LookupError)
    (h : P (if error.isSome then .ofColour .red else {})) :
    (statusPane width height screen error).Shows P := by
  have hplain : ∀ c ∈ "Status".toList, Plain c := by decide
  have hbox : ∀ (style : Style) (text : String), P style →
      (wrappedBox width height style "Status" [oneLine {} text]).Shows P := by
    intro style text hstyle
    refine wrappedBox_shows hstyle (shows_plainTitle hstyle hplain _) ?_ height
    intro line hline g hg
    rw [List.mem_singleton.mp hline] at hg
    rw [style_oneLine hg, Style.empty_onto]
    exact hstyle
  cases error with
  | none => exact hbox {} _ h
  | some e => exact hbox (.ofColour .red) _ h

theorem fieldsPane_shows (hactive : P .active) (hempty : P {}) (width height : Nat)
    (view : LookupView) : (fieldsPane width height view).Shows P :=
  (inputBox_shows hactive hempty _ _ _ _ _).beside (inputBox_shows hactive hempty _ _ _ _ _)

end

/-! ## Widths -/

theorem inputBox_width (width height : Nat) (title value : String) (focused : Bool) :
    (inputBox width height title value focused).width = width := by
  unfold inputBox
  split <;> rfl

theorem lookupPane_width (width height : Nat) (view : LookupView) :
    (lookupPane width height view).width = width := by
  have hfields : ∀ rows, (fieldsPane width rows view).width = width := by
    intro rows
    show (inputBox _ _ _ _ _).width + (inputBox _ _ _ _ _).width = width
    rw [inputBox_width, inputBox_width]
    omega
  show max (fieldsPane width (lookupHeights height).1 view).width (max width width) = width
  rw [hfields, max_self, max_self]

theorem contentPane_width (width height : Nat) (s : Session) :
    (contentPane width height s).width = width := by
  unfold contentPane
  cases s.screen with
  | lookup => exact lookupPane_width width height _
  | districts => rfl

theorem statusPane_width (width height : Nat) (screen : Screen) (error : Option LookupError) :
    (statusPane width height screen error).width = width := by
  cases error <;> rfl

theorem sessionPane_width (width height : Nat) (s : Session) :
    (sessionPane width height s).width = width := by
  show max width (max (contentPane width (height - 6) s).width (statusPane _ _ _ _).width) = width
  rw [contentPane_width, statusPane_width, max_self, max_self]

/-! ## Where the parts stand -/

section

variable {width height : Nat}

/-- A terminal is filled. -/
theorem draw_size (hwidth : 2 ≤ width) (hheight : 2 ≤ height) (s : Session) :
    (draw width height s).width = width ∧ (draw width height s).height = height := by
  have hroom : ¬ (width < 2 ∨ height < 2) := by omega
  rw [draw, if_neg hroom]
  show (sessionPane _ _ s).width + 2 = width ∧ (sessionPane _ _ s).height + 2 = height
  rw [sessionPane_width, sessionPane_height]
  omega

/-- The header, with the room it needs. -/
def headerPane (width : Nat) : Pane := textBox width 3 {} "Afvalpas" headerText

/-- Where there is room for the header and the status line, the screen's own part stands
    between them, inside the margin. -/
theorem draw_cell (hwidth : 2 ≤ width) (hheight : 8 ≤ height) (s : Session) (r c : Nat) :
    (draw width height s).cell r c =
      if 1 ≤ r ∧ r + 1 < height ∧ 1 ≤ c ∧ c + 1 < width then
        if r < 4 then (headerPane (width - 2)).cell (r - 1) (c - 1)
        else if r < height - 4 then (contentPane (width - 2) (height - 8) s).cell (r - 4) (c - 1)
        else (statusPane (width - 2) 3 s.screen (lastError s.history)).cell
          (r - (height - 4)) (c - 1)
      else Cell.blank := by
  have hroom : ¬ (width < 2 ∨ height < 2) := by omega
  rw [draw, if_neg hroom]
  unfold Pane.withMargin
  dsimp only
  rw [sessionPane_width, sessionPane_height]
  by_cases hinside : 1 ≤ r ∧ r + 1 < height ∧ 1 ≤ c ∧ c + 1 < width
  · have hmargin : 1 ≤ r ∧ r ≤ height - 2 ∧ 1 ≤ c ∧ c ≤ width - 2 := by omega
    have hheader : min 3 (height - 2) = 3 := by omega
    have hstatus : min 3 (height - 2 - 3) = 3 := by omega
    have hcontent : height - 2 - 6 = height - 8 := by omega
    rw [if_pos hinside, if_pos hmargin]
    unfold sessionPane
    dsimp only
    rw [hheader, hstatus, hcontent]
    -- The parts stand one above the other: three rows, those that are left, and three.
    show (if r - 1 < 3 then (headerPane (width - 2)).cell (r - 1) (c - 1)
      else if r - 1 - 3 < (contentPane (width - 2) (height - 8) s).height then
        (contentPane (width - 2) (height - 8) s).cell (r - 1 - 3) (c - 1)
      else (statusPane (width - 2) 3 s.screen (lastError s.history)).cell
        (r - 1 - 3 - (contentPane (width - 2) (height - 8) s).height) (c - 1)) = _
    rw [contentPane_height]
    by_cases hfirst : r < 4
    · have hupper : r - 1 < 3 := by omega
      rw [if_pos hfirst, if_pos hupper]
    · have hlower : ¬ r - 1 < 3 := by omega
      have hbelow : r - 1 - 3 = r - 4 := by omega
      rw [if_neg hfirst, if_neg hlower, hbelow]
      by_cases hmiddle : r < height - 4
      · have hbetween : r - 4 < height - 8 := by omega
        rw [if_pos hmiddle, if_pos hbetween]
      · have hbehind : ¬ r - 4 < height - 8 := by omega
        have hlast : r - 4 - (height - 8) = r - (height - 4) := by omega
        rw [if_neg hmiddle, if_neg hbehind, hlast]
  · have hmargin : ¬ (1 ≤ r ∧ r ≤ height - 2 ∧ 1 ≤ c ∧ c ≤ width - 2) := by omega
    rw [if_neg hinside, if_neg hmargin]

/-- A cell of the screen's own part. -/
theorem draw_content_cell (hheight : 8 ≤ height) {r c : Nat} (hr : r < height - 8)
    (hc : c < width - 2) (s : Session) :
    (draw width height s).cell (r + 4) (c + 1)
      = (contentPane (width - 2) (height - 8) s).cell r c := by
  rw [draw_cell (by omega) hheight, if_pos (by omega), if_neg (by omega), if_pos (by omega)]
  rfl

/-- A cell of the status line. -/
theorem draw_status_cell (hheight : 8 ≤ height) {r c : Nat} (hr : height - 4 ≤ r ∧ r < height - 1)
    (hc : 1 ≤ c ∧ c < width - 1) (s : Session) :
    (draw width height s).cell r c
      = (statusPane (width - 2) 3 s.screen (lastError s.history)).cell
          (r - (height - 4)) (c - 1) := by
  rw [draw_cell (by omega) hheight, if_pos (by omega), if_neg (by omega), if_neg (by omega)]

/-- What all parts show is shown by the terminal, if it can be said of the margin. -/
theorem draw_shows {P : Style → Prop} (hwidth : 2 ≤ width) (hheight : 8 ≤ height) {s : Session}
    (hempty : P {}) (hcontent : (contentPane (width - 2) (height - 8) s).Shows P)
    (hstatus : P (if (lastError s.history).isSome then .ofColour .red else {})) :
    (draw width height s).Shows P := by
  intro r c
  rw [draw_cell hwidth hheight]
  split
  · split
    · exact textBox_shows hempty hempty _ _ _ _ _ _
    · split
      · exact hcontent _ _
      · exact statusPane_shows _ _ _ _ hstatus _ _
  · exact hempty

/-- With room for both, the fields take three rows of the lookup screen and the result five. -/
theorem lookupPane_cell (hheight : 8 ≤ height) (view : LookupView) (r c : Nat) :
    (lookupPane width height view).cell r c =
      if r < 3 then (fieldsPane width 3 view).cell r c
      else if r < 8 then
        (wrappedBox width 5 {} "Result" (resultLines view.history.head?)).cell (r - 3) c
      else (listBox width (height - 8) ("History (last " ++ toString view.historyLimit ++ ")")
        (historyItems view.history)).cell (r - 8) c := by
  have hheights : lookupHeights height = (3, 5) := if_pos hheight
  have hfields : (fieldsPane width 3 view).height = 3 := by
    show max (inputBox _ _ _ _ _).height (inputBox _ _ _ _ _).height = 3
    rw [inputBox_height, inputBox_height, max_self]
  have hhistory : height - 3 - 5 = height - 8 := by omega
  unfold lookupPane
  rw [hheights]
  dsimp only
  rw [hhistory]
  show (if r < (fieldsPane width 3 view).height then (fieldsPane width 3 view).cell r c
    else if r - (fieldsPane width 3 view).height < 5 then _ else _) = _
  rw [hfields]
  by_cases hupper : r < 3
  · rw [if_pos hupper, if_pos hupper]
  · rw [if_neg hupper, if_neg hupper]
    by_cases hmiddle : r < 8
    · have hbetween : r - 3 < 5 := by omega
      rw [if_pos hmiddle, if_pos hbetween]
    · have hbelow : ¬ r - 3 < 5 := by omega
      have hrow : r - 3 - 5 = r - 8 := by omega
      rw [if_neg hmiddle, if_neg hbelow]
      show (listBox _ _ _ _).cell (r - 3 - 5) c = _
      rw [hrow]

end

end WastePass.Display
