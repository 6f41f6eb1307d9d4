import WastePass.Proofs.Panes
import WastePass.Proofs.Selection

/-!
# The selected row — always on the screen, and yellow from end to end

    The overview is scrolled from its first row each time it is drawn, just as far as it takes
    to show the row that is selected.  That row is the only yellow one, whatever the rows hold:
    the style of a row is laid down first and the highlight over it, wide characters and all.
    The columns give way to each other from the right, so where there is room for the names
    they are shown in full.
-/

namespace WastePass.Display

open WastePass.Text (lines Plain)

/-! ## Stretches of a style -/

theorem styleRuns_of_empty {cells : List Cell}
    (h : ∀ (i : Nat) (c : Cell), cells[i]? = some c → c.style = {}) (first : Nat) :
    styleRuns first cells = [] := by
  induction cells generalizing first with
  | nil => rfl
  | cons c cells ih =>
      rw [styleRuns, if_pos (h 0 c rfl)]
      exact ih (fun i c hc => h (i + 1) c hc) (first + 1)

/-- Cells with a style from one column to another, and none elsewhere, have one stretch. -/
theorem styleRuns_of_stretch {style : Style} (hstyle : style ≠ {}) {cells : List Cell}
    {start stop : Nat} (hstart : start < stop) (hstop : stop ≤ cells.length)
    (h : ∀ (i : Nat) (c : Cell), cells[i]? = some c →
      c.style = if start ≤ i ∧ i < stop then style else {}) (first : Nat) :
    styleRuns first cells = [(first + start, first + stop, style)] := by
  -- From the front: the first cell stands before the stretch, begins it, or is all of it.
  induction cells generalizing start stop first with
  | nil =>
      rw [List.length_nil] at hstop
      omega
  | cons c cells ih =>
      rw [List.length_cons] at hstop
      have hfirst := h 0 c rfl
      obtain ⟨n, rfl⟩ : ∃ n, stop = n + 1 := ⟨stop - 1, by omega⟩
      cases start with
      | succ m =>
          have hrest : styleRuns (first + 1) cells = [(first + 1 + m, first + 1 + n, style)] :=
            ih (by omega) (by omega)
              (fun i c hc => (h (i + 1) c hc).trans (if_congr (by omega) rfl rfl)) (first + 1)
          rw [if_neg (by omega)] at hfirst
          rw [styleRuns, if_pos hfirst, hrest]
          simp only [Nat.add_assoc, Nat.add_comm 1]
      | zero =>
          rw [if_pos (by omega)] at hfirst
          cases n with
          | zero =>
              have hrest : styleRuns (first + 1) cells = [] :=
                styleRuns_of_empty
                  (fun i c hc => (h (i + 1) c hc).trans (if_neg (by omega))) (first + 1)
              rw [styleRuns, hrest, hfirst, if_neg hstyle]
              rfl
          | succ n =>
              have hrest : styleRuns (first + 1) cells
                  = [(first + 1 + 0, first + 1 + (n + 1), style)] :=
                ih (by omega) (by omega)
                  (fun i c hc => (h (i + 1) c hc).trans (if_congr (by omega) rfl rfl)) (first + 1)
              rw [styleRuns, hrest, hfirst, if_neg hstyle]
              dsimp only
              rw [if_pos ⟨rfl, rfl⟩, Nat.add_assoc, Nat.add_comm 1]
              rfl

/-- A stretch has the style of its cells. -/
theorem exists_of_mem_styleRuns {cells : List Cell} {first : Nat} {run : Nat × Nat × Style}
    (h : run ∈ styleRuns first cells) : ∃ c ∈ cells, c.style = run.2.2 := by
  induction cells generalizing first run with
  | nil => exact nomatch h
  | cons c cells ih =>
      have hrest : ∀ run ∈ styleRuns (first + 1) cells, ∃ d ∈ c :: cells, d.style = run.2.2 := by
        intro run hrun
        obtain ⟨d, hd, hstyle⟩ := ih hrun
        exact ⟨d, List.mem_cons_of_mem c hd, hstyle⟩
      rw [styleRuns] at h
      split at h
      · exact hrest run h
      · split at h
        · next start stop style rest hothers =>
          rw [hothers] at hrest
          obtain ⟨hhead, htail⟩ := List.forall_mem_cons.mp hrest
          split at h
          · rcases List.mem_cons.mp h with rfl | hmem
            · exact hhead
            · exact htail run hmem
          · rcases List.mem_cons.mp h with rfl | hmem
            · exact ⟨c, List.mem_cons_self, rfl⟩
            · rw [hothers] at hmem
              exact hrest run hmem
        · rw [List.mem_singleton] at h
          rw [h]
          exact ⟨c, List.mem_cons_self, rfl⟩

namespace Pane

/-- The stretches of a style: the row of each, its first column and the one behind its last. -/
def stretches (p : Pane) (style : Style) : List (Nat × Nat × Nat) :=
  (List.range p.height).flatMap fun r =>
    ((styleRuns 0 (p.row r)).filter fun run => run.2.2 = style).map fun run => (r, run.1, run.2.1)

end Pane

theorem flatMap_range_of_single {α : Type} {n k : Nat} (hk : k < n) {f : Nat → List α}
    (h : ∀ i < n, i ≠ k → f i = []) : (List.range n).flatMap f = f k := by
  induction n with
  | zero => exact absurd hk (Nat.not_lt_zero k)
  | succ n ih =>
      rw [List.range_succ, List.flatMap_append, List.flatMap_singleton]
      rcases Nat.lt_succ_iff_lt_or_eq.mp hk with hlt | rfl
      · rw [ih hlt fun i hi hne => h i (by omega) hne, h n (by omega) (by omega), List.append_nil]
      · have hbefore : (List.range k).flatMap f = [] := by
          rw [List.flatMap_eq_nil_iff]
          intro i hi
          have hik := List.mem_range.mp hi
          exact h i (by omega) (by omega)
        rw [hbefore, List.nil_append]

/-- A style that is shown in one row only, from one column to another, has one stretch. -/
theorem Pane.stretches_eq {p : Pane} {style : Style} (hstyle : style ≠ {}) {r₀ start stop : Nat}
    (hr₀ : r₀ < p.height) (hstart : start < stop) (hstop : stop ≤ p.width)
    (hrow : ∀ c < p.width, (p.cell r₀ c).style = if start ≤ c ∧ c < stop then style else {})
    (hothers : ∀ r c, r ≠ r₀ → (p.cell r c).style ≠ style) :
    p.stretches style = [(r₀, start, stop)] := by
  have hcells : ∀ r i cell, (p.row r)[i]? = some cell → i < p.width ∧ cell = p.cell r i := by
    intro r i cell hcell
    rw [row, List.getElem?_map, Option.map_eq_some_iff] at hcell
    obtain ⟨j, hj, rfl⟩ := hcell
    obtain ⟨hlt, rfl⟩ := List.getElem?_eq_some_iff.mp hj
    rw [List.getElem_range]
    exact ⟨by rwa [List.length_range] at hlt, rfl⟩
  have hruns : styleRuns 0 (p.row r₀) = [(0 + start, 0 + stop, style)] := by
    refine styleRuns_of_stretch hstyle hstart ?_ ?_ 0
    · rw [row, List.length_map, List.length_range]
      exact hstop
    · intro i cell hcell
      obtain ⟨hi, rfl⟩ := hcells r₀ i cell hcell
      exact hrow i hi
  unfold stretches
  rw [flatMap_range_of_single hr₀]
  · rw [hruns, Nat.zero_add, Nat.zero_add]
    simp only [List.filter_cons, decide_true, if_true, List.filter_nil, List.map_cons, List.map_nil]
  · intro r _ hne
    rw [List.map_eq_nil_iff, List.filter_eq_nil_iff]
    intro run hrun hsame
    obtain ⟨cell, hcell, hcellStyle⟩ := exists_of_mem_styleRuns hrun
    obtain ⟨i, hi⟩ := List.mem_iff_getElem?.mp hcell
    obtain ⟨-, rfl⟩ := hcells r i cell hi
    exact hothers r i hne (hcellStyle.trans (of_decide_eq_true hsame))

/-! ## Rows of the table -/

theorem length_tableRow (width : Nat) (style : Style) (name ranges passNumber : String) :
    (tableRow width style name ranges passNumber).length = width := by
  rw [tableRow, List.length_take, List.length_append, List.length_replicate]
  omega

theorem listed_column (width : Nat) (style : Style) (text : String) :
    Cell.Listed style (column width style text) :=
  (Cell.listed_place width style _).filled _

theorem listed_tableRow (width : Nat) (style : Style) (name ranges passNumber : String) :
    Cell.Listed style (tableRow width style name ranges passNumber) := by
  have hgap : Cell.Listed style [Cell.ground style] := Cell.listed_singleton rfl
  have hcolumns := ((((listed_column (columnsOf width).name style name).append hgap).append
    (listed_column (columnsOf width).ranges style ranges)).append hgap).append
    (listed_column (columnsOf width).passNumber style passNumber)
  exact (hcolumns.filled _).take width

/-- The colours that no cell has but those of the selected row. -/
def Style.NotYellow (style : Style) : Prop := style.colour ≠ some .yellow

instance : DecidablePred Style.NotYellow :=
  fun style => inferInstanceAs (Decidable (style.colour ≠ some .yellow))

theorem districtRow_not_yellow (width : Nat) (row : OverviewRow) :
    ∀ c ∈ districtRow width row, c.style.NotYellow := by
  refine (listed_tableRow width _ _ _ _).forall ?_ (by decide)
  rw [rowStyle]
  split <;> decide

theorem heading_not_yellow (width : Nat) : ∀ c ∈ heading width, c.style.NotYellow :=
  (listed_tableRow width _ _ _ _).forall (by decide) (by decide)

/-- The highlight has its own way with the style of a cell. -/
theorem style_highlighted (c : Cell) : (Cell.styled .active c).style = .active := rfl

/-- A row that is shown, highlighted if it is the one that is selected. -/
theorem shownRows_getElem? {view : DistrictView} (h : view.selected < view.overview.length)
    (width : Nat) {height k : Nat} (hk : k < height) :
    (shownRows width height view)[k]?
      = (view.overview[firstShown height view.selected + k]?).map fun row =>
          if firstShown height view.selected + k = view.selected
          then (districtRow width row).map (Cell.styled .active) else districtRow width row := by
  have hselected : min view.selected (view.overview.length - 1) = view.selected := by omega
  rw [shownRows]
  dsimp only
  rw [hselected, List.getElem?_take, if_pos hk, List.getElem?_drop, List.getElem?_map,
    List.getElem?_zipIdx, Option.map_map, Nat.zero_add]
  rfl

/-! ## The district screen -/

section

variable {width height : Nat} {view : DistrictView}

/-- Where the selected row is shown, in a table with room for some rows. -/
def shownAt (height selected : Nat) : Nat := min selected (height - 1)

theorem firstShown_add_shownAt {height : Nat} (h : 0 < height) (selected : Nat) :
    firstShown height selected + shownAt height selected = selected := by
  unfold firstShown shownAt
  omega

/-- A cell below the heading, inside the frame. -/
theorem districtPane_cell {k c : Nat} (hk : k + 3 < height) (hc : c + 2 < width) :
    (districtPane width height view).cell (k + 2) (c + 1)
      = ((((shownRows (width - 2) (height - 3) view)[k]?).getD [])[c]?).getD (.ground {}) := by
  unfold districtPane
  dsimp only
  rw [Pane.framed_cell (by omega)]
  rfl

/-- The cells of the selected row are those of its district, highlighted. -/
theorem districtPane_selected (hheight : 4 ≤ height) {row : OverviewRow}
    (hrow : view.overview[view.selected]? = some row) {c : Nat} (hc : c + 2 < width) :
    ∃ cell, (districtRow (width - 2) row)[c]? = some cell ∧
      (districtPane width height view).cell (shownAt (height - 3) view.selected + 2) (c + 1)
        = Cell.styled .active cell := by
  obtain ⟨hselected, -⟩ := List.getElem?_eq_some_iff.mp hrow
  have hlength : c < (districtRow (width - 2) row).length := by
    rw [districtRow, length_tableRow]
    omega
  have hk : shownAt (height - 3) view.selected < height - 3 := by
    unfold shownAt
    omega
  have hplace := firstShown_add_shownAt (show 0 < height - 3 by omega) view.selected
  refine ⟨_, List.getElem?_eq_getElem hlength, ?_⟩
  rw [districtPane_cell (by omega) hc, shownRows_getElem? hselected _ hk, hplace, hrow,
    Option.map_some, if_pos rfl, Option.getD_some, List.getElem?_map,
    List.getElem?_eq_getElem hlength]
  rfl

/-- Nothing else of the screen is yellow. -/
theorem districtPane_not_yellow (hheight : 4 ≤ height)
    (hselected : view.selected < view.overview.length) {r c : Nat} (hr : r < height)
    (h : ¬ (r = shownAt (height - 3) view.selected + 2 ∧ 1 ≤ c ∧ c + 1 < width)) (hc : c < width) :
    ((districtPane width height view).cell r c).style.NotYellow := by
  have hempty : Style.NotYellow {} := by decide
  by_cases hborder : r = 0 ∨ r + 1 = height ∨ c = 0 ∨ c + 1 = width
  · exact Pane.framed_border hempty (shows_title hempty hempty _ _) hborder _
  · obtain ⟨c, rfl⟩ : ∃ d, c = d + 1 := ⟨c - 1, by omega⟩
    rcases Nat.lt_or_ge r 2 with hheading | hbelow
    · -- The row below the upper border is the heading.
      obtain rfl : r = 1 := by omega
      have hrow := heading_not_yellow (width - 2)
      unfold districtPane
      dsimp only
      rw [Pane.framed_cell hborder]
      show ((((heading (width - 2))[c]?).getD (.ground {})).style).NotYellow
      cases hcell : (heading (width - 2))[c]? with
      | none => exact hempty
      | some cell => exact hrow cell (List.mem_of_getElem? hcell)
    · obtain ⟨k, rfl⟩ : ∃ k, r = k + 2 := ⟨r - 2, by omega⟩
      have hother : firstShown (height - 3) view.selected + k ≠ view.selected := by
        have hplace := firstShown_add_shownAt (show 0 < height - 3 by omega) view.selected
        omega
      rw [districtPane_cell (by omega) (by omega), shownRows_getElem? hselected _ (by omega)]
      cases view.overview[firstShown (height - 3) view.selected + k]? with
      | none => exact hempty
      | some row =>
          rw [Option.map_some, if_neg hother, Option.getD_some]
          cases hcell : (districtRow (width - 2) row)[c]? with
          | none => exact hempty
          | some cell =>
              exact districtRow_not_yellow (width - 2) row cell (List.mem_of_getElem? hcell)

end

/-! ## Names -/

theorem District.name_fits (d : District) :
    (∀ c ∈ d.name.toList, Plain c) ∧ d.name.toList.length ≤ 12 ∧
      lines d.name.toList = [d.name.toList] := by
  cases d <;> decide

/-- Where the columns have room, a row begins with the name of its district. -/
theorem districtRow_name {width : Nat} (hwidth : 52 ≤ width) (row : OverviewRow) {k : Nat}
    {c : Char} (hc : row.district.name.toList[k]? = some c) :
    ∃ style, (districtRow width row)[k]? = some ⟨String.ofList [c], style⟩ := by
  obtain ⟨hplain, hlength, hlines⟩ := District.name_fits row.district
  obtain ⟨hk, -⟩ := List.getElem?_eq_some_iff.mp hc
  have hcolumn : (columnsOf width).name = 12 := by
    unfold columnsOf
    dsimp only
    omega
  have hplace : Cell.place 12 (rowStyle row)
      (Glyph.ofText {} ((lines row.district.name.toList).headD []))
      = row.district.name.toList.map fun c => ⟨String.ofList [c], rowStyle row⟩ := by
    rw [hlines, List.headD_cons, Cell.place_plain 12 _ hplain, List.take_of_length_le hlength]
  have hcell : (Cell.place 12 (rowStyle row)
      (Glyph.ofText {} ((lines row.district.name.toList).headD [])))[k]?
      = some ⟨String.ofList [c], rowStyle row⟩ := by
    rw [hplace, List.getElem?_map, hc]
    rfl
  obtain ⟨hlt, -⟩ := List.getElem?_eq_some_iff.mp hcell
  refine ⟨rowStyle row, ?_⟩
  rw [districtRow, tableRow, List.getElem?_take, if_pos (by omega)]
  rw [hcolumn, column]
  simp only [List.append_assoc]
  rw [List.getElem?_append_left hlt, hcell]

/-! ## The terminal -/

/-- How the selection is shown on a terminal: by one stretch of the highlight from the left to
    the right of the frame, and by no other yellow. -/
structure ShowsSelection (width height : Nat) (s : Session) : Prop where
  size : (draw width height s).width = width ∧ (draw width height s).height = height
  stretch : (draw width height s).stretches .active
    = [(6 + min s.selected (height - 12), 2, width - 2)]
  yellow : ∀ r c, ((draw width height s).cell r c).style.colour = some .yellow →
    r = 6 + min s.selected (height - 12) ∧ 2 ≤ c ∧ c < width - 2
  name : 56 ≤ width → ∃ row, s.overview[s.selected]? = some row ∧
    ∀ k c, row.district.name.toList[k]? = some c →
      ((draw width height s).cell (6 + min s.selected (height - 12)) (2 + k)).symbol
        = String.ofList [c]

section

variable {width height : Nat} {s : Session}

theorem draw_not_yellow (hwidth : 5 ≤ width) (hheight : 12 ≤ height)
    (hscreen : s.screen = .districts) (hselected : s.selected < s.overview.length) {r c : Nat}
    (h : ¬ (r = 6 + min s.selected (height - 12) ∧ 2 ≤ c ∧ c < width - 2)) :
    ((draw width height s).cell r c).style.NotYellow := by
  have hempty : Style.NotYellow {} := by decide
  have hstatus : Style.NotYellow
      (if (lastError s.history).isSome then .ofColour .red else {}) := by
    split <;> decide
  rw [draw_cell (by omega) (by omega)]
  split
  · split
    · exact textBox_shows hempty hempty _ _ _ _ _ _
    · split
      · rw [contentPane, hscreen]
        refine districtPane_not_yellow (by omega) hselected (by omega) ?_ (by omega)
        show ¬ (r - 4 = shownAt (height - 8 - 3) s.selected + 2 ∧ _)
        unfold shownAt
        omega
      · exact statusPane_shows _ _ _ _ hstatus _ _
  · exact hempty

/-- A cell of the selected row, inside the frame. -/
theorem draw_selected_cell (hheight : 12 ≤ height) (hscreen : s.screen = .districts)
    {row : OverviewRow} (hrow : s.overview[s.selected]? = some row) {k : Nat}
    (hk : k + 4 < width) :
    ∃ cell, (districtRow (width - 4) row)[k]? = some cell ∧
      (draw width height s).cell (6 + min s.selected (height - 12)) (2 + k)
        = Cell.styled .active cell := by
  have hview : (DistrictView.ofSession s).overview[(DistrictView.ofSession s).selected]?
      = some row := hrow
  obtain ⟨cell, hcell, hshown⟩ := districtPane_selected (show 4 ≤ height - 8 by omega) hview
    (show k + 2 < width - 2 by omega)
  refine ⟨cell, hcell, ?_⟩
  have hr : 6 + min s.selected (height - 12) = shownAt (height - 8 - 3) s.selected + 2 + 4 := by
    unfold shownAt
    omega
  have hc : 2 + k = k + 1 + 1 := by omega
  have hroom : shownAt (height - 8 - 3) s.selected + 2 < height - 8 := by
    unfold shownAt
    omega
  rw [hr, hc, draw_content_cell (by omega) hroom (by omega), contentPane, hscreen]
  exact hshown

/-- The cells beside the frame and those of the frame itself have no style. -/
theorem draw_selected_border (hheight : 12 ≤ height) (hscreen : s.screen = .districts) {c : Nat}
    (hborder : ¬ (2 ≤ c ∧ c < width - 2)) (hwidth : 5 ≤ width) :
    ((draw width height s).cell (6 + min s.selected (height - 12)) c).style = {} := by
  rw [draw_cell (by omega) (by omega)]
  split
  · rw [if_neg (by omega), if_pos (by omega), contentPane, hscreen]
    exact Pane.framed_border (P := (· = {})) rfl (shows_title (P := (· = {})) rfl rfl _ _)
      (by omega) _
  · rfl

theorem draw_selected_style (hwidth : 5 ≤ width) (hheight : 12 ≤ height)
    (hscreen : s.screen = .districts) {row : OverviewRow}
    (hrow : s.overview[s.selected]? = some row) {c : Nat} :
    ((draw width height s).cell (6 + min s.selected (height - 12)) c).style
      = if 2 ≤ c ∧ c < width - 2 then .active else {} := by
  by_cases hinside : 2 ≤ c ∧ c < width - 2
  · obtain ⟨k, rfl⟩ : ∃ k, c = 2 + k := ⟨c - 2, by omega⟩
    obtain ⟨cell, -, hshown⟩ :=
      draw_selected_cell hheight hscreen hrow (show k + 4 < width by omega)
    rw [if_pos hinside, hshown, style_highlighted]
  · rw [if_neg hinside]
    exact draw_selected_border hheight hscreen hinside hwidth

theorem showsSelection (hwidth : 5 ≤ width) (hheight : 12 ≤ height)
    (hscreen : s.screen = .districts) (hselected : s.selected < s.overview.length) :
    ShowsSelection width height s := by
  have hrow : s.overview[s.selected]? = some s.overview[s.selected] :=
    List.getElem?_eq_getElem hselected
  have hsize := draw_size (by omega : 2 ≤ width) (by omega : 2 ≤ height) s
  refine { size := hsize, stretch := ?_, yellow := ?_, name := ?_ }
  · refine Pane.stretches_eq (by decide) ?_ (by omega) ?_ ?_ ?_
    · rw [hsize.2]
      omega
    · rw [hsize.1]
      omega
    · intro c _
      exact draw_selected_style hwidth hheight hscreen hrow
    · intro r c hne hactive
      refine draw_not_yellow (c := c) hwidth hheight hscreen hselected
        (fun hplace => hne hplace.1) ?_
      rw [hactive]
      rfl
  · intro r c hyellow
    by_contra hplace
    exact draw_not_yellow hwidth hheight hscreen hselected hplace hyellow
  · intro hwide
    refine ⟨_, hrow, fun k c hc => ?_⟩
    obtain ⟨hk, -⟩ := List.getElem?_eq_some_iff.mp hc
    have hlength := (District.name_fits (s.overview[s.selected]).district).2.1
    obtain ⟨cell, hcell, hshown⟩ :=
      draw_selected_cell hheight hscreen hrow (show k + 4 < width by omega)
    obtain ⟨style, hname⟩ := districtRow_name (show 52 ≤ width - 4 by omega) _ hc
    rw [hshown]
    rw [hname] at hcell
    rw [← Option.some.inj hcell]
    rfl

end

/-- **The selected district is always visible, and the only one in yellow.**  After any run, on
    the district screen of a terminal with room for one row, the selected row is shown and
    highlighted from end to end, no other cell is yellow, and in a wide terminal it begins
    with the name of the district. -/
theorem selection_always_shown (t : Tables) (limit : Nat) (turns : List Session.Turn)
    {width height : Nat} (hwidth : 5 ≤ width) (hheight : 12 ≤ height)
    (hscreen : ((Session.start t limit).run turns).screen = .districts)
    (hrows : ((Session.start t limit).run turns).overview ≠ []) :
    ShowsSelection width height ((Session.start t limit).run turns) := by
  obtain ⟨moves, -, hrun⟩ := Session.exists_moves turns (Session.start t limit)
  rw [hrun] at hscreen hrows ⊢
  have hwalked := Session.walked_foldl_move t limit moves
  rw [hwalked.overview] at hrows
  refine showsSelection hwidth hheight hscreen ?_
  rw [hwalked.overview]
  exact hwalked.onRow hrows

/-- The second of two rows, in a frame with room for one: it is the one that is shown. -/
theorem selection_always_shown_of_second :
    let s := (Session.start ⟨[⟨.noord, []⟩], [(.oost, "7\n8")], []⟩ 20).run
      [.key ⟨9, 0, 0⟩ { code := .function 2 }, .key ⟨9, 0, 1⟩ { code := .down }]
    s.screen = .districts ∧ s.overview ≠ [] ∧ s.selected = 1 ∧
    (draw 56 12 s).stretches .active = [(6, 2, 54)] ∧
    ((draw 56 12 s).cell 6 5).symbol = "t" := by
  intro s
  have hscreen : s.screen = .districts := by rfl
  have hrows : s.overview ≠ [] := by decide
  have hshows : ShowsSelection 56 12 s :=
    selection_always_shown _ _ _ (by omega) (by omega) hscreen hrows
  obtain ⟨row, hrow, hname⟩ := hshows.name (by omega)
  obtain rfl : row = ⟨.oost, [], some "7\n8"⟩ := (Option.some.inj hrow).symm
  exact ⟨hscreen, hrows, rfl, hshows.stretch, hname 3 't' rfl⟩

end WastePass.Display
