import Mathlib.Data.Nat.Basic
import Mathlib.Tactic.SplitIfs
import WastePass.Display.Draw

/-!
# Screens — what is shown belongs to the screen

    Both screens are drawn from one session, which holds more than either of them shows.
    What one screen shows is decided by its own data and by the newest outcome, of which
    the district screen shows no more than the message of an error.  The status line takes
    its place at the bottom of either screen, and its frame tells whether there is an error.
-/

namespace WastePass.Display

/-! ## Where the status line stands -/

/-- The fields and the result have room. -/
theorem lookupHeights_le (height : Nat) :
    (lookupHeights height).1 + (lookupHeights height).2 ≤ height := by
  unfold lookupHeights
  split_ifs <;> simp only <;> omega

theorem inputBox_height (width height : Nat) (title value : String) (focused : Bool) :
    (inputBox width height title value focused).height = height := by
  unfold inputBox
  split_ifs <;> rfl

/-- The lookup screen fills the rows it is given. -/
theorem lookupPane_height (width height : Nat) (view : LookupView) :
    (lookupPane width height view).height = height := by
  have hroom := lookupHeights_le height
  have hfields : ∀ rows, (fieldsPane width rows view).height = rows := by
    intro rows
    show max (inputBox _ _ _ _ _).height (inputBox _ _ _ _ _).height = rows
    rw [inputBox_height, inputBox_height, max_self]
  show (fieldsPane width (lookupHeights height).1 view).height
    + ((lookupHeights height).2 + (height - (lookupHeights height).1 - (lookupHeights height).2))
      = height
  rw [hfields]
  omega

/-- Each screen fills the rows it is given. -/
theorem contentPane_height (width height : Nat) (s : Session) :
    (contentPane width height s).height = height := by
  unfold contentPane
  cases s.screen with
  | lookup => exact lookupPane_height width height _
  | districts => rfl

/-- The lower left corner of a frame has the style of the frame. -/
theorem Pane.framed_corner {height : Nat} (h : 0 < height) (width : Nat) (style : Style)
    (title : String) (inside : Pane) :
    ((Pane.framed width height style title inside).cell (height - 1) 0).style = style := by
  unfold framed
  simp only
  by_cases hfirst : height - 1 = 0
  · rw [if_pos hfirst]
    rfl
  · rw [if_neg hfirst, if_pos (Nat.sub_add_cancel h)]

/-- The frame of the status line is red if there is an error. -/
theorem statusPane_corner {height : Nat} (h : 0 < height) (width : Nat) (screen : Screen)
    (error : Option LookupError) :
    ((statusPane width height screen error).cell (height - 1) 0).style.colour
      = if error.isSome then some .red else none := by
  unfold statusPane
  cases error with
  | none => exact congrArg Style.colour (Pane.framed_corner h _ _ _ _)
  | some e => exact congrArg Style.colour (Pane.framed_corner h _ _ _ _)

/-- The last row that a session shows is the last of its status line. -/
theorem sessionPane_corner {height : Nat} (h : 4 ≤ height) (width : Nat) (s : Session) :
    (sessionPane width height s).cell (height - 1) 0
      = (statusPane width (min 3 (height - 3)) s.screen (lastError s.history)).cell
          (min 3 (height - 3) - 1) 0 := by
  -- The header and the content take all rows but those of the status line.
  have hcontent := contentPane_height width (height - 6) s
  have hheader : ¬ height - 1 < min 3 height := by omega
  have hbelow : ¬ height - 1 - min 3 height < (contentPane width (height - 6) s).height := by
    omega
  show (if height - 1 < min 3 height then _ else
    if height - 1 - min 3 height < (contentPane width (height - 6) s).height then _ else
      (statusPane _ _ _ _).cell
        (height - 1 - min 3 height - (contentPane width (height - 6) s).height) 0) = _
  rw [if_neg hheader, if_neg hbelow, hcontent]
  congr 1
  omega

/-- A session fills the rows it is given. -/
theorem sessionPane_height (width height : Nat) (s : Session) :
    (sessionPane width height s).height = height := by
  have hstatus : ∀ rows, (statusPane width rows s.screen (lastError s.history)).height = rows := by
    intro rows
    unfold statusPane
    cases lastError s.history <;> rfl
  show min 3 height + ((contentPane width (height - 6) s).height + (statusPane _ _ _ _).height) = _
  rw [contentPane_height, hstatus]
  omega

/-- The frame of the status line is red on the terminal, just when the newest outcome is an
    error. -/
theorem draw_corner {width height : Nat} (hwidth : 3 ≤ width) (hheight : 6 ≤ height)
    (s : Session) :
    ((draw width height s).cell (height - 2) 1).style.colour
      = if (lastError s.history).isSome then some .red else none := by
  have hroom : ¬ (width < 2 ∨ height < 2) := by omega
  have hinside : 1 ≤ height - 2 ∧ height - 2 ≤ (sessionPane (width - 2) (height - 2) s).height ∧
      1 ≤ 1 ∧ 1 ≤ (sessionPane (width - 2) (height - 2) s).width := by
    refine ⟨by omega, Nat.le_of_eq (sessionPane_height _ _ s).symm, le_rfl, ?_⟩
    have hheader : width - 2 ≤ (sessionPane (width - 2) (height - 2) s).width := le_max_left _ _
    omega
  rw [draw, if_neg hroom]
  unfold Pane.withMargin
  simp only
  rw [if_pos hinside, sessionPane_corner (by omega)]
  exact statusPane_corner (by omega) _ _ _

/-! ## What is not shown -/

/-- The status line tells no more of an error than its message. -/
theorem statusPane_of_message {error error' : Option LookupError}
    (h : error.map LookupError.message = error'.map LookupError.message)
    (width height : Nat) (screen : Screen) :
    statusPane width height screen error = statusPane width height screen error' := by
  cases error with
  | none =>
      rw [Option.map_eq_none_iff.mp h.symm]
  | some e =>
      obtain ⟨e', rfl, hmessage⟩ := Option.map_eq_some_iff.mp h.symm
      unfold statusPane
      simp only [hmessage]

/-- Two sessions are drawn alike if they are on the same screen, what it shows between the
    header and the status line is alike, and so is the message of the newest error. -/
theorem draw_of_alike {s s' : Session} (hscreen : s.screen = s'.screen)
    (hcontent : ∀ width height, contentPane width height s = contentPane width height s')
    (herror : (lastError s.history).map LookupError.message
      = (lastError s'.history).map LookupError.message) (width height : Nat) :
    draw width height s = draw width height s' := by
  have hsession : sessionPane (width - 2) (height - 2) s
      = sessionPane (width - 2) (height - 2) s' := by
    unfold sessionPane
    rw [hcontent, hscreen, statusPane_of_message herror]
  rw [draw, draw, hsession]

/-- What a terminal of some size shows, whatever the session.  Each screen shows data of its
    own, and both whether the newest outcome is an error, where there is room. -/
structure ShowsOwnData (width height : Nat) : Prop where
  districts : ∀ s s' : Session, s.screen = .districts → s'.screen = .districts →
    s.overview = s'.overview → s.selected = s'.selected →
    (lastError s.history).map LookupError.message
      = (lastError s'.history).map LookupError.message →
    draw width height s = draw width height s'
  lookup : ∀ s s' : Session, s.screen = .lookup → s'.screen = .lookup →
    s.postalCode = s'.postalCode → s.houseNumber = s'.houseNumber → s.focus = s'.focus →
    s.history = s'.history → s.historyLimit = s'.historyLimit →
    draw width height s = draw width height s'
  error : ∀ s : Session, 3 ≤ width → 6 ≤ height →
    ((draw width height s).cell (height - 2) 1).style.colour
      = if (lastError s.history).isSome then some .red else none

/-- **A screen shows its own data and nothing else**, on terminals of all sizes. -/
theorem screens_show_own_data (width height : Nat) : ShowsOwnData width height where
  districts s s' hs hs' hoverview hselected herror := by
    refine draw_of_alike (hs.trans hs'.symm) (fun width height => ?_) herror width height
    have hview : DistrictView.ofSession s = DistrictView.ofSession s' := by
      rw [DistrictView.ofSession, DistrictView.ofSession, hoverview, hselected]
    rw [contentPane, contentPane, hs, hs', hview]
  lookup s s' hs hs' hcode hnumber hfocus hhistory hlimit := by
    refine draw_of_alike (hs.trans hs'.symm) (fun width height => ?_) (by rw [hhistory])
      width height
    have hview : LookupView.ofSession s = LookupView.ofSession s' := by
      rw [LookupView.ofSession, LookupView.ofSession, hcode, hnumber, hfocus, hhistory, hlimit]
    rw [contentPane, contentPane, hs, hs', hview]
  error s hwidth hheight := draw_corner hwidth hheight s

/-- Another error with the same message, found by other tables with other texts in the fields,
    is drawn alike next to the overview, and red; so are two overviews behind one lookup. -/
theorem screens_show_own_data_of_message :
    let failed : LookupRecord := ⟨⟨9, 8, 7⟩, "1380 AA", none, .error (.notFound .district)⟩
    let tables : Tables := ⟨[], [(.weesp, "1380")], []⟩
    let s : Session :=
      { Session.start tables 20 with screen := .districts, history := [failed, failed] }
    let s' : Session :=
      { s with
        tables := ⟨[], [], []⟩
        focus := .houseNumber
        postalCode := "1011 AB"
        history := [{ failed with postalCode := "9999 ZZ" }]
        historyLimit := 5 }
    draw 80 24 s = draw 80 24 s' ∧ ((draw 80 24 s').cell 22 1).style.colour = some .red ∧
      draw 80 24 { s with screen := .lookup }
        = draw 80 24 { s with screen := .lookup, overview := [], selected := 3 } := by
  intro failed tables s s'
  have hshows := screens_show_own_data 80 24
  refine ⟨hshows.districts s s' rfl rfl rfl rfl rfl, ?_, ?_⟩
  · rw [hshows.error s' (by decide) (by decide)]
    rfl
  · exact hshows.lookup _ _ rfl rfl rfl rfl rfl rfl rfl

end WastePass.Display
