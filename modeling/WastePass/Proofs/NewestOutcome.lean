import WastePass.Proofs.SelectedRow

/-!
# The newest outcome — told by four places that never disagree

    An error is told by the status line of either screen, and on the lookup screen by the
    result and by the first item of the history as well.  Each derives its colour from the
    outcome on its own, but they agree on any terminal with room for an item of one line: what
    is said about an error begins with a letter, which wrapping never leaves behind, and the
    first cell of a row of a list has the style of the row whatever the text is.  Where nothing
    has been looked up there is neither red nor green.
-/

namespace WastePass

namespace Text

/-! ## Texts of one line -/

/-- A text without a line end. -/
def Unbroken (text : String) : Prop := '\n' ∉ text.toList

instance : DecidablePred Unbroken := fun text => inferInstanceAs (Decidable ('\n' ∉ text.toList))

theorem Unbroken.append {a b : String} (ha : Unbroken a) (hb : Unbroken b) :
    Unbroken (a ++ b) := by
  intro h
  rw [String.toList_append] at h
  exact (List.mem_append.mp h).elim ha hb

theorem unbroken_of_plain {text : String} (h : ∀ c ∈ text.toList, Plain c) : Unbroken text :=
  fun hmem => (h _ hmem).ne_of_not (by decide) rfl

theorem unbroken_toString (n : Nat) : Unbroken (toString n) := by
  intro h
  rw [Nat.toString_eq_ofList_toDigits, String.toList_ofList] at h
  exact absurd (Nat.isDigit_of_mem_toDigits (by decide) (by decide) h) (by decide)

theorem linesFrom_of_unbroken {cs : List Char} (h : '\n' ∉ cs) {begun : List Char}
    (hne : begun.reverse ++ cs ≠ []) : linesFrom begun cs = [begun.reverse ++ cs] := by
  induction cs generalizing begun with
  | nil =>
      rw [List.append_nil] at hne ⊢
      have hbegun : ¬ begun.isEmpty = true := by
        rw [List.isEmpty_iff]
        exact fun hnil => hne (List.reverse_eq_nil_iff.mpr hnil)
      rw [linesFrom, if_neg hbegun]
  | cons c cs ih =>
      obtain ⟨hc, hcs⟩ := not_or.mp (fun hmem => h (List.mem_cons.mpr hmem))
      have hmoved : (c :: begun).reverse ++ cs = begun.reverse ++ c :: cs := by
        rw [List.reverse_cons, List.append_assoc]
        rfl
      rw [linesFrom, if_neg (Ne.symm hc), ih hcs (by rwa [hmoved]), hmoved]

/-- A text without a line end is its only line. -/
theorem lines_of_unbroken {text : String} (h : Unbroken text) (hne : text.toList ≠ []) :
    lines text.toList = [text.toList] :=
  linesFrom_of_unbroken h hne

end Text

open Text (Plain Unbroken)

theorem ClockTime.unbroken_text (t : ClockTime) : Unbroken t.text := by
  have htwo : ∀ n, Unbroken (twoDigits n) := by
    intro n
    unfold twoDigits
    split
    · exact Text.Unbroken.append (by decide) (Text.unbroken_toString n)
    · exact Text.unbroken_toString n
  have hcolon : Unbroken ":" := by decide
  exact ((((htwo _).append hcolon).append (htwo _)).append hcolon).append (htwo _)

/-- No text of a lookup, neither what was asked nor the pass number, has a line end. -/
structure LookupRecord.Unbroken (record : LookupRecord) : Prop where
  postalCode : Text.Unbroken record.postalCode
  houseNumber : ∀ number, record.houseNumber = some number → Text.Unbroken number
  passNumber : ∀ pass, record.outcome = .ok pass → Text.Unbroken pass.passNumber

namespace Display

/-! ## Texts of an outcome -/

/-- What is said about a lookup without a pass begins with a plain character that is shown. -/
theorem errorLabel_plain (e : LookupError) :
    (∀ c ∈ (errorLabel e).toList, Plain c) ∧
      ∃ c cs, (errorLabel e).toList = c :: cs ∧ Text.isBlank c = false := by
  cases e with
  | invalid reason => cases reason <;> exact ⟨by decide, _, _, rfl, by decide⟩
  | notFound stage => cases stage <;> exact ⟨by decide, _, _, rfl, by decide⟩

theorem unbroken_padded {text : String} (h : Unbroken text) (length : Nat) :
    Unbroken (padded length text) := by
  refine h.append fun hmem => ?_
  rw [String.toList_ofList] at hmem
  exact absurd (List.eq_of_mem_replicate hmem) (by decide)

theorem unbroken_queryText {record : LookupRecord} (h : record.Unbroken) :
    Unbroken (queryText record) := by
  unfold queryText
  cases hnumber : record.houseNumber with
  | none => exact h.postalCode
  | some number => exact (h.postalCode.append (by decide)).append (h.houseNumber number hnumber)

theorem unbroken_summary {record : LookupRecord} (h : record.Unbroken) :
    Unbroken (summary record.outcome) := by
  cases houtcome : record.outcome with
  | error e => exact Text.unbroken_of_plain (errorLabel_plain e).1
  | ok pass =>
      have hname : Unbroken pass.district.name :=
        Text.unbroken_of_plain (District.name_fits pass.district).1
      have hdot : Unbroken " · " := by decide
      have hcontainer : Unbroken (containerLabel pass) := by
        unfold containerLabel
        split <;> decide
      exact (((hname.append hdot).append (h.passNumber pass houtcome)).append hdot).append
        hcontainer

/-- The item of a lookup is one line, if no text of the lookup has a line end. -/
theorem historyItem_lines {record : LookupRecord} (h : record.Unbroken) :
    ∃ line, (historyItem record).lines = [line] := by
  have htext : Unbroken (record.time.text ++ "  " ++ padded 14 (queryText record) ++ " " ++
      summary record.outcome) :=
    ((((record.time.unbroken_text).append (by decide)).append
      (unbroken_padded (unbroken_queryText h) 14)).append (by decide)).append (unbroken_summary h)
  rw [historyItem]
  exact ⟨_, Text.lines_of_unbroken htext (by simp)⟩

/-! ## The first cell of a place -/

/-- The first cell of a row of a list has the style of the row. -/
theorem itemRow_first {width : Nat} (hwidth : 0 < width) (style : Style) (line : List Char) :
    ∃ cell, (itemRow width style line)[0]? = some cell ∧ cell.style = style := by
  have hlength : 0 < (itemRow width style line).length := by
    unfold itemRow
    dsimp only
    rw [List.length_append, List.length_replicate]
    omega
  refine ⟨_, List.getElem?_eq_getElem hlength, (listed_itemRow width style line).first _ ?_⟩
  rw [List.head?_eq_getElem?]
  exact List.getElem?_eq_getElem hlength

/-- The first cell inside a list has the style of its first item, if that is one line. -/
theorem listBox_first {width height : Nat} (hwidth : 3 ≤ width) (hheight : 3 ≤ height)
    (title : String) {item : Item} {line : List Char} (hline : item.lines = [line])
    (items : List Item) :
    ((listBox width height title (item :: items)).cell 1 1).style = item.style := by
  have hfits : item.lines.length ≤ height - 2 := by
    rw [hline, List.length_singleton]
    omega
  obtain ⟨cell, hcell, hstyle⟩ := itemRow_first (show 0 < width - 2 by omega) item.style line
  unfold listBox
  dsimp only
  rw [Pane.framed_cell (by omega), itemsThatFit, if_pos hfits, List.flatMap_cons, hline]
  show ((((itemRow (width - 2) item.style line)[0]?).getD _).style) = _
  rw [hcell]
  exact hstyle

/-- The first cell inside the result has the colour of an error. -/
theorem resultBox_first {width : Nat} (hwidth : 3 ≤ width) (title : String) (e : LookupError) :
    ((wrappedBox width 5 {} title [oneLine (.ofColour .red) (errorLabel e)]).cell 1 1).style
      = .ofColour .red := by
  obtain ⟨hplain, c, cs, hlabel, hblank⟩ := errorLabel_plain e
  have hline : oneLine (.ofColour .red) (errorLabel e)
      = ⟨[c], .ofColour .red⟩ :: cs.map fun c => ⟨[c], .ofColour .red⟩ := by
    have hne : (errorLabel e).toList ≠ [] := by
      rw [hlabel]
      exact List.cons_ne_nil c cs
    rw [oneLine, Text.lines_of_unbroken (Text.unbroken_of_plain hplain) hne,
      List.flatMap_singleton, Glyph.ofText_plain _ hplain, hlabel, List.map_cons]
  have hc : Plain c := hplain c (by rw [hlabel]; exact List.mem_cons_self)
  have hgap : Glyph.isGap ⟨[c], .ofColour .red⟩ = false := by
    have hspace : c ≠ '\u200b' := hc.ne_of_not (by decide)
    simp [Glyph.isGap, hspace, hblank]
  have hglyph : Glyph.width ⟨[c], .ofColour .red⟩ = 1 := hc.width_eq
  have hfits : Glyph.width ⟨[c], .ofColour .red⟩ ≤ width - 2 := by omega
  obtain ⟨line, more, hwrap⟩ := wrap_cons hgap (by omega) hfits
    (cs.map fun c => ⟨[c], .ofColour .red⟩)
  unfold wrappedBox
  dsimp only
  rw [Pane.framed_cell (by omega), List.flatMap_singleton, hline, hwrap, List.map_cons, Cell.flow,
    List.flatMap_cons, hglyph]
  rfl

/-! ## Screens without an outcome -/

section

variable {P : Style → Prop}

theorem districtPane_shows (hempty : P {}) (hbold : P { bold := true })
    (hgrey : P (.ofColour .darkGray)) (hactive : P .active) (width height : Nat)
    (view : DistrictView) : (districtPane width height view).Shows P := by
  have hdistrict : ∀ row, ∀ cell ∈ districtRow (width - 2) row, P cell.style := by
    intro row
    refine (listed_tableRow _ _ _ _ _).forall ?_ hempty
    unfold rowStyle
    split
    · exact hempty
    · exact hgrey
  refine Pane.shows_framed hempty (shows_title hempty hempty _ _)
    (Pane.shows_ofRows hempty (List.forall_mem_cons.mpr ⟨?_, ?_⟩) _ _)
  · exact (listed_tableRow _ _ _ _ _).forall hbold hempty
  · intro row hrow
    obtain ⟨⟨district, i⟩, -, rfl⟩ :=
      List.mem_map.mp (List.mem_of_mem_drop (List.mem_of_mem_take hrow))
    dsimp only
    split
    · intro cell hcell
      obtain ⟨c, -, rfl⟩ := List.mem_map.mp hcell
      exact hactive
    · exact hdistrict district

/-- Before the first lookup, only the field that is edited has a colour. -/
theorem lookupPane_shows (hempty : P {}) (hactive : P .active) (width height : Nat)
    {view : LookupView} (hview : view.history = []) : (lookupPane width height view).Shows P := by
  have hresult : ∀ line ∈ resultLines view.history.head?, ∀ g ∈ line, P (g.style.onto {}) := by
    intro line hline g hg
    rw [hview] at hline
    rw [List.mem_singleton.mp hline] at hg
    rw [style_oneLine hg]
    exact hempty
  have hitems : ∀ item ∈ historyItems view.history, P item.style := by
    intro item hitem
    rw [hview] at hitem
    rw [List.mem_singleton.mp hitem]
    exact hempty
  exact (fieldsPane_shows hactive hempty _ _ view).above
    ((wrappedBox_shows hempty (shows_title hempty hempty _ _) hresult _).above
      (listBox_shows hempty hitems _ _ _))

end

/-! ## Areas of the terminal -/

/-- An area of the terminal: its first row and the one behind its last, and so its columns. -/
structure Area where
  top : Nat
  bottom : Nat
  left : Nat
  right : Nat

/-- The area of the status line, with its frame. -/
def Area.status (width height : Nat) : Area := ⟨height - 4, height - 1, 1, width - 1⟩

/-- The area of the result, with its frame. -/
def Area.result (width : Nat) : Area := ⟨7, 12, 1, width - 1⟩

/-- The area of the history, with its frame. -/
def Area.history (width height : Nat) : Area := ⟨12, height - 4, 1, width - 1⟩

namespace Pane

/-- The colour of a cell. -/
def colour (p : Pane) (r c : Nat) : Option Colour := (p.cell r c).style.colour

/-- There is a frame around an area. -/
structure FramedAt (p : Pane) (area : Area) : Prop where
  topLeft : (p.cell area.top area.left).symbol = "┌"
  topRight : (p.cell area.top (area.right - 1)).symbol = "┐"
  bottomLeft : (p.cell (area.bottom - 1) area.left).symbol = "└"
  bottomRight : (p.cell (area.bottom - 1) (area.right - 1)).symbol = "┘"

/-- The colour of the first cell inside the frame of an area. -/
def firstInside (p : Pane) (area : Area) : Option Colour := p.colour (area.top + 1) (area.left + 1)

/-- All cells of an area have a colour. -/
def Entirely (p : Pane) (area : Area) (colour : Colour) : Prop :=
  ∀ r c, area.top ≤ r → r < area.bottom → area.left ≤ c → c < area.right →
    p.colour r c = some colour

/-- Some cell of an area has a colour. -/
def Somewhere (p : Pane) (area : Area) (colour : Colour) : Prop :=
  ∃ r c, area.top ≤ r ∧ r < area.bottom ∧ area.left ≤ c ∧ c < area.right ∧
    p.colour r c = some colour

end Pane

/-- How a terminal shows an outcome, if it is the newest, on the lookup screen.  Errors are
    red in the status line, in the result and at the front of the history; a pass is green in
    the history, and nothing of the other two is red. -/
structure TellsOutcome (width height : Nat) (s : Session) (outcome : Outcome) : Prop where
  frames : (draw width height s).FramedAt (.status width height) ∧
    (draw width height s).FramedAt (.result width) ∧
    (draw width height s).FramedAt (.history width height)
  status : (∃ e, outcome = .error e) ↔
    (draw width height s).Entirely (.status width height) .red
  result : (∃ e, outcome = .error e) ↔ (draw width height s).Somewhere (.result width) .red
  history : (∃ e, outcome = .error e) ↔
    (draw width height s).firstInside (.history width height) = some .red
  pass : (∃ pass, outcome = .ok pass) ↔
    ¬ (draw width height s).Somewhere (.status width height) .red ∧
    ¬ (draw width height s).Somewhere (.result width) .red ∧
    (draw width height s).firstInside (.history width height) = some .green

/-- How a terminal shows on the district screen whether the newest outcome is an error. -/
structure TellsError (width height : Nat) (s : Session) : Prop where
  frame : (draw width height s).FramedAt (.status width height)
  red : (∃ record e, s.lastLookup = some record ∧ record.outcome = .error e) ↔
    (draw width height s).Entirely (.status width height) .red
  otherwise : (¬ ∃ record e, s.lastLookup = some record ∧ record.outcome = .error e) →
    ¬ (draw width height s).Somewhere (.status width height) .red

section

variable {width height : Nat} {s : Session}

/-! ### Cells and frames -/

/-- The parts of the lookup screen below the fields. -/
theorem draw_lookup_cell (hheight : 16 ≤ height) (hscreen : s.screen = .lookup) {r c : Nat}
    (hr : r + 7 < height - 4) (hc : c < width - 2) :
    (draw width height s).cell (r + 7) (c + 1) =
      if r < 5 then (wrappedBox (width - 2) 5 {} "Result" (resultLines s.lastLookup)).cell r c
      else (listBox (width - 2) (height - 16) ("History (last " ++ toString s.historyLimit ++ ")")
        (historyItems s.history)).cell (r - 5) c := by
  have hrow : r + 7 = r + 3 + 4 := by omega
  have hrest : height - 8 - 8 = height - 16 := by omega
  rw [hrow, draw_content_cell (by omega) (by omega) hc, contentPane, hscreen]
  dsimp only
  rw [lookupPane_cell (by omega), if_neg (by omega), hrest]
  by_cases hresult : r < 5
  · rw [if_pos (by omega), if_pos hresult]
    rfl
  · rw [if_neg (by omega), if_neg hresult]
    have hbelow : r + 3 - 8 = r - 5 := by omega
    rw [hbelow]
    rfl

theorem draw_result_cell (hheight : 16 ≤ height) (hscreen : s.screen = .lookup) {r c : Nat}
    (hr : r < 5) (hc : c < width - 2) :
    (draw width height s).cell (r + 7) (c + 1)
      = (wrappedBox (width - 2) 5 {} "Result" (resultLines s.lastLookup)).cell r c := by
  rw [draw_lookup_cell hheight hscreen (by omega) hc, if_pos hr]

theorem draw_history_cell (hheight : 16 ≤ height) (hscreen : s.screen = .lookup) {r c : Nat}
    (hr : r < height - 16) (hc : c < width - 2) :
    (draw width height s).cell (r + 12) (c + 1)
      = (listBox (width - 2) (height - 16) ("History (last " ++ toString s.historyLimit ++ ")")
          (historyItems s.history)).cell r c := by
  have hrow : r + 12 = r + 5 + 7 := by omega
  rw [hrow, draw_lookup_cell hheight hscreen (by omega) hc, if_neg (by omega)]
  rfl

/-- Where a pane shows a box from its first corner to its last, the area is framed. -/
theorem Pane.framedAt_of_cells {p box : Pane} {area : Area} (rows columns : Nat)
    (hbox : ∃ style title inside, box = .framed (columns + 2) (rows + 2) style title inside)
    (hbottom : area.bottom = area.top + (rows + 2))
    (hright : area.right = area.left + (columns + 2))
    (h : ∀ r c, r < rows + 2 → c < columns + 2 →
      p.cell (area.top + r) (area.left + c) = box.cell r c) :
    p.FramedAt area := by
  obtain ⟨style, title, inside, rfl⟩ := hbox
  have hlastRow : area.bottom - 1 = area.top + (rows + 1) := by omega
  have hlastColumn : area.right - 1 = area.left + (columns + 1) := by omega
  have hfirst : ¬ (1 ≤ 0 ∧ 0 + 1 < columns + 2) := by omega
  have hlast : ¬ (1 ≤ columns + 1 ∧ columns + 1 + 1 < columns + 2) := by omega
  refine { topLeft := ?_, topRight := ?_, bottomLeft := ?_, bottomRight := ?_ }
  · show (p.cell (area.top + 0) (area.left + 0)).symbol = _
    rw [h 0 0 (by omega) (by omega)]
    unfold Pane.framed
    dsimp only
    rw [if_pos rfl, topCell, if_neg hfirst]
    rfl
  · rw [hlastColumn]
    show (p.cell (area.top + 0) (area.left + (columns + 1))).symbol = _
    rw [h 0 (columns + 1) (by omega) (by omega)]
    unfold Pane.framed
    dsimp only
    rw [if_pos rfl, topCell, if_neg hlast, topSymbol, if_neg (Nat.succ_ne_zero _), if_pos rfl]
  · rw [hlastRow]
    show (p.cell (area.top + (rows + 1)) (area.left + 0)).symbol = _
    rw [h (rows + 1) 0 (by omega) (by omega)]
    unfold Pane.framed
    dsimp only
    rw [if_neg (Nat.succ_ne_zero _), if_pos rfl]
    rfl
  · rw [hlastRow, hlastColumn, h (rows + 1) (columns + 1) (by omega) (by omega)]
    unfold Pane.framed
    dsimp only
    rw [if_neg (Nat.succ_ne_zero _), if_pos rfl, bottomSymbol, if_neg (Nat.succ_ne_zero _),
      if_pos rfl]

theorem status_framed (hwidth : 4 ≤ width) (hheight : 8 ≤ height) :
    (draw width height s).FramedAt (.status width height) := by
  obtain ⟨n, rfl⟩ : ∃ n, width = n + 4 := ⟨width - 4, by omega⟩
  have hbottom : height - 1 = height - 4 + (1 + 2) := by omega
  have hright : n + 4 - 1 = 1 + (n + 2) := by omega
  have hbox : ∃ style title inside, statusPane (n + 2) 3 s.screen (lastError s.history)
      = .framed (n + 2) 3 style title inside := by
    cases lastError s.history with
    | none => exact ⟨_, _, _, rfl⟩
    | some e => exact ⟨_, _, _, rfl⟩
  refine Pane.framedAt_of_cells 1 n hbox hbottom hright fun r c hr hc => ?_
  show (draw (n + 4) height s).cell (height - 4 + r) (1 + c) = _
  rw [draw_status_cell hheight (by omega) (by omega), Nat.add_sub_cancel_left,
    Nat.add_sub_cancel_left]
  rfl

theorem result_framed (hwidth : 4 ≤ width) (hheight : 16 ≤ height) (hscreen : s.screen = .lookup) :
    (draw width height s).FramedAt (.result width) := by
  obtain ⟨n, rfl⟩ : ∃ n, width = n + 4 := ⟨width - 4, by omega⟩
  have hright : n + 4 - 1 = 1 + (n + 2) := by omega
  have hcells : ∀ r c, r < 3 + 2 → c < n + 2 → (draw (n + 4) height s).cell (7 + r) (1 + c)
      = (wrappedBox (n + 2) 5 {} "Result" (resultLines s.lastLookup)).cell r c := by
    intro r c hr hc
    rw [Nat.add_comm 7 r, Nat.add_comm 1 c]
    exact draw_result_cell hheight hscreen hr hc
  exact Pane.framedAt_of_cells 3 n ⟨_, _, _, rfl⟩ rfl hright hcells

theorem history_framed (hwidth : 4 ≤ width) (hheight : 18 ≤ height)
    (hscreen : s.screen = .lookup) :
    (draw width height s).FramedAt (.history width height) := by
  obtain ⟨n, rfl⟩ : ∃ n, width = n + 4 := ⟨width - 4, by omega⟩
  obtain ⟨m, rfl⟩ : ∃ m, height = m + 18 := ⟨height - 18, by omega⟩
  have hbottom : m + 18 - 4 = 12 + (m + 2) := by omega
  have hright : n + 4 - 1 = 1 + (n + 2) := by omega
  have hcells : ∀ r c, r < m + 2 → c < n + 2 → (draw (n + 4) (m + 18) s).cell (12 + r) (1 + c)
      = (listBox (n + 2) (m + 2) ("History (last " ++ toString s.historyLimit ++ ")")
          (historyItems s.history)).cell r c := by
    intro r c hr hc
    rw [Nat.add_comm 12 r, Nat.add_comm 1 c]
    exact draw_history_cell (by omega) hscreen hr hc
  exact Pane.framedAt_of_cells m n ⟨_, _, _, rfl⟩ hbottom hright hcells

/-! ### Colours -/

theorem isSome_lastError_iff (s : Session) : (lastError s.history).isSome = true ↔
    ∃ record e, s.lastLookup = some record ∧ record.outcome = .error e := by
  unfold lastError Session.lastLookup
  cases s.history.head? with
  | none => simp
  | some record =>
      dsimp only
      cases houtcome : record.outcome with
      | error e => exact iff_of_true rfl ⟨record, e, rfl, houtcome⟩
      | ok pass =>
          refine iff_of_false Bool.false_ne_true ?_
          rintro ⟨other, e, hother, he⟩
          rw [← Option.some.inj hother, houtcome] at he
          cases he

/-- The status line is red from end to end, or nowhere. -/
theorem status_entirely_red (hheight : 8 ≤ height) (h : (lastError s.history).isSome = true) :
    (draw width height s).Entirely (.status width height) .red := by
  intro r c htop hbottom hleft hright
  rw [Pane.colour, draw_status_cell hheight ⟨htop, hbottom⟩ ⟨hleft, hright⟩]
  exact statusPane_shows (P := fun style => style.colour = some .red) _ _ _ _
    (by rw [if_pos h]; rfl) _ _

theorem status_nowhere_red (hheight : 8 ≤ height)
    (h : ¬ (lastError s.history).isSome = true) :
    ¬ (draw width height s).Somewhere (.status width height) .red := by
  rintro ⟨r, c, htop, hbottom, hleft, hright, hred⟩
  rw [Pane.colour, draw_status_cell hheight ⟨htop, hbottom⟩ ⟨hleft, hright⟩] at hred
  exact statusPane_shows (P := fun style => style.colour ≠ some .red) _ _ _ _
    (by rw [if_neg h]; decide) _ _ hred

theorem Pane.Entirely.somewhere {p : Pane} {area : Area} {colour : Colour}
    (h : p.Entirely area colour) (hrows : area.top < area.bottom)
    (hcolumns : area.left < area.right) : p.Somewhere area colour :=
  ⟨area.top, area.left, le_rfl, hrows, le_rfl, hcolumns, h _ _ le_rfl hrows le_rfl hcolumns⟩

theorem status_red_iff (hwidth : 3 ≤ width) (hheight : 8 ≤ height) :
    (lastError s.history).isSome = true ↔
      (draw width height s).Entirely (.status width height) .red := by
  refine ⟨status_entirely_red hheight, fun hred => ?_⟩
  by_contra hnone
  refine status_nowhere_red hheight hnone (hred.somewhere ?_ ?_)
  · show height - 4 < height - 1
    omega
  · show 1 < width - 1
    omega

theorem result_somewhere_red (hwidth : 5 ≤ width) (hheight : 16 ≤ height)
    (hscreen : s.screen = .lookup) {record : LookupRecord} (hnewest : s.lastLookup = some record)
    {e : LookupError} (houtcome : record.outcome = .error e) :
    (draw width height s).Somewhere (.result width) .red := by
  have hlines : resultLines s.lastLookup = [oneLine (.ofColour .red) (errorLabel e)] := by
    rw [hnewest]
    simp only [resultLines, houtcome]
  refine ⟨8, 2, ?_, ?_, ?_, ?_, ?_⟩
  · exact Nat.le_succ 7
  · show 8 < 12
    omega
  · exact Nat.le_succ 1
  · show 2 < width - 1
    omega
  · rw [Pane.colour, draw_result_cell hheight hscreen (show 1 < 5 by omega)
      (show 1 < width - 2 by omega), hlines, resultBox_first (by omega)]
    rfl

theorem result_nowhere_red (hheight : 16 ≤ height)
    (hscreen : s.screen = .lookup) {record : LookupRecord} (hnewest : s.lastLookup = some record)
    {pass : Pass} (houtcome : record.outcome = .ok pass) :
    ¬ (draw width height s).Somewhere (.result width) .red := by
  have hcontent : ∀ line ∈ resultLines s.lastLookup, ∀ g ∈ line,
      (g.style.onto {}).colour ≠ some .red := by
    intro line hline g hg
    rw [hnewest] at hline
    simp only [resultLines, houtcome, List.mem_cons, List.not_mem_nil, or_false] at hline
    rcases hline with rfl | rfl | rfl
    · rw [style_oneLine hg]
      decide
    · rw [style_oneLine hg]
      decide
    · rw [style_oneLine hg, containerColour]
      split <;> decide
  rintro ⟨r, c, htop, hbottom, hleft, hright, hred⟩
  obtain ⟨r, rfl⟩ : ∃ n, r = n + 7 := ⟨r - 7, (Nat.sub_add_cancel htop).symm⟩
  obtain ⟨c, rfl⟩ : ∃ n, c = n + 1 := ⟨c - 1, (Nat.sub_add_cancel hleft).symm⟩
  have hr : r < 5 := Nat.lt_of_add_lt_add_right hbottom
  have hc : c < width - 2 := by
    have hcolumn : c + 1 < width - 1 := hright
    omega
  rw [Pane.colour, draw_result_cell hheight hscreen hr hc] at hred
  exact wrappedBox_shows (P := fun style => style.colour ≠ some .red) (by decide)
    (shows_title (P := fun style => style.colour ≠ some .red) (by decide) (by decide) _ _)
    hcontent _ _ _ hred

/-- The first cell inside the history has the colour of the newest outcome. -/
theorem history_colour (hwidth : 5 ≤ width) (hheight : 19 ≤ height)
    (hscreen : s.screen = .lookup) {record : LookupRecord} (hnewest : s.lastLookup = some record)
    (hrecord : record.Unbroken) :
    (draw width height s).firstInside (.history width height)
      = some (summaryColour record.outcome) := by
  obtain ⟨older, hhistory⟩ : ∃ older, s.history = record :: older :=
    List.head?_eq_some_iff.mp hnewest
  obtain ⟨line, hline⟩ := historyItem_lines hrecord
  have hitems : historyItems s.history = historyItem record :: older.map historyItem := by
    rw [hhistory]
    rfl
  have hcell := draw_history_cell (by omega) hscreen (show 1 < height - 16 by omega)
    (show 1 < width - 2 by omega)
  show ((draw width height s).cell (1 + 12) (1 + 1)).style.colour = _
  rw [hcell, hitems, listBox_first (by omega) (by omega) _ hline]
  rfl

theorem tellsOutcome (hwidth : 5 ≤ width) (hheight : 19 ≤ height) (hscreen : s.screen = .lookup)
    {record : LookupRecord} (hnewest : s.lastLookup = some record) (hrecord : record.Unbroken) :
    TellsOutcome width height s record.outcome := by
  have herror : (lastError s.history).isSome = true ↔ ∃ e, record.outcome = .error e := by
    rw [isSome_lastError_iff, hnewest]
    simp
  have hhistory := history_colour hwidth hheight hscreen hnewest hrecord
  have hstatus := status_red_iff (s := s) (show 3 ≤ width by omega) (show 8 ≤ height by omega)
  refine
    { frames := ⟨status_framed (by omega) (by omega), result_framed (by omega) (by omega) hscreen,
        history_framed (by omega) (by omega) hscreen⟩
      status := herror.symm.trans hstatus, result := ?_, history := ?_, pass := ?_ }
  · cases houtcome : record.outcome with
    | error e =>
        exact iff_of_true ⟨e, rfl⟩
          (result_somewhere_red hwidth (by omega) hscreen hnewest houtcome)
    | ok pass =>
        exact iff_of_false nofun (result_nowhere_red (by omega) hscreen hnewest houtcome)
  · rw [hhistory]
    cases record.outcome with
    | error e => exact iff_of_true ⟨e, rfl⟩ rfl
    | ok pass => exact iff_of_false nofun nofun
  · rw [hhistory]
    cases houtcome : record.outcome with
    | error e => exact iff_of_false nofun fun h => nomatch h.2.2
    | ok pass =>
        refine iff_of_true ⟨pass, rfl⟩ ⟨status_nowhere_red (by omega) ?_, ?_, rfl⟩
        · rw [herror, houtcome]
          exact nofun
        · exact result_nowhere_red (by omega) hscreen hnewest houtcome

theorem tellsError (hwidth : 5 ≤ width) (hheight : 8 ≤ height) (s : Session) :
    TellsError width height s where
  frame := status_framed (by omega) hheight
  red := (isSome_lastError_iff s).symm.trans (status_red_iff (by omega) hheight)
  otherwise h := status_nowhere_red hheight fun herror => h ((isSome_lastError_iff s).mp herror)

/-- Before the first lookup nothing is red or green. -/
theorem draw_colourless (hwidth : 2 ≤ width) (hheight : 8 ≤ height) (h : s.lastLookup = none)
    (r c : Nat) : (draw width height s).colour r c ≠ some .red ∧
      (draw width height s).colour r c ≠ some .green := by
  have hhistory : s.history = [] := List.head?_eq_none_iff.mp h
  refine draw_shows (P := fun style => style.colour ≠ some .red ∧ style.colour ≠ some .green)
    hwidth hheight (by decide) ?_ ?_ r c
  · unfold contentPane
    cases s.screen with
    | lookup => exact lookupPane_shows (by decide) (by decide) _ _ hhistory
    | districts =>
        exact districtPane_shows (by decide) (by decide) (by decide) (by decide) _ _ _
  · rw [hhistory]
    decide

end

/-- **The places that show the newest outcome never disagree**, on terminals with room for an
    item of the history: on the lookup screen the status line, the result and the first item
    of the history all tell an error, or all a pass; on the district screen the status line
    tells an error and nothing else; and before the first lookup nothing is told. -/
theorem newest_outcome_told_alike {width height : Nat} (hwidth : 5 ≤ width) (hheight : 19 ≤ height)
    (s : Session) :
    (∀ record, s.screen = .lookup → s.lastLookup = some record → record.Unbroken →
      TellsOutcome width height s record.outcome) ∧
    (s.screen = .districts → TellsError width height s) ∧
    (s.lastLookup = none → ∀ r c, (draw width height s).colour r c ≠ some .red ∧
      (draw width height s).colour r c ≠ some .green) :=
  ⟨fun _ hscreen hnewest hrecord => tellsOutcome hwidth hheight hscreen hnewest hrecord,
    fun _ => tellsError hwidth (by omega) s, draw_colourless (by omega) (by omega)⟩

/-- Enter is pressed on two empty fields, on the smallest terminal. -/
theorem newest_outcome_told_alike_of_enter :
    let s := (Session.start ⟨[], [], []⟩ 20).run [.key ⟨9, 0, 0⟩ { code := .enter }]
    let record : LookupRecord := ⟨⟨9, 0, 0⟩, "", none, .error (.invalid .postalCodeRequired)⟩
    s.lastLookup = some record ∧ record.Unbroken ∧
      (draw 5 19 s).Entirely (.status 5 19) .red ∧ (draw 5 19 s).Somewhere (.result 5) .red ∧
      (draw 5 19 s).firstInside (.history 5 19) = some .red := by
  intro s record
  have hscreen : s.screen = .lookup := by rfl
  have hnewest : s.lastLookup = some record := by rfl
  have hrecord : record.Unbroken := ⟨by decide, nofun, nofun⟩
  have htells : TellsOutcome 5 19 s record.outcome :=
    (newest_outcome_told_alike (by omega) (by omega) s).1 record hscreen hnewest hrecord
  exact ⟨hnewest, hrecord, htells.status.mp ⟨_, rfl⟩, htells.result.mp ⟨_, rfl⟩,
    htells.history.mp ⟨_, rfl⟩⟩

end Display

end WastePass
