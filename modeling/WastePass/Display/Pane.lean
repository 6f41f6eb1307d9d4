import WastePass.Display.Cell

/-!
# Panes — rectangles of cells

    A pane has a cell at every place inside it. Panes are put on top of each other,
    beside each other, or into a frame with a title. Where a pane is too small for its
    frame, the upper left corner is what is left of it.
-/

namespace WastePass.Display

/-- A rectangle of cells. -/
structure Pane where
  width : Nat
  height : Nat
  cell : Nat → Nat → Cell

namespace Pane

/-- A pane with one style and nothing else. -/
def ground (width height : Nat) (style : Style) : Pane where
  width := width
  height := height
  cell _ _ := Cell.ground style

/-- A pane without anything in it. -/
def blank (width height : Nat) : Pane := ground width height {}

/-- A pane of rows of cells; what the rows leave open has the style of the ground. -/
def ofRows (width height : Nat) (base : Style) (rows : List (List Cell)) : Pane where
  width := width
  height := height
  cell r c := (((rows[r]?).getD [])[c]?).getD (Cell.ground base)

/-- A pane on top of another. -/
def above (upper lower : Pane) : Pane where
  width := max upper.width lower.width
  height := upper.height + lower.height
  cell r c := if r < upper.height then upper.cell r c else lower.cell (r - upper.height) c

/-- A pane on the left of another. -/
def beside (left right : Pane) : Pane where
  width := left.width + right.width
  height := max left.height right.height
  cell r c := if c < left.width then left.cell r c else right.cell r (c - left.width)

/-- A pane with a blank margin of one cell around it. -/
def withMargin (p : Pane) : Pane where
  width := p.width + 2
  height := p.height + 2
  cell r c :=
    if 1 ≤ r ∧ r ≤ p.height ∧ 1 ≤ c ∧ c ≤ p.width then p.cell (r - 1) (c - 1)
    else Cell.blank

/-- The part of a frame in the first row. -/
def topSymbol (width c : Nat) : String :=
  if c = 0 then "┌" else if c + 1 = width then "┐" else "─"

/-- The part of a frame in the last row. -/
def bottomSymbol (width c : Nat) : String :=
  if c = 0 then "└" else if c + 1 = width then "┘" else "─"

/-- The cell of a frame in the first row, with the title in it. -/
def topCell (width : Nat) (style : Style) (title : List Cell) (c : Nat) : Cell :=
  if 1 ≤ c ∧ c + 1 < width then
    match title[c - 1]? with
    | some cell => cell
    | none => ⟨topSymbol width c, style⟩
  else ⟨topSymbol width c, style⟩

/-- A frame of a size with a title in its first row and a pane inside. -/
def framed (width height : Nat) (style : Style) (title : String) (inside : Pane) : Pane :=
  let titleCells := Cell.place (width - 2) style (Glyph.ofText {} title.toList)
  { width := width
    height := height
    cell := fun r c =>
      if r = 0 then topCell width style titleCells c
      else if r + 1 = height then ⟨bottomSymbol width c, style⟩
      else if c = 0 ∨ c + 1 = width then ⟨"│", style⟩
      else inside.cell (r - 1) (c - 1) }

/-- The cells of a row. -/
def row (p : Pane) (r : Nat) : List Cell :=
  (List.range p.width).map (p.cell r)

/-- All cells, row by row. -/
def rows (p : Pane) : List (List Cell) :=
  (List.range p.height).map p.row

end Pane

/-- The stretches of cells of one style other than the usual, each with its first column
    and the column behind its last. `first` is the column of the first cell. -/
def styleRuns (first : Nat) : List Cell → List (Nat × Nat × Style)
  | [] => []
  | c :: cs =>
    let others := styleRuns (first + 1) cs
    if c.style = {} then others
    else
      match others with
      | (start, stop, style) :: rest =>
        if start = first + 1 ∧ style = c.style then (first, stop, style) :: rest
        else (first, first + 1, c.style) :: others
      | [] => [(first, first + 1, c.style)]

end WastePass.Display
