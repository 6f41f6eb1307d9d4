import WastePass.Console.Session
import WastePass.Display.Pane
import WastePass.Text.Lines

/-!
# The district screen — the overview as a table

    A table in a frame, with a heading and one row for each district. It is scrolled as
    far as it takes to show the row that is selected, which is yellow from end to end.
-/

namespace WastePass.Display

open WastePass.Text (lines)

/-- What the district screen shows. -/
structure DistrictView where
  overview : List OverviewRow
  selected : Nat
  deriving DecidableEq

/-- What the district screen shows of a session. -/
def DistrictView.ofSession (s : Session) : DistrictView where
  overview := s.overview
  selected := s.selected

/-- The widths of the three columns. -/
structure Columns where
  name : Nat
  ranges : Nat
  passNumber : Nat
  deriving DecidableEq, Repr

/-- The columns of a table. One cell is left between columns. The ranges take what the
    others leave, but have the first claim on twenty cells; after that the names go
    before the pass numbers. -/
def columnsOf (width : Nat) : Columns :=
  let room := width - 2
  let ranges := max (min 20 room) (room - 30)
  let name := min 12 (room - ranges)
  { name := name, ranges := ranges, passNumber := room - ranges - name }

/-- The cells of the first line of a text, filled up with the ground. -/
def column (width : Nat) (style : Style) (text : String) : List Cell :=
  let cells := Cell.place width style (Glyph.ofText {} ((lines text.toList).headD []))
  cells ++ List.replicate (width - cells.length) (Cell.ground style)

/-- A row of the table. -/
def tableRow (width : Nat) (style : Style) (name ranges passNumber : String) : List Cell :=
  let columns := columnsOf width
  let gap := [Cell.ground style]
  let cells := column columns.name style name ++ gap ++ column columns.ranges style ranges ++
    gap ++ column columns.passNumber style passNumber
  (cells ++ List.replicate (width - cells.length) (Cell.ground style)).take width

/-- The style of a row. A district without a pass number is grey. -/
def rowStyle (row : OverviewRow) : Style :=
  if row.passNumber.isSome then {} else .ofColour .darkGray

/-- The row of a district. -/
def districtRow (width : Nat) (row : OverviewRow) : List Cell :=
  tableRow width (rowStyle row) row.district.name (rangesLabel row.ranges)
    (row.passNumber.getD "–")

/-- The first row that is shown. -/
def firstShown (height selected : Nat) : Nat := selected + 1 - height

/-- The rows of the table that are shown, the selected one highlighted. -/
def shownRows (width height : Nat) (view : DistrictView) : List (List Cell) :=
  let selected := min view.selected (view.overview.length - 1)
  let highlighted := (view.overview.zipIdx).map fun (row, i) =>
    let cells := districtRow width row
    if i = selected then cells.map (Cell.styled .active) else cells
  (highlighted.drop (firstShown height selected)).take height

/-- The heading of the table. -/
def heading (width : Nat) : List Cell :=
  tableRow width { bold := true } "District" "Postal codes" "Pass number"

/-- The district screen without the parts that all screens share. -/
def districtPane (width height : Nat) (view : DistrictView) : Pane :=
  let inner := width - 2
  let rows := heading inner :: shownRows inner (height - 3) view
  .framed width height {} "Districts (Esc/←/b to go back)"
    (.ofRows inner (height - 2) {} rows)

end WastePass.Display
