import WastePass.Display.Style
import WastePass.Text.Width

/-!
# Cells — what stands in one column of one row

    A glyph is a cluster with a style; a cell is what is shown in one column. A line of
    glyphs becomes cells in one of two ways. In running text (`flow`) a glyph without
    width is left out, and the columns that a wide glyph covers keep the style of the
    ground. In a row of a list (`place`) a glyph without width joins the cell before
    it, and covered columns lose their style.
-/

namespace WastePass.Display

open WastePass.Text (Cluster clusters)

/-- A cluster with a style. -/
structure Glyph where
  cluster : Cluster
  style : Style := {}
  deriving DecidableEq, Repr

namespace Glyph

/-- The columns a glyph takes. -/
def width (g : Glyph) : Nat := Cluster.width g.cluster

/-- The glyphs of a text in a style. -/
def ofText (style : Style) (cs : List Char) : List Glyph :=
  (clusters cs).map fun cluster => ⟨cluster, style⟩

/-- The columns that glyphs take. -/
def totalWidth (gs : List Glyph) : Nat := gs.foldr (fun g n => g.width + n) 0

end Glyph

/-- What is shown in one column of one row. -/
structure Cell where
  symbol : String := " "
  style : Style := {}
  deriving DecidableEq, Repr

namespace Cell

/-- A cell with nothing in it. -/
def blank : Cell := {}

/-- A cell with nothing in it but a style. -/
def ground (style : Style) : Cell := { style := style }

/-- The cell with a style laid onto it. -/
def styled (style : Style) (c : Cell) : Cell :=
  { c with style := style.onto c.style }

/-- The cell of a glyph. -/
def ofGlyph (base : Style) (g : Glyph) : Cell :=
  ⟨String.ofList g.cluster, g.style.onto base⟩

/-- The cells of glyphs in running text. -/
def flow (base : Style) (gs : List Glyph) : List Cell :=
  gs.flatMap fun g =>
    match g.width with
    | 0 => []
    | n + 1 => ofGlyph base g :: List.replicate n (ground base)

/-- The cell with a glyph added to what it shows. -/
def join (g : Glyph) (c : Cell) : Cell :=
  { symbol := c.symbol ++ String.ofList g.cluster, style := g.style.onto c.style }

/-- The cells with a glyph added to the first. -/
def joinFirst (g : Glyph) : List Cell → List Cell
  | [] => []
  | c :: cs => join g c :: cs

/-- The cells with a glyph added to the last. -/
def joinLast (g : Glyph) (cs : List Cell) : List Cell :=
  (joinFirst g cs.reverse).reverse

/-- The cells that a wide glyph covers beside its own. -/
def covered (g : Glyph) : List Cell := List.replicate (g.width - 1) blank

/-- The cells of glyphs in a row of a list, behind the cells of those before them, up to
    the first that does not fit. Before any column is taken glyphs join the first
    cell. `taken` counts the columns taken. -/
def placeFrom (limit : Nat) (base : Style) (cells : List Cell) (taken : Nat) :
    List Glyph → List Cell
  | [] => cells
  | g :: gs =>
    if limit < taken + g.width then cells
    else
      let next :=
        if cells.isEmpty then ofGlyph base g :: covered g
        else if taken = 0 then joinFirst g cells ++ covered g
        else if g.width = 0 then joinLast g cells
        else cells ++ ofGlyph base g :: covered g
      placeFrom limit base next (taken + g.width) gs

/-- The cells of glyphs in a row of a list. Nothing shows if no glyph has width. -/
def place (limit : Nat) (base : Style) (gs : List Glyph) : List Cell :=
  if limit = 0 || Glyph.totalWidth gs = 0 then [] else placeFrom limit base [] 0 gs

end Cell

end WastePass.Display
