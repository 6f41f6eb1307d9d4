import WastePass.Display.Cell
import WastePass.Text.Blank

/-!
# Wrapping — lines that fit into columns

    A line that must not be wrapped is cut where it no longer fits. Otherwise it is
    divided between words; a word that is too long for a line is divided itself.
    Blanks at which a line is divided disappear, and so do blanks at its beginning.
    Glyphs wider than a line are left out.
-/

namespace WastePass.Display

namespace Glyph

/-- A glyph between words. -/
def isGap (g : Glyph) : Bool :=
  g.cluster = ['\u200b'] || (g.cluster.all Text.isBlank && g.cluster ≠ ['\u00a0'])

end Glyph

/-- The glyphs of a line that fit, where `taken` columns are taken. -/
def cutFrom (limit taken : Nat) : List Glyph → List Glyph
  | [] => []
  | g :: gs =>
    if limit < g.width then cutFrom limit taken gs
    else if limit < taken + g.width then []
    else g :: cutFrom limit (taken + g.width) gs

/-- The glyphs of a line that fit into a number of columns. -/
def cut (limit : Nat) (line : List Glyph) : List Glyph :=
  cutFrom limit 0 line

/-- A line that is being wrapped: the lines that are done, the latest first, then the words of
    the line at hand, the blanks behind them and the word behind those. `afterWord` says that
    the last glyph belonged to a word. -/
structure Wrapping where
  done : List (List Glyph) := []
  line : List Glyph := []
  gap : List Glyph := []
  word : List Glyph := []
  afterWord : Bool := false

namespace Wrapping

/-- The columns of the line at hand with all that stands behind it. -/
def columns (s : Wrapping) : Nat :=
  Glyph.totalWidth s.line + Glyph.totalWidth s.gap + Glyph.totalWidth s.word

/-- The word is put into the line. -/
def settled (s : Wrapping) : Wrapping :=
  { s with
    line := (if s.line.isEmpty then [] else s.line ++ s.gap) ++ s.word
    gap := []
    word := [] }

/-- The word has to be put into the line before the next glyph. -/
def mustSettle (limit : Nat) (s : Wrapping) (g : Glyph) : Bool :=
  (s.afterWord && g.isGap) ||
    (s.line.isEmpty &&
      (limit < Glyph.totalWidth s.word + g.width || limit < Glyph.totalWidth s.gap + g.width))

/-- The line has to end before the next glyph. -/
def mustEnd (limit : Nat) (s : Wrapping) (g : Glyph) : Bool :=
  limit ≤ Glyph.totalWidth s.line || (0 < g.width && limit ≤ s.columns)

/-- Blanks without those at the front that fit into a number of columns. -/
def dropFitting (room : Nat) : List Glyph → List Glyph
  | [] => []
  | g :: gs => if g.width ≤ room then dropFitting (room - g.width) gs else g :: gs

/-- The line at hand is done. -/
def ended (limit : Nat) (s : Wrapping) : Wrapping :=
  { s with
    done := s.line :: s.done
    line := []
    gap := dropFitting (limit - Glyph.totalWidth s.line) s.gap }

/-- One more glyph stands behind all others. -/
def push (s : Wrapping) (g : Glyph) : Wrapping :=
  if g.isGap then { s with gap := s.gap ++ [g], afterWord := false }
  else { s with word := s.word ++ [g], afterWord := true }

/-- Takes the next glyph. -/
def take (limit : Nat) (s : Wrapping) (g : Glyph) : Wrapping :=
  if limit < g.width then s
  else
    let s := if s.mustSettle limit g then s.settled else s
    if s.mustEnd limit g then
      let s := s.ended limit
      if g.isGap && s.gap.isEmpty then s else s.push g
    else s.push g

/-- The lines when no glyph is left. -/
def finish (s : Wrapping) : List (List Glyph) :=
  let last := (if s.line.isEmpty then [] else s.line ++ s.gap) ++ s.word
  let empty : List (List Glyph) :=
    if s.line.isEmpty && s.word.isEmpty && !s.gap.isEmpty then [[]] else []
  let all := s.done.reverse ++ empty ++ (if last.isEmpty then [] else [last])
  if all.isEmpty then [[]] else all

end Wrapping

/-- The lines that a line is divided into. -/
def wrap (limit : Nat) (line : List Glyph) : List (List Glyph) :=
  (line.foldl (Wrapping.take limit) {}).finish

end WastePass.Display
